import PageSync.Url.Basic
import PageSync.Text.Pieces

/-!
Reading paths. A path is cut at its slashes; `.` segments are dropped and `..` segments take the
segment before them away, in every spelling with escapes. A segment that looks like a drive letter
is never taken away, and in a file URL it is written with a colon where it comes first.
-/

namespace PageSync.Url

open Text

abbrev Segment := List Char

def Segment.isSingleDot (s : Segment) : Bool :=
  s == ['.'] || s == ['%', '2', 'e'] || s == ['%', '2', 'E']

def dotSpellings : List (List Char) := [['.'], ['%', '2', 'e'], ['%', '2', 'E']]

def Segment.isDoubleDot (s : Segment) : Bool :=
  dotSpellings.any fun a => dotSpellings.any fun b => s == a ++ b

def Segment.isDriveLetter (s : Segment) : Bool :=
  match s with
  | [letter, mark] => letter.isAlpha && (mark == ':' || mark == '|')
  | _ => false

def Segment.isNormalDriveLetter (s : Segment) : Bool :=
  match s with
  | [letter, mark] => letter.isAlpha && mark == ':'
  | _ => false

def Segment.startsWithDrive (s : Segment) : Bool :=
  match s with
  | letter :: mark :: rest =>
    letter.isAlpha && (mark == ':' || mark == '|') && (rest.isEmpty || rest.head? == some '\\')
  | _ => false

/-- Takes the last segment away, unless it begins with a drive letter. -/
def dropLastSegment (done : List Segment) : List Segment :=
  match done.getLast? with
  | some last => if last.startsWithDrive then done else done.dropLast
  | none => done

def normalizeDrive (kind : Kind) (done : List Segment) (s : Segment) : Segment :=
  if kind = .file && done.isEmpty && s.isDriveLetter then [s.headD ':', ':'] else s

def enter (kind : Kind) (done : List Segment) (s : Segment) : List Segment :=
  if s.isDoubleDot then dropLastSegment done
  else if s.isSingleDot then done
  else done ++ [normalizeDrive kind done (percentEncode keptInPath s)]

/-- The segments after the last one: a dot segment leaves an empty one behind. -/
def finish (kind : Kind) (done : List Segment) (s : Segment) : List Segment :=
  if s.isDoubleDot || s.isSingleDot then enter kind done s ++ [[]] else enter kind done s

def walk (kind : Kind) (done : List Segment) : List Segment → List Segment
  | [] => done
  | [last] => finish kind done last
  | s :: rest => walk kind (enter kind done s) rest

def cutPath (text : List Char) : List Char × List Char :=
  let ends (c : Char) : Bool := c == '?' || c == '#'
  (text.takeWhile (!ends ·), text.dropWhile (!ends ·))

/-- The segments of a path that goes on after those in `done` and a slash, and what follows it. -/
def readSegments (kind : Kind) (done : List Segment) (text : List Char) :
    List Segment × List Char :=
  let (path, rest) := cutPath text
  (walk kind done (pieces kind.isSlash path), rest)

/-- In a file URL the path does not begin with empty segments. -/
def settle (kind : Kind) (segments : List Segment) : Path :=
  if kind = .file then
    match segments.dropWhile List.isEmpty with
    | [] => .segments [[]]
    | segments => .segments segments
  else .segments segments

/-- The path after an authority, and what follows it. Only special URLs must have one. -/
def readPath (kind : Kind) (text : List Char) : List Segment × List Char :=
  match text with
  | [] => if kind = .other then ([], []) else ([[]], [])
  | c :: rest =>
    if kind.isSlash c then readSegments kind [] rest
    else if kind = .other && (c == '?' || c == '#') then ([], c :: rest)
    else readSegments kind [] (c :: rest)

def startsWithDriveSegment (text : List Char) : Bool :=
  match text with
  | letter :: mark :: rest =>
    letter.isAlpha && (mark == ':' || mark == '|') &&
      rest.head?.all fun c => ['/', '\\', '?', '#'].contains c
  | _ => false

/-- The segments of a base path that a relative path goes on from, and the beginning of the next
segment: a drive letter that ends the path of a file URL stays. -/
def keptOfBase (kind : Kind) (base : List Segment) : List Segment × Segment :=
  match base.getLast? with
  | some last =>
    if kind = .file && last.isNormalDriveLetter then
      if base.length = 1 then (base, []) else (base.dropLast, last)
    else (base.dropLast, [])
  | none => ([], [])

def walkFrom (kind : Kind) (done : List Segment) (opened : Segment) (path : List Segment) :
    List Segment :=
  match path with
  | [] => done ++ [opened]
  | s :: rest =>
    let done :=
      if s.isDoubleDot || s.isSingleDot then done ++ [opened]
      else done ++ [opened ++ percentEncode keptInPath s]
    if rest.isEmpty && s.isSingleDot then done ++ [[]] else walk kind done rest

def readRelativePath (kind : Kind) (base : List Segment) (text : List Char) :
    List Segment × List Char :=
  match keptOfBase kind base with
  | (done, []) => readSegments kind done text
  | (done, opened) =>
    let (path, rest) := cutPath text
    (walkFrom kind done opened (pieces kind.isSlash path), rest)

end PageSync.Url
