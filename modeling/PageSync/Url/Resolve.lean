import PageSync.Url.Authority
import PageSync.Url.Segments

/-!
Reading a URL from text, absolute or against a base. `Url.parse` is the whole; `Url.join` resolves
a reference against a base and `Url.absolute` reads without one.
-/

namespace PageSync.Url

open Text

/-! ### Input -/

/-- Controls and spaces at the ends do not count, nor do tabs and line ends anywhere. -/
def clean (text : List Char) : List Char :=
  (trim (·.toNat ≤ 0x20) text).filter fun c => !(['\t', '\n', '\r'].contains c)

def isSchemeChar (c : Char) : Bool := c.isAlphanum || c == '+' || c == '-' || c == '.'

def cutScheme (text : List Char) : Option (List Char × List Char) :=
  let scheme := text.takeWhile isSchemeChar
  match text.dropWhile isSchemeChar with
  | ':' :: rest =>
    if scheme.head?.any Char.isAlpha then some (scheme.map Char.toLower, rest) else none
  | _ => none

/-! ### Query and fragment -/

def readFragment (text : List Char) : Option (List Char) :=
  match text with
  | '#' :: rest => some (percentEncode keptInFragment rest)
  | _ => none

def encodeQuery (kind : Kind) (text : List Char) : List Char :=
  percentEncode (if kind = .other then keptInQuery else keptInSpecialQuery) text

def readTail (kind : Kind) (text : List Char) : Option (List Char) × Option (List Char) :=
  match text with
  | '?' :: rest =>
    (some (encodeQuery kind (rest.takeWhile (· != '#'))), readFragment (rest.dropWhile (· != '#')))
  | rest => (none, readFragment rest)

def withTail (scheme : List Char) (authority : Option Authority) (path : Path)
    (rest : List Char) : Url :=
  let (query, fragment) := readTail (kindOf scheme) rest
  { scheme, authority, path, query, fragment }

/-! ### With an authority -/

def afterSlashes (scheme text : List Char) : Except Error Url := do
  let (authority, rest) ← readAuthority scheme text
  let (segments, rest) := readPath (kindOf scheme) rest
  .ok (withTail scheme (some authority) (.segments segments) rest)

/-! ### Relative to a base -/

def Path.segmentList : Path → List Segment
  | .segments parts => parts
  | .unstructured _ => []

def replaceTail (base : Url) (rest : List Char) : Url :=
  match rest with
  | [] => { base with fragment := none }
  | '#' :: _ => { base with fragment := readFragment rest }
  | rest => withTail base.scheme base.authority base.path rest

/-- A reference without a scheme, against a base that is not a file. -/
def readRelative (base : Url) (text : List Char) : Except Error Url :=
  let kind := base.kind
  match text with
  | [] => .ok (replaceTail base text)
  | c :: rest =>
    if c = '?' || c = '#' then .ok (replaceTail base text)
    else if c = '/' || c = '\\' then
      match text with
      | '/' :: '/' :: rest => afterSlashes base.scheme rest
      | _ =>
        let afterAll := text.dropWhile fun c => c == '/' || c == '\\'
        if rest.head? = some '/' || rest.head? = some '\\' then afterSlashes base.scheme afterAll
        else
          let (segments, rest) := readSegments kind [] rest
          .ok (withTail base.scheme base.authority (.segments segments) rest)
    else
      let (segments, rest) := readRelativePath kind base.path.segmentList text
      .ok (withTail base.scheme base.authority (.segments segments) rest)

/-! ### File URLs -/

def fileScheme : List Char := ['f', 'i', 'l', 'e']

def fileUrl (host : Option Host) (segments : List Segment) (rest : List Char) : Url :=
  withTail fileScheme (some { host }) (settle .file segments) rest

/-- After `file://`. The name `localhost` is no host, nor is a drive letter, which begins the path;
and a path that begins with a drive letter has no host. -/
def readFileHost (text : List Char) : Except Error Url :=
  let ends (c : Char) : Bool := endsAuthority .file c
  let name := text.takeWhile (!ends ·)
  let after := text.dropWhile (!ends ·)
  let withoutHost (rest : List Char) : Url :=
    let (segments, rest) := readSegments .file [] rest
    fileUrl none segments rest
  if Segment.isDriveLetter name then .ok (withoutHost text)
  else if name.isEmpty then .ok (withoutHost after)
  else do
    let host ← readNamedHost name
    if host = .name "localhost".toList then .ok (withoutHost after)
    else
      let (segments, rest) := readPath .file after
      let dropped := segments.head?.any Segment.isNormalDriveLetter
      .ok (fileUrl (if dropped then none else some host) segments rest)

def isAnySlash (c : Char) : Bool := c == '/' || c == '\\'

/-- After one slash: the drive letter or else the host of a file base stays, unless the path brings
its own drive letter. -/
def readFileRoot (base : Option Url) (text : List Char) : Url :=
  let inherited := if startsWithDriveSegment text then none else base
  match inherited with
  | none =>
    let (segments, rest) := readSegments .file [] text
    fileUrl none segments rest
  | some base =>
    match base.path.segmentList.head? with
    | some first =>
      if first.isNormalDriveLetter then
        let (segments, rest) := readSegments .file [first] text
        fileUrl none segments rest
      else
        let (segments, rest) := readSegments .file [] text
        fileUrl (base.authority.bind (·.host)) segments rest
    | none =>
      let (segments, rest) := readSegments .file [] text
      fileUrl (base.authority.bind (·.host)) segments rest

/-- A file URL after its scheme, or a reference without a scheme against a file base. -/
def readFile (base : Option Url) (text : List Char) : Except Error Url :=
  match text with
  | c :: rest =>
    if isAnySlash c then
      match rest with
      | d :: rest' => if isAnySlash d then readFileHost rest' else .ok (readFileRoot base rest)
      | [] => .ok (readFileRoot base rest)
    else match base with
      | some base =>
        if c = '?' || c = '#' then .ok (replaceTail base text)
        else if startsWithDriveSegment text then
          let (segments, rest) := readSegments .file [] text
          .ok (fileUrl none segments rest)
        else
          let (segments, rest) := readRelativePath .file base.path.segmentList text
          .ok (withTail fileScheme base.authority (settle .file segments) rest)
      | none =>
        let (segments, rest) := readSegments .file [] text
        .ok (fileUrl none segments rest)
  | [] =>
    match base with
    | some base => .ok (replaceTail base [])
    | none => .ok (fileUrl none [[]] [])

/-! ### The whole -/

def readOther (scheme text : List Char) : Except Error Url :=
  match text with
  | '/' :: '/' :: rest => afterSlashes scheme rest
  | '/' :: rest =>
    let (segments, rest) := readSegments .other [] rest
    .ok (withTail scheme none (.segments segments) rest)
  | text =>
    let (path, rest) := cutPath text
    .ok (withTail scheme none (.unstructured (percentEncode isPlain path)) rest)

/-- After a special scheme: relative if the base has the same scheme and fewer than two slashes
follow. -/
def readSpecial (base : Option Url) (scheme text : List Char) : Except Error Url :=
  let slashes := (text.takeWhile isAnySlash).length
  match base.filter (·.scheme = scheme) with
  | some base =>
    if slashes < 2 then readRelative base text
    else afterSlashes scheme (text.dropWhile isAnySlash)
  | none => afterSlashes scheme (text.dropWhile isAnySlash)

def readReference (base : Option Url) (text : List Char) : Except Error Url :=
  match base with
  | none => .error .noBase
  | some base =>
    if text.head? = some '#' then .ok (replaceTail base text)
    else match base.path with
      | .unstructured _ => .error .unstructuredBase
      | .segments _ => if base.kind = .file then readFile (some base) text
        else readRelative base text

def parse (base : Option Url) (text : String) : Except Error Url :=
  let input := clean text.toList
  match cutScheme input with
  | some (scheme, rest) =>
    match kindOf scheme with
    | .file => readFile (base.filter (·.kind = .file)) rest
    | .special => readSpecial base scheme rest
    | .other => readOther scheme rest
  | none => readReference base input

def absolute (text : String) : Except Error Url := parse none text

def join? (base : Url) (reference : String) : Option Url := (parse (some base) reference).toOption

/-- The base of a page: its origin, or its whole address when the origin is not a URL. -/
def baseFor? (origin href : String) : Option Url :=
  match absolute origin with
  | .ok url => some url
  | .error _ => (absolute href).toOption

end PageSync.Url
