import PageSync.Url.Address
import PageSync.Url.Domain

/-!
Reading what stands between `//` and the path: user and password before the last `@`, the host, and
the port after a colon.
-/

namespace PageSync.Url

open Text

def endsAuthority (kind : Kind) (c : Char) : Bool := kind.isSlash c || c == '?' || c == '#'

/-! ### Host -/

def readBracketed (text : List Char) : Except Error Host :=
  if text.getLast? = some ']' then (readIpv6 text.tail.dropLast).map .ipv6
  else .error .invalidIpv6

def readNamedHost (text : List Char) : Except Error Host :=
  if text.head? = some '[' then readBracketed text
  else match asciiName? (percentDecode text) with
    | none => .error .invalidName
    | some [] => .error .emptyHost
    | some name => if endsInNumber name then (readIpv4 name).map .ipv4 else .ok (.name name)

def isForbiddenInHost (c : Char) : Bool :=
  ['\x00', '\t', '\n', '\r', ' ', '#', '/', ':', '<', '>', '?', '@', '[', '\\', ']', '^',
    '|'].contains c

/-- The host of any other URL: an IPv6 address, or a text that is only escaped. -/
def readPlainHost (text : List Char) : Except Error Host :=
  if text.head? = some '[' then readBracketed text
  else if text.any isForbiddenInHost then .error .invalidName
  else .ok (.name (percentEncode isPlain text))

/-- Cuts before the colon of the port, if it stands outside brackets, or where the host ends. -/
def cutHost (kind : Kind) (inBrackets : Bool) : List Char → List Char × List Char
  | [] => ([], [])
  | c :: rest =>
    if endsAuthority kind c || (c == ':' && !inBrackets) then ([], c :: rest)
    else
      let inside := if c = '[' then true else if c = ']' then false else inBrackets
      let (host, rest) := cutHost kind inside rest
      (c :: host, rest)

/-- The host, none if its place is empty. Special URLs must have one, and so must a port. -/
def readHost (kind : Kind) (text : List Char) : Except Error (Option Host × List Char) := do
  let (host, rest) := cutHost kind false text
  if host.isEmpty then
    if kind = .special || rest.head? = some ':' then .error .emptyHost else .ok (none, rest)
  else
    let host ← if kind = .other then readPlainHost host else readNamedHost host
    .ok (some host, rest)

/-! ### Port -/

/-- A port after its colon. No digits, and the default of the scheme, mean no port. -/
def readPort (scheme text : List Char) : Except Error (Option Nat × List Char) :=
  let digits := text.takeWhile Char.isDigit
  let rest := text.dropWhile Char.isDigit
  let port := decimalNumeral digits
  if 65535 < port then .error .invalidPort
  else if rest.head?.all fun c => ['/', '\\', '?', '#'].contains c then
    .ok (if digits.isEmpty || defaultPort? scheme = some port then none else some port, rest)
  else .error .invalidPort

def readPort? (scheme text : List Char) : Except Error (Option Nat × List Char) :=
  match text with
  | ':' :: rest => readPort scheme rest
  | rest => .ok (none, rest)

/-! ### User -/

def cutAtLast (mark : Char) (text : List Char) : Option (List Char × List Char) :=
  match text with
  | [] => none
  | c :: rest =>
    match cutAtLast mark rest with
    | some (left, right) => some (c :: left, right)
    | none => if c = mark then some ([], rest) else none

def readUser (kind : Kind) (text : List Char) :
    Except Error (List Char × List Char × List Char) :=
  let authority := text.takeWhile (!endsAuthority kind ·)
  let after := text.dropWhile (!endsAuthority kind ·)
  match cutAtLast '@' authority with
  | none => .ok ([], [], text)
  | some ([], []) => if after.isEmpty then .ok ([], [], []) else .error .emptyHost
  | some (info, rest) =>
    let (user, password) := cutAt ':' info
    .ok (percentEncode keptInUser user, percentEncode keptInUser (password.getD []), rest ++ after)

def readAuthority (scheme text : List Char) : Except Error (Authority × List Char) := do
  let kind := kindOf scheme
  let (user, password, rest) ← readUser kind text
  let (host, rest) ← readHost kind rest
  let (port, rest) ← readPort? scheme rest
  let authority : Authority := ⟨user, password, host, port⟩
  if host.isNone && !authority.userText.isEmpty then .error .emptyHost
  else .ok (authority, rest)

end PageSync.Url
