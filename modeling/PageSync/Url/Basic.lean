import PageSync.Text.Percent

/-!
Absolute URLs and their text. A URL is a scheme, perhaps an authority (user, host, port), a path,
and perhaps a query and a fragment. All parts are kept as they are written, already escaped.
-/

namespace PageSync

inductive Url.Kind where
  | special
  | file
  | other
deriving Repr, DecidableEq

inductive Url.Host where
  | name (text : List Char)
  | ipv4 (address : Nat)
  /-- eight groups of sixteen bits -/
  | ipv6 (groups : List Nat)
deriving Repr, DecidableEq

/-- `//user:password@host:port`; without a host the host's place is empty. -/
structure Url.Authority where
  user : List Char := []
  password : List Char := []
  host : Option Url.Host := none
  port : Option Nat := none
deriving Repr, DecidableEq

/-- A path is one text without structure, or segments, each written after a slash. -/
inductive Url.Path where
  | unstructured (text : List Char)
  | segments (parts : List (List Char))
deriving Repr, DecidableEq

structure Url where
  scheme : List Char
  authority : Option Url.Authority
  path : Url.Path
  query : Option (List Char)
  fragment : Option (List Char)
deriving Repr, DecidableEq

namespace Url

def kindOf (scheme : List Char) : Kind :=
  match String.ofList scheme with
  | "http" => .special
  | "https" => .special
  | "ws" => .special
  | "wss" => .special
  | "ftp" => .special
  | "file" => .file
  | _ => .other

def kind (url : Url) : Kind := kindOf url.scheme

/-- In special and file URLs a backslash is as good as a slash. -/
def Kind.isSlash (kind : Kind) (c : Char) : Bool := c == '/' || (kind != .other && c == '\\')

def defaultPort? (scheme : List Char) : Option Nat :=
  match String.ofList scheme with
  | "http" => some 80
  | "https" => some 443
  | "ws" => some 80
  | "wss" => some 443
  | "ftp" => some 21
  | _ => none

/-! ### Text -/

def ipv4Text (address : Nat) : String :=
  ".".intercalate
    ([3, 2, 1, 0].map fun place => Text.decimalText (address / Nat.pow 256 place % 256))

def longestZeros (groups : List Nat) : Nat × Nat :=
  let runs := (List.range groups.length).map fun i =>
    (i, ((groups.drop i).takeWhile (· == 0)).length)
  runs.foldl (fun best run => if best.2 < run.2 then run else best) (0, 0)

def groupsText (groups : List Nat) : String := ":".intercalate (groups.map Text.hexText)

/-- Two or more zero groups in a row are left out once, the longest run and of these the first. -/
def ipv6Text (groups : List Nat) : String :=
  let (start, length) := longestZeros groups
  if length < 2 then groupsText groups
  else groupsText (groups.take start) ++ "::" ++ groupsText (groups.drop (start + length))

def Host.text : Host → List Char
  | .name text => text
  | .ipv4 address => (ipv4Text address).toList
  | .ipv6 groups => '[' :: (ipv6Text groups).toList ++ [']']

def Authority.userText (authority : Authority) : List Char :=
  match authority.user, authority.password with
  | [], [] => []
  | user, [] => user ++ ['@']
  | user, password => user ++ ':' :: password ++ ['@']

def Authority.text (authority : Authority) : List Char :=
  '/' :: '/' :: authority.userText ++ (authority.host.map Host.text).getD [] ++
    match authority.port with
    | some port => ':' :: (Text.decimalText port).toList
    | none => []

def Path.text : Path → List Char
  | .unstructured text => text
  | .segments parts => parts.flatMap ('/' :: ·)

/-- Without an authority a path must not begin with two slashes: `/.` keeps them apart. -/
def pathGuard (url : Url) : List Char :=
  match url.authority, url.path with
  | none, .segments ([] :: _ :: _) => ['/', '.']
  | _, _ => []

def marked (mark : Char) : Option (List Char) → List Char
  | some text => mark :: text
  | none => []

def text (url : Url) : List Char :=
  url.scheme ++ ':' :: (url.authority.map Authority.text).getD [] ++ url.pathGuard ++
    url.path.text ++ marked '?' url.query ++ marked '#' url.fragment

def href (url : Url) : String := String.ofList url.text

def pathname (url : Url) : String := String.ofList url.path.text

/-! ### Escapes

Each part shows some characters as they are. All others are written as percent escapes of their
UTF-8 bytes. The percent sign itself is always kept. -/

def isPlain (c : Char) : Bool := 0x20 ≤ c.toNat && c.toNat < 0x7F

def plainExcept (excluded : List Char) (c : Char) : Bool := isPlain c && !excluded.contains c

def keptInFragment : Char → Bool := plainExcept [' ', '"', '<', '>', '`']

def keptInPath : Char → Bool :=
  plainExcept [' ', '"', '<', '>', '`', '#', '?', '\x7b', '\x7d']

def keptInUser : Char → Bool :=
  plainExcept [' ', '"', '<', '>', '`', '#', '?', '\x7b', '\x7d',
    '/', ':', ';', '=', '@', '[', '\\', ']', '^', '|']

def keptInQuery : Char → Bool := plainExcept [' ', '"', '#', '<', '>']

def keptInSpecialQuery : Char → Bool := plainExcept [' ', '"', '#', '<', '>', '\'']

/-! ### Errors -/

inductive Error where
  /-- a relative reference, and nothing to resolve it against -/
  | noBase
  /-- a relative reference against a URL whose path has no structure -/
  | unstructuredBase
  | emptyHost
  | invalidPort
  | invalidIpv4
  | invalidIpv6
  /-- a host name with forbidden characters, or one that has no ASCII form -/
  | invalidName
deriving Repr, DecidableEq

def Error.message : Error → String
  | .noBase => "relative URL without a base"
  | .unstructuredBase => "relative URL with a cannot-be-a-base base"
  | .emptyHost => "empty host"
  | .invalidPort => "invalid port number"
  | .invalidIpv4 => "invalid IPv4 address"
  | .invalidIpv6 => "invalid IPv6 address"
  | .invalidName => "invalid international domain name"

end Url

end PageSync
