import Courier.Url.Host

/-!
# URLs

Parsing and printing of URLs whose scheme has no special meaning, by the URL standard. With two
slashes an authority follows the scheme; with one slash or none the URL has no host.
-/

namespace Courier

set_option autoImplicit false

structure Authority where
  username : String
  password : String
  host : Option Url.Host
  port : Option Nat
  deriving DecidableEq, Repr

structure Url where
  scheme : String
  authority : Option Authority
  path : String
  query : Option String
  fragment : Option String
  deriving DecidableEq, Repr

namespace Url

def queryEscapes : List Char := [' ', '"', '#', '<', '>']

def fragmentEscapes : List Char := [' ', '"', '<', '>', '`']

def pathEscapes : List Char := fragmentEscapes ++ ['#', '?', '\x7b', '\x7d']

def userinfoEscapes : List Char :=
  pathEscapes ++ ['/', ':', ';', '=', '@', '[', '\\', ']', '^', '|']

def endsAuthority (c : Char) : Bool := c = '/' || c = '?' || c = '#'

def endsPath (c : Char) : Bool := c = '?' || c = '#'

/-- Splits the authority at its last `@`. -/
def splitUserinfo (cs : List Char) : Option (List Char × List Char) :=
  let back := cs.reverse
  match back.dropWhile (· ≠ '@') with
  | [] => none
  | _ :: before => some (before.reverse, (back.takeWhile (· ≠ '@')).reverse)

/-- The host extends to the first colon outside brackets. -/
def splitHost (inside : Bool) : List Char → List Char × List Char
  | [] => ([], [])
  | c :: rest =>
    if c = ':' && !inside then ([], c :: rest)
    else
      let (host, tail) := splitHost (c = '[' || (inside && c ≠ ']')) rest
      (c :: host, tail)

/-- The digits after the colon, below 65536; whatever follows them must be a backslash, which then
opens the path. -/
def readPort : Option Nat → List Char → Except Fault (Option Nat × List Char)
  | port, [] => .ok (port, [])
  | port, c :: rest =>
    if c.isDigit then
      let n := port.getD 0 * 10 + (c.toNat - '0'.toNat)
      if 65535 < n then .error .invalidPort else readPort (some n) rest
    else if c = '\\' then .ok (port, c :: rest)
    else .error .invalidPort

/-- The authority, and the part of it that turns out to open the path. A lone `@` at its front is
refused when something follows the authority. -/
def readAuthority (cs : List Char) (followed : Bool) : Except Fault (Authority × List Char) := do
  if followed && splitUserinfo cs = some ([], []) then throw .emptyHost
  let (user, rest) := (splitUserinfo cs).getD ([], cs)
  let username := percentEncode userinfoEscapes (user.takeWhile (· ≠ ':'))
  let password := percentEncode userinfoEscapes ((user.dropWhile (· ≠ ':')).drop 1)
  let (hostText, portText) := splitHost false rest
  let host ← Host.parse hostText
  let (port, tail) ←
    match host, portText with
    | none, ':' :: _ => throw .emptyHost
    | _, ':' :: digits => readPort none digits
    | _, _ => pure (none, [])
  let named := username ≠ "" || password ≠ ""
  if host.isNone && named then throw .emptyHost
  return (⟨username, password, host, port⟩, tail)

def isDoubleDot (segment : String) : Bool :=
  [ "..", ".%2e", "%2e.", "%2e%2e" ].contains (segment.map Char.toLower)

def isSingleDot (segment : String) : Bool :=
  [ ".", "%2e" ].contains (segment.map Char.toLower)

/-- A segment that starts with a drive letter is never removed. -/
def isDriveLetter (segment : String) : Bool :=
  match segment.toList with
  | c :: d :: rest => c.isAlpha && (d = ':' || d = '|') && (rest.isEmpty || rest.head? = some '\\')
  | _ => false

/-- Removes the last directory; `dirs` has the last one first. -/
def ascend : List String → List String
  | [] => []
  | d :: rest => if isDriveLetter d then d :: rest else rest

/-- Resolves dot segments; the last segment names no directory. -/
def resolveSegments (dirs : List String) : List String → List String × String
  | [] => (dirs, "")
  | [last] =>
    if isDoubleDot last then (ascend dirs, "")
    else if isSingleDot last then (dirs, "")
    else (dirs, last)
  | segment :: rest =>
    if isDoubleDot segment then resolveSegments (ascend dirs) rest
    else if isSingleDot segment then resolveSegments dirs rest
    else resolveSegments (segment :: dirs) rest

/-- The path after its leading slash. -/
def hierarchicalPath (cs : List Char) : String :=
  let segments := (cs.splitOn '/').map (percentEncode pathEscapes)
  let (dirs, last) := resolveSegments [] segments
  "/" ++ String.join (dirs.reverse.map (· ++ "/")) ++ last

/-- Query and fragment, from the character that opens them. -/
def readTail (cs : List Char) : Option String × Option String :=
  let fragment (cs : List Char) : Option String :=
    match cs with
    | '#' :: rest => some (percentEncode fragmentEscapes rest)
    | _ => none
  match cs with
  | '?' :: rest =>
    (some (percentEncode queryEscapes (rest.takeWhile (· ≠ '#'))),
      fragment (rest.dropWhile (· ≠ '#')))
  | cs => (none, fragment cs)

/-- Blanks and controls at the end do not count, nor do tabs and line ends anywhere. -/
def tidy (cs : List Char) : List Char :=
  let trimmed := (cs.reverse.dropWhile fun c => decide (c.toNat ≤ 0x20)).reverse
  trimmed.filter fun c => c ≠ '\t' && c ≠ '\n' && c ≠ '\r'

/-- The URL made of a scheme and the text after its colon. -/
def ofScheme (scheme : String) (text : String) : Except Fault Url := do
  let cs := tidy text.toList
  match cs with
  | '/' :: '/' :: rest =>
    let beyond := rest.dropWhile (!endsAuthority ·)
    let (authority, opening) ← readAuthority (rest.takeWhile (!endsAuthority ·)) (!beyond.isEmpty)
    let rest := opening ++ beyond
    let path :=
      match rest.takeWhile (!endsPath ·) with
      | [] => ""
      | '/' :: segments => hierarchicalPath segments
      | segments => hierarchicalPath segments
    let (query, fragment) := readTail (rest.dropWhile (!endsPath ·))
    return ⟨scheme, some authority, path, query, fragment⟩
  | cs =>
    let path :=
      match cs.takeWhile (!endsPath ·) with
      | '/' :: segments => hierarchicalPath segments
      | opaquePath => percentEncode [] opaquePath
    let (query, fragment) := readTail (cs.dropWhile (!endsPath ·))
    return ⟨scheme, none, path, query, fragment⟩

def host? (u : Url) : Option String := u.authority.bind fun a => a.host.map Host.text

end Url

def Authority.text (a : Authority) : String :=
  let secret := if a.password = "" then "" else ":" ++ a.password
  let user := if a.username = "" && a.password = "" then "" else a.username ++ secret ++ "@"
  let host := (a.host.map Url.Host.text).getD ""
  let port := (a.port.map fun n => ":" ++ toString n).getD ""
  user ++ host ++ port

/-- A path that would be taken for an authority gets a dot segment in front. -/
def Url.text (u : Url) : String :=
  let before :=
    match u.authority with
    | some a => "//" ++ a.text
    | none => if u.path.startsWith "//" then "/." else ""
  u.scheme ++ ":" ++ before ++ u.path ++ ((u.query.map ("?" ++ ·)).getD "") ++
    ((u.fragment.map ("#" ++ ·)).getD "")

end Courier
