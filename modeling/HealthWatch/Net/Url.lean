import HealthWatch.Net.Host

/-!
# URLs

`Url.ofText?` reads an absolute URL by the rules that browsers follow, which
forgive much: blanks around it are dropped and line breaks and tabs inside it,
backslashes count as slashes, and any number of slashes may stand before the
host.  What is read is put into its normal form: scheme and host in lower case,
no port that the scheme has anyway, no `.` and `..` in the path, and characters
that cannot stand for themselves percent-encoded.  `Url.text` writes it.
-/

namespace HealthWatch.Net

/-- The path of a URL. -/
inductive UrlPath where
  /-- Segments, each after a slash. -/
  | segments (l : List String)
  /-- A text in which slashes mean nothing. -/
  | plain (s : String)
deriving DecidableEq

/-- An absolute URL in its normal form. -/
structure Url where
  scheme : String
  user : String
  password : Option String
  host : Option Host
  port : Option Nat
  path : UrlPath
  query : Option String
  fragment : Option String
deriving DecidableEq

namespace Url

/-- Whether a scheme is one that every browser knows, files apart. -/
def isSpecial (scheme : String) : Bool :=
  ["http", "https", "ws", "wss", "ftp"].contains scheme

/-- The port that a scheme has anyway. -/
def defaultPort? (scheme : String) : Option Nat :=
  if scheme = "http" || scheme = "ws" then some 80
  else if scheme = "https" || scheme = "wss" then some 443
  else if scheme = "ftp" then some 21
  else none

/-- The text of a path. -/
def pathText : UrlPath → String
  | .segments l => String.join (l.map ("/" ++ ·))
  | .plain s => s

/-- The text of who asks, with the sign that ends it. -/
def userText (url : Url) : String :=
  match url.password with
  | some password => url.user ++ ":" ++ password ++ "@"
  | none => if url.user.isEmpty then "" else url.user ++ "@"

/-- The text of a part that may be missing, after its mark. -/
def optionalText (mark : String) : Option String → String
  | some s => mark ++ s
  | none => ""

/-- The text of a URL. -/
def text (url : Url) : String :=
  let authority := match url.host with
    | some host => "//" ++ url.userText ++ host.text ++
        optionalText ":" (url.port.map toString)
    | none => ""
  url.scheme ++ ":" ++ authority ++ pathText url.path ++
    optionalText "?" url.query ++ optionalText "#" url.fragment

/-- The characters of a text that count: those between the blanks and controls
around it, without line breaks and tabs. -/
def relevant (s : String) : List Char :=
  let isEdge (c : Char) : Bool := c.toNat ≤ 0x20
  let inner := ((s.toList.dropWhile isEdge).reverse.dropWhile isEdge).reverse
  inner.filter fun c => c != '\t' && c != '\n' && c != '\r'

/-- The scheme before a colon, in lower case, and what follows the colon. -/
def scheme? (cs : List Char) : Option (String × List Char) :=
  let isPart (c : Char) : Bool := c.isAlphanum || c == '+' || c == '-' || c == '.'
  match cs.head?, cs.dropWhile isPart with
  | some c, ':' :: rest =>
    if c.isAlpha then some (String.ofList ((cs.takeWhile isPart).map Char.toLower), rest)
    else none
  | _, _ => none

/-- Whether a character separates the segments of a path. -/
def isSlash (special : Bool) (c : Char) : Bool := c == '/' || (special && c == '\\')

/-- Whether a character ends the host and what belongs to it. -/
def endsAuthority (special : Bool) (c : Char) : Bool :=
  isSlash special c || c == '?' || c == '#'

/-- Splits at the last `@`, if there is one. -/
def splitUser (cs : List Char) : Option (List Char) × List Char :=
  let host := (cs.reverse.takeWhile (· != '@')).reverse
  if host.length < cs.length then (some (cs.take (cs.length - host.length - 1)), host)
  else (none, cs)

/-- Splits at the first colon outside brackets; it stays with the second part. -/
def splitPort : (inside : Bool) → List Char → List Char × List Char
  | _, [] => ([], [])
  | inside, c :: rest =>
    if c = ':' && !inside then ([], c :: rest)
    else
      let inside := if c = '[' then true else if c = ']' then false else inside
      let (host, port) := splitPort inside rest
      (c :: host, port)

/-- Reads a port, of which no digits are none, and what follows it.  A backslash
ends it even where backslashes do not count as slashes. -/
def port? (scheme : String) (cs : List Char) : Option (Option Nat × List Char) :=
  let ds := cs.takeWhile Char.isDigit
  let rest := cs.drop ds.length
  let port := digitsValue ds
  if 0xffff < port || rest.head?.any (· != '\\') then none
  else if ds.isEmpty || defaultPort? scheme == some port then some (none, rest)
  else some (some port, rest)

/-- Who asks, and of which host, at which port. -/
structure Authority where
  user : String
  password : Option String
  host : Option Host
  port : Option Nat

/-- The authority of a URL that has none. -/
def nobody : Authority := ⟨"", none, none, none⟩

/-- The name and the password of who asks.  An empty password is none. -/
def credentials (cs : List Char) : String × Option String :=
  let name := UrlPart.user.encode (cs.takeWhile (· != ':'))
  match cs.dropWhile (· != ':') with
  | _ :: c :: rest => (name, some (UrlPart.user.encode (c :: rest)))
  | _ => (name, none)

/-- Reads what stands between the slashes and the path, of which `final` tells
whether it ends the text, and what of it belongs to the path.  A host may be
missing only in the schemes that not every browser knows, and only if neither a
port nor someone who asks is told.  That nobody asks may be told by an `@` of its
own, but then something must follow it. -/
def authority? (scheme : String) (final : Bool) (cs : List Char) :
    Option (Authority × List Char) := do
  let special := isSpecial scheme
  let (who, rest) := splitUser cs
  guard (!(who = some [] && rest.isEmpty && !final))
  let (user, password) := credentials (who.getD [])
  let (hostChars, portChars) := splitPort false rest
  if hostChars.isEmpty then
    if special || !portChars.isEmpty || !user.isEmpty || password.isSome then none
    else some (nobody, [])
  else
    let host ← if special then Host.ofSpecial? hostChars else Host.ofOther? hostChars
    let (port, rest) ← port? scheme (portChars.drop 1)
    some (⟨user, password, some host, port⟩, rest)

/-- Whether a segment names the segment that it stands in. -/
def isDot (s : String) : Bool := [".", "%2e"].contains s.toLower

/-- Whether a segment names the segment before it. -/
def isDoubleDot (s : String) : Bool :=
  ["..", ".%2e", "%2e.", "%2e%2e"].contains s.toLower

/-- Whether a text is a letter and the sign of a drive. -/
def isDrive : List Char → Bool
  | [letter, sign] => letter.isAlpha && (sign == ':' || sign == '|')
  | _ => false

/-- Whether a segment begins with the name of a drive, up to its end or a
backslash. -/
def startsWithDrive (s : String) : Bool := isDrive (s.toList.takeWhile (· != '\\'))

/-- The segments before the last one, the last one first, after a `..` there.  The
name of a drive stays. -/
def withoutLast : List String → List String
  | [] => []
  | last :: kept => if startsWithDrive last then last :: kept else kept

/-- The segments of a path without those that only name others.  `kept` holds
those before, the last one first. -/
def normalSegments (kept : List String) : List String → List String
  | [] => kept.reverse
  | [last] =>
    if isDoubleDot last then ("" :: withoutLast kept).reverse
    else if isDot last then ("" :: kept).reverse
    else (last :: kept).reverse
  | s :: rest =>
    if isDoubleDot s then normalSegments (withoutLast kept) rest
    else if isDot s then normalSegments kept rest
    else normalSegments (s :: kept) rest

/-- What stands between slashes. -/
def splitSlashes (special : Bool) : List Char → List (List Char)
  | [] => [[]]
  | c :: rest =>
    match splitSlashes special rest with
    | [] => [[c]]
    | first :: others =>
      if isSlash special c then [] :: first :: others else (c :: first) :: others

/-- The path of its characters, of which the first may be a slash. -/
def pathOf (special : Bool) (cs : List Char) : UrlPath :=
  let cs := match cs with
    | c :: rest => if isSlash special c then rest else cs
    | [] => []
  .segments (normalSegments [] ((splitSlashes special cs).map UrlPart.path.encode))

/-- What stands after the path: a query after `?` and a fragment after `#`. -/
def queryAndFragment (special : Bool) (cs : List Char) : Option String × Option String :=
  let part := if special then UrlPart.specialQuery else UrlPart.query
  let query := match cs with
    | '?' :: rest => some (part.encode (rest.takeWhile (· != '#')))
    | _ => none
  let fragment := match cs.dropWhile (· != '#') with
    | _ :: rest => some (UrlPart.fragment.encode rest)
    | [] => none
  (query, fragment)

/-- Whether a character ends a path. -/
def endsPath (c : Char) : Bool := c == '?' || c == '#'

/-- The URL of a scheme, an authority and the characters after it. -/
def assemble (scheme : String) (who : Authority) (path : List Char → UrlPath)
    (cs : List Char) : Url :=
  let special := isSpecial scheme || scheme = "file"
  let (query, fragment) := queryAndFragment special (cs.dropWhile (!endsPath ·))
  { scheme, user := who.user, password := who.password, host := who.host, port := who.port
    path := path (cs.takeWhile (!endsPath ·)), query, fragment }

/-- Reads the URL of a file after its scheme.  Its host may be missing, and the
host of this machine is left out. -/
def ofFile? (cs : List Char) : Option Url :=
  match cs with
  | a :: b :: rest =>
    if isSlash true a && isSlash true b then
      let hostChars := rest.takeWhile (!endsAuthority true ·)
      if hostChars.isEmpty then
        some (assemble "file" nobody (pathOf true) rest)
      else if isDrive hostChars then some (assemble "file" nobody (pathOf true) ('/' :: rest))
      else do
        let host ← Host.ofSpecial? hostChars
        let who := { nobody with host := if host = .name "localhost" then none else some host }
        some (assemble "file" who (pathOf true) (rest.drop hostChars.length))
    else some (assemble "file" nobody (pathOf true) cs)
  | _ => some (assemble "file" nobody (pathOf true) cs)

/-- Reads a URL after its scheme and the slashes before its host.  `path` reads what
follows the host, up to the query. -/
def ofHierarchy? (scheme : String) (path : List Char → UrlPath) (cs : List Char) :
    Option Url := do
  let isEnd := endsAuthority (isSpecial scheme)
  let after := cs.dropWhile (!isEnd ·)
  let (who, rest) ← authority? scheme after.isEmpty (cs.takeWhile (!isEnd ·))
  some (assemble scheme who path (rest ++ after))

/-- Reads an absolute URL. -/
def ofText? (s : String) : Option Url := do
  let (scheme, rest) ← scheme? (relevant s)
  if scheme = "file" then ofFile? rest
  else if isSpecial scheme then
    ofHierarchy? scheme (pathOf true) (rest.dropWhile (isSlash true))
  else
    match rest with
    | '/' :: '/' :: rest =>
      ofHierarchy? scheme (fun cs => if cs.isEmpty then .plain "" else pathOf false cs) rest
    | '/' :: _ => some (assemble scheme nobody (pathOf false) rest)
    | _ =>
      some (assemble scheme nobody (fun cs => .plain (UrlPart.opaquePath.encode cs)) rest)

end Url

end HealthWatch.Net
