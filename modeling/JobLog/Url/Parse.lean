import JobLog.Url.Host

/-!
# Urls

A url is read the way browsers do it: white space around it and line breaks in it do not count,
the schemes of the web take any number of slashes, and dots in a path are resolved.

* `Url.parse` reads a url.
* `Url.target` is what a request for it asks a server for.
* `Url.withQuery` adds a field to the query.
-/

namespace JobLog

/-- A url, without its fragment. -/
structure Url where
  scheme : List Char
  host? : Option Host
  port? : Option Nat
  path : List Char
  query? : Option (List Char)
  deriving DecidableEq, Repr

namespace Url

/-- How urls of a scheme are read. -/
inductive SchemeKind
  | special
  | file
  | other
  deriving DecidableEq

/-- The kind of a scheme. -/
def kindOf (scheme : List Char) : SchemeKind :=
  if ["http", "https", "ws", "wss", "ftp"].any fun s => s.toList = scheme then .special
  else if scheme = "file".toList then .file
  else .other

/-- The text without control characters and spaces around it and without tabs and line breaks. -/
def tidy (s : List Char) : List Char :=
  let inner := (s.dropWhile (·.toNat ≤ 0x20)).reverse.dropWhile (·.toNat ≤ 0x20)
  inner.reverse.filter fun c => !"\t\n\r".toList.contains c

/-- The scheme of a url in lower case and what stands behind its colon. -/
def scheme? (s : List Char) : Option (List Char × List Char) :=
  let inScheme := fun (c : Char) => c.isAlphanum || "+-.".toList.contains c
  match s.dropWhile inScheme with
  | ':' :: r =>
    let scheme := s.takeWhile inScheme
    if scheme.head?.any Char.isAlpha then some (scheme.map Char.toLower, r) else none
  | _ => none

/-- The character ends the authority of a url. -/
def endsAuthority (k : SchemeKind) (c : Char) : Bool :=
  c == '/' || c == '?' || c == '#' || (c == '\\' && k != .other)

/-- The text up to a mark outside of brackets, and the rest. -/
def hostAndRest (inside : Bool) : List Char → List Char × List Char
  | [] => ([], [])
  | c :: s =>
    if c = ':' && !inside then ([], c :: s)
    else
      let inside := if c = '[' then true else if c = ']' then false else inside
      (c :: (hostAndRest inside s).1, (hostAndRest inside s).2)

/-- Reads a port; it may be empty. -/
def readPort (ds : List Char) : Except UrlError (Option Nat) :=
  if !ds.all Text.isAsciiDigit || 65535 < Text.digitsValue ds then .error .invalidPort
  else .ok (if ds = [] then none else some (Text.digitsValue ds))

/-- What stands behind the last `@`. -/
def behindAt (s : List Char) : List Char := (s.reverse.takeWhile (· ≠ '@')).reverse

/-- The parts of an authority. -/
structure Authority where
  host? : Option Host
  port? : Option Nat

/-- Reads an authority: names of users, a host and a port. -/
def readAuthority (k : SchemeKind) (s : List Char) : Except UrlError Authority := do
  let server := behindAt s
  let (host, rest) := hostAndRest false server
  if host = [] then
    if k = .special ∨ rest ≠ [] ∨ server.length + 1 < s.length then .error .emptyHost
    else .ok ⟨none, none⟩
  else
    let host ← if k = .special then Host.ofChars? host else Host.raw? host
    let port ← readPort (rest.drop 1)
    .ok ⟨some host, port⟩

/-- Reads the authority of a file, which is a host. -/
def readFileAuthority (s : List Char) : Except UrlError Authority :=
  if s = [] then .ok ⟨none, none⟩ else (Host.ofChars? s).map fun h => ⟨some h, none⟩

/-! ### Paths -/

/-- The segments of a path between slashes. -/
def segments (k : SchemeKind) (part : List Char) : List Char → List (List Char)
  | [] => [part.reverse]
  | c :: s =>
    if c = '/' || (c = '\\' && k != .other) then part.reverse :: segments k [] s
    else segments k (c :: part) s

/-- The segment with the escapes of dots resolved. -/
def plainDots : List Char → List Char
  | '%' :: '2' :: 'e' :: s => '.' :: plainDots s
  | '%' :: '2' :: 'E' :: s => '.' :: plainDots s
  | c :: s => c :: plainDots s
  | [] => []

/-- The segments with dots resolved; `done` are those before them, the last one first. -/
def resolve (done : List (List Char)) : List (List Char) → List (List Char)
  | [] => done.reverse
  | seg :: rest =>
    let last := rest.isEmpty
    if plainDots seg = ['.', '.'] then
      resolve (if last then [] :: done.drop 1 else done.drop 1) rest
    else if plainDots seg = ['.'] then resolve (if last then [] :: done else done) rest
    else resolve (seg :: done) rest

/-- The path of a url that has an authority. -/
def pathOf (k : SchemeKind) (s : List Char) : List Char :=
  let s := if s.head?.any fun c => c == '/' || (c == '\\' && k != .other) then s.drop 1 else s
  '/' :: ['/'].intercalate (resolve [] ((segments k [] s).map (escape inPath)))

/-! ### Urls -/

/-- Reads what stands behind the authority. -/
def ofParts (k : SchemeKind) (scheme : List Char) (a : Authority) (s : List Char) : Url :=
  let s := s.takeWhile (· ≠ '#')
  let path := s.takeWhile (· ≠ '?')
  let query? := match s.dropWhile (· ≠ '?') with
    | [] => none
    | _ :: q => some (escape (fun c => inQuery c && (c != '\'' || k == .special)) q)
  ⟨scheme, a.host?, a.port?, pathOf k path, query?⟩

/-- Reads a url from behind the slashes in front of its authority. -/
def withAuthority (k : SchemeKind) (scheme s : List Char) : Except UrlError Url := do
  let text := s.takeWhile fun c => !endsAuthority k c
  let a ← if k = .file then readFileAuthority text else readAuthority k text
  .ok (ofParts k scheme a (s.drop text.length))

/-- Reads a url without an authority. -/
def withoutAuthority (scheme s : List Char) : Url :=
  let s := s.takeWhile (· ≠ '#')
  let query? := match s.dropWhile (· ≠ '?') with
    | [] => none
    | _ :: q => some (escape inQuery q)
  ⟨scheme, none, none, escape (fun _ => false) (s.takeWhile (· ≠ '?')), query?⟩

/-- Reads a url. -/
def parse (s : String) : Except UrlError Url :=
  match scheme? (tidy s.toList) with
  | none => .error .relative
  | some (scheme, r) =>
    match kindOf scheme with
    | .special => withAuthority .special scheme (r.dropWhile fun c => c == '/' || c == '\\')
    | k =>
      match r with
      | '/' :: '/' :: r => withAuthority k scheme r
      | r => .ok (withoutAuthority scheme r)

/-- The url is one of the web. -/
def isWeb (u : Url) : Bool := u.scheme = "http".toList || u.scheme = "https".toList

/-- What a request for the url asks a server for. -/
def target (u : Url) : String :=
  String.ofList (u.path ++ (match u.query? with | some q => '?' :: q | none => []))

/-- The url with one more field in its query. -/
def withQuery (u : Url) (name value : String) : Url :=
  let field := formText name.toList ++ '=' :: formText value.toList
  let query := match u.query? with
    | none | some [] => field
    | some q => q ++ '&' :: field
  { u with query? := some query }

end Url
end JobLog
