import JobLog.Text.Blank
import JobLog.Text.Digit
import JobLog.Text.Split
import JobLog.Url.Percent

/-!
# Hosts of urls

The host of a url is a domain or an address. A domain whose last label is a number is an address of
version 4; an address of version 6 stands in brackets.

* `Host.ofChars?` reads the host of a url whose scheme is a special one.
* `Host.raw?` reads the host of another url.
-/

namespace JobLog

/-- Why a text is no url. -/
inductive UrlError
  | emptyHost
  | invalidPort
  | invalidIpv4
  | invalidIpv6
  | invalidDomain
  | invalidDomainCharacter
  | relative
  deriving DecidableEq, Repr

/-- The message of an error. -/
def UrlError.message : UrlError → String
  | .emptyHost => "empty host"
  | .invalidPort => "invalid port number"
  | .invalidIpv4 => "invalid IPv4 address"
  | .invalidIpv6 => "invalid IPv6 address"
  | .invalidDomain => "invalid international domain name"
  | .invalidDomainCharacter => "invalid domain character"
  | .relative => "relative URL without a base"

/-- The host of a url. -/
inductive Host
  | domain (name : List Char)
  | ipv4 (address : Nat)
  | ipv6 (pieces : List Nat)
  deriving DecidableEq, Repr

namespace Host

/-! ### Addresses of version 4 -/

/-- Reads a part of an address: in decimal, or with a prefix in base sixteen or eight. -/
def ipv4Number? : List Char → Option Nat
  | [] => none
  | '0' :: 'x' :: r => Text.numberIn? 16 r
  | '0' :: 'X' :: r => Text.numberIn? 16 r
  | '0' :: d :: r => Text.numberIn? 8 (d :: r)
  | ds => Text.numberIn? 10 ds

/-- The labels of a domain, without an empty one at its end. -/
def labels (name : List Char) : List (List Char) :=
  let ls := Text.split '.' name
  if 1 < ls.length ∧ ls.getLast? = some [] then ls.dropLast else ls

/-- The last label is a number. -/
def endsInNumber (name : List Char) : Bool :=
  match (labels name).getLast? with
  | none => false
  | some l => (l ≠ [] && l.all Text.isAsciiDigit) || (ipv4Number? l).isSome

/-- The address of the numbers of its parts; the last one fills what is left. -/
def ipv4OfParts? (parts : List Nat) : Option Nat :=
  match parts.getLast? with
  | none => none
  | some last =>
    let front := parts.dropLast
    if 4 < parts.length ∨ front.any (255 < ·) ∨ 1 <<< (8 * (4 - front.length)) ≤ last then none
    else some (front.zipIdx.foldl (fun n (p, i) => n + p <<< (8 * (3 - i))) last)

/-- Reads an address of version 4. -/
def ipv4? (name : List Char) : Option Nat := ((labels name).mapM ipv4Number?).bind ipv4OfParts?

/-! ### Addresses of version 6 -/

/-- Reads a part of an address of version 4 inside one of version 6. -/
def byte? (ds : List Char) : Option Nat :=
  if ds = [] ∨ 3 < ds.length ∨ ds.all Text.isAsciiDigit = false ∨ (ds.head? = some '0' ∧ ds ≠ ['0'])
  then none
  else
    let n := Text.digitsValue ds
    if n ≤ 255 then some n else none

/-- Reads the last piece of an address, which may be an address of version 4. -/
def lastPieces? (piece : List Char) : Option (List Nat) :=
  if '.' ∈ piece then
    match (Text.split '.' piece).mapM byte? with
    | some [a, b, c, d] => some [256 * a + b, 256 * c + d]
    | _ => none
  else if piece = [] ∨ 4 < piece.length then none
  else (Text.numberIn? 16 piece).map ([·])

/-- Reads the pieces of an address between colons. -/
def pieces? : List (List Char) → Option (List Nat)
  | [] => some []
  | [piece] => lastPieces? piece
  | piece :: rest => do
    if '.' ∈ piece then none
    let first ← lastPieces? piece
    let more ← pieces? rest
    some (first ++ more)

/-- Reads the pieces of a part of an address, which may be empty. -/
def side? (s : List Char) : Option (List Nat) :=
  if s = [] then some [] else pieces? (Text.split ':' s)

/-- The text before and behind the first two colons. -/
def cutDouble? (before : List Char) : List Char → Option (List Char × List Char)
  | ':' :: ':' :: s => some (before.reverse, s)
  | c :: s => cutDouble? (c :: before) s
  | [] => none

/-- Reads an address of version 6. -/
def ipv6? (s : List Char) : Option (List Nat) :=
  match cutDouble? [] s with
  | none => (side? s).filter (·.length = 8)
  | some (before, behind) => do
    if '.' ∈ before then none
    let front ← side? before
    let back ← side? behind
    if 7 < front.length + back.length then none
    else some (front ++ List.replicate (8 - front.length - back.length) 0 ++ back)

/-- Reads an address in brackets, from behind the first one. -/
def bracketed? (s : List Char) : Except UrlError Host :=
  match s.reverse with
  | ']' :: r => ((ipv6? r.reverse).map .ipv6).elim (.error .invalidIpv6) .ok
  | _ => .error .invalidIpv6

/-! ### Domains -/

/-- The characters that no domain has. -/
def isForbidden (c : Char) : Bool :=
  c.toNat ≤ 0x20 || c.toNat = 0x7F || "#/:<>?@[\\]^|%".toList.contains c || c = '\uFFFD'
    || (0x80 ≤ c.toNat && Text.isBlank c) || (0x80 ≤ c.toNat && c.toNat < 0xA0)

/-- Reads a domain or an address of version 4. -/
def named? (s : List Char) : Except UrlError Host :=
  let name := (Text.Utf8.decode (Url.unescape s)).map Char.toLower
  if name.any isForbidden || (Text.split '.' name).contains "xn--".toList then
    .error .invalidDomain
  else if name = [] then .error .emptyHost
  else if endsInNumber name then ((ipv4? name).map .ipv4).elim (.error .invalidIpv4) .ok
  else .ok (.domain name)

/-- Reads the host of a url whose scheme is a special one. -/
def ofChars? : List Char → Except UrlError Host
  | '[' :: s => bracketed? s
  | s => named? s

/-- The characters that the host of no url has. -/
def isForbiddenRaw (c : Char) : Bool := "\x00\t\n\r #/:<>?@[\\]^|".toList.contains c

/-- Reads the host of a url whose scheme is no special one. -/
def raw? : List Char → Except UrlError Host
  | '[' :: s => bracketed? s
  | s =>
    if s.any isForbiddenRaw then .error .invalidDomainCharacter
    else .ok (.domain (Url.escape (fun _ => false) s))

end Host
end JobLog
