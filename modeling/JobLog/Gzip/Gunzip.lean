import JobLog.Gzip.Checksum
import JobLog.Gzip.Inflate
import JobLog.Source.Basic

/-!
# Gzip files

A gzip file is a row of members. A member has a header of ten bytes, optional fields that its flags
announce, a deflated stream, and a trailer with the checksum and the size of what is inflated.

* `Gunzip` is a machine that reads such a file byte by byte.
* `Gunzip.ending` tells whether the file may end where the machine stands.
* `Source.gunzip` is the source of the inflated bytes.
-/

namespace JobLog.Gzip

/-- An optional field of a header. -/
inductive Field
  | extra
  | name
  | comment
  | headerSum
  deriving DecidableEq

/-- The flag that announces the field. -/
def Field.flag : Field → Nat
  | .extra => 2
  | .name => 3
  | .comment => 4
  | .headerSum => 1

/-- The greatest length of a text in a header. -/
def maxHeaderText : Nat := 65535

/-- Where the machine stands in a member. -/
inductive Stage
  /-- In the fixed part of the header. -/
  | fixed
  /-- In the size of the extra field; its first byte if that was read. -/
  | extraSize (low? : Option UInt8)
  /-- In the extra field, so many bytes before its end. -/
  | extra (left : Nat)
  /-- In the name or the comment, behind so many bytes. -/
  | text (field : Field) (length : Nat)
  /-- In the checksum of the header; its first byte if that was read. -/
  | headerSum (low? : Option UInt8)
  | body
  /-- In the trailer, the last byte first. -/
  | trailer (bytes : List UInt8)
  /-- Behind the member. -/
  | boundary
  | broken

/-- The machine that reads a gzip file. -/
structure Gunzip where
  stage : Stage
  /-- The bytes of the header that were read. -/
  header : Array UInt8
  inflater : Inflater
  /-- The inflated bytes that were not taken yet. -/
  fresh : Array UInt8

namespace Gunzip

/-- Before the first member. -/
def start : Gunzip := ⟨.fixed, #[], .start, #[]⟩

/-- The machine in another stage. -/
def goTo (g : Gunzip) (stage : Stage) : Gunzip := { g with stage }

/-- The machine stands in a header. -/
def inHeader (g : Gunzip) : Bool :=
  match g.stage with
  | .fixed | .extraSize _ | .extra _ | .text _ _ | .headerSum _ => true
  | _ => false

/-- The machine at the start of the first of the fields that the flags announce. -/
def nextField (g : Gunzip) (fields : List Field) : Gunzip :=
  let flags := (g.header.getD 3 0).toNat
  match fields.find? fun f => flags.testBit f.flag with
  | none => g.goTo .body
  | some .extra => g.goTo (.extraSize none)
  | some .headerSum => g.goTo (.headerSum none)
  | some f => g.goTo (.text f 0)

/-- The machine behind the fixed part of the header. -/
def withFixed (g : Gunzip) : Gunzip :=
  if g.header.getD 0 0 = 0x1f ∧ g.header.getD 1 0 = 0x8b ∧ g.header.getD 2 0 = 8 ∧
      g.header.getD 3 0 < 0x20 then
    g.nextField [.extra, .name, .comment, .headerSum]
  else g.goTo .broken

/-- The fields that may stand behind a text. -/
def fieldsBehind : Field → List Field
  | .name => [.comment, .headerSum]
  | _ => [.headerSum]

/-- The machine behind one more byte of the header. -/
def feedHeader (g : Gunzip) (b : UInt8) : Gunzip :=
  let before := g.header
  let g := { g with header := g.header.push b }
  match g.stage with
  | .fixed => if g.header.size < 10 then g else g.withFixed
  | .extraSize none => g.goTo (.extraSize (some b))
  | .extraSize (some low) =>
    let size := low.toNat + 256 * b.toNat
    if size = 0 then g.nextField [.name, .comment, .headerSum] else g.goTo (.extra size)
  | .extra left =>
    if left ≤ 1 then g.nextField [.name, .comment, .headerSum] else g.goTo (.extra (left - 1))
  | .text f length =>
    if b = 0 then g.nextField (fieldsBehind f)
    else if length = maxHeaderText then g.goTo .broken
    else g.goTo (.text f (length + 1))
  | .headerSum none => g.goTo (.headerSum (some b))
  | .headerSum (some low) =>
    let sum := (checksum (before.extract 0 (before.size - 1))).toNat &&& 0xffff
    if sum = low.toNat + 256 * b.toNat then g.goTo .body else g.goTo .broken
  | _ => g

/-- The number written in bytes, the lowest byte first. -/
def littleEndian (bytes : List UInt8) : Nat := bytes.foldr (fun b n => b.toNat + 256 * n) 0

/-- The machine behind a trailer. -/
def withTrailer (g : Gunzip) (bytes : List UInt8) : Gunzip :=
  if littleEndian (bytes.take 4) = (checksum g.inflater.out).toNat
      ∧ littleEndian (bytes.drop 4) = g.inflater.out.size &&& 0xffffffff then
    ⟨.boundary, #[], .start, g.fresh⟩
  else g.goTo .broken

/-- The inflated bytes that stand in the decoder's window, which damage takes along. -/
def inWindow (g : Gunzip) : Nat := min g.fresh.size (g.inflater.out.size % 32768)

/-- The machine behind one more byte of the stream. -/
def feedBody : Gunzip → UInt8 → Gunzip
  | ⟨_, header, inflater, fresh⟩, b =>
    let size := inflater.out.size
    let inflater := inflater.feed b
    let fresh := (List.range (inflater.out.size - size)).foldl
      (fun fresh i => fresh.push (inflater.out.getD (size + i) 0)) fresh
    let g : Gunzip := ⟨.body, header, inflater, fresh⟩
    match g.inflater.phase with
    | .finished => g.goTo (.trailer [])
    | .broken => { g with stage := .broken, fresh := g.fresh.extract 0 (g.fresh.size - g.inWindow) }
    | _ => g

/-- The machine behind one more byte. -/
def feed (g : Gunzip) (b : UInt8) : Gunzip :=
  match g.stage with
  | .body => g.feedBody b
  | .trailer bytes =>
    if bytes.length < 7 then g.goTo (.trailer (b :: bytes)) else g.withTrailer (b :: bytes).reverse
  | .boundary => (g.goTo .fixed).feedHeader b
  | .broken => g
  | _ => g.feedHeader b

/-- The machine behind more bytes. -/
def feedAll (g : Gunzip) (bytes : List UInt8) : Gunzip := bytes.foldl feed g

/-- The machine with its inflated bytes taken. -/
def taken (g : Gunzip) : Gunzip := { g with fresh := #[] }

/-- The failure of a file that ends here, if it must not. -/
def ending (g : Gunzip) : Option ReadEvent :=
  match g.stage with
  | .boundary => none
  | .broken => some (.failed (.io .invalidInput))
  | _ => some (.failed (.io .unexpectedEof))

end Gunzip
end JobLog.Gzip

namespace JobLog

open Gzip (Gunzip)

namespace Source

/-- The size of the pieces in which a compressed source is read. -/
def compressedPiece : Nat := 32768

/-- Bytes as events, in the pieces of the reader. -/
def dataEvents (bytes : List UInt8) : Source := (pieces readerPiece bytes).map .data

/-- The number of inflated bytes that are given only once the next compressed piece was read:
those in the window beyond the reader's buffer, while the stream may go on. -/
def heldBack (g : Gunzip) : Nat :=
  match g.stage with
  | .body => g.inWindow - readerPiece
  | _ => 0

/-- The events behind a compressed piece, `held` being inflated before it. -/
def inflated (g : Gunzip) (held : List UInt8) : Source × List UInt8 :=
  let fresh := g.fresh.toList
  let now := fresh.take (fresh.length - heldBack g)
  (dataEvents held ++ dataEvents now, fresh.drop now.length)

/-- The inflated source, the machine having read what came before. -/
def gunzipFrom (g : Gunzip) (held : List UInt8) : Source → Source
  | [] => dataEvents held ++ g.ending.toList
  | .endOfInput :: _ => dataEvents held ++ g.ending.toList
  | .failed e final :: _ => [.failed e final]
  | .cancel :: s => .cancel :: gunzipFrom g held s
  | .interrupted :: s => gunzipFrom g held s
  | .data bytes :: s =>
    let g := g.feedAll bytes
    match g.stage with
    | .broken => (inflated g held).1 ++ [.failed (.io .invalidInput)]
    | _ => (inflated g held).1 ++ gunzipFrom g.taken (inflated g held).2 s

/-- The inflated source. -/
def gunzip (s : Source) : Source := gunzipFrom .start [] (s.chop compressedPiece)

/-- The events that the first header takes up, and those behind them. -/
def splitHeader (g : Gunzip) : Source → Source × Source
  | [] => ([], [])
  | .data bytes :: s =>
    let g := g.feedAll bytes
    if g.inHeader then
      let (before, behind) := splitHeader g s
      (.data bytes :: before, behind)
    else ([.data bytes], s)
  | .cancel :: s =>
    let (before, behind) := splitHeader g s
    (.cancel :: before, behind)
  | .interrupted :: s =>
    let (before, behind) := splitHeader g s
    (.interrupted :: before, behind)
  | e :: s => ([e], s)

end Source
end JobLog
