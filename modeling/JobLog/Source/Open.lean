import JobLog.Gzip.Gunzip
import JobLog.Source.Lines

/-!
# Opening a source

A source whose first two bytes are those of a gzip file is inflated; either way it fails once more
than a number of bytes went through. The first bytes, and the header of a gzip file, are read when
the source is opened.

* `Source.peek` reads the first bytes.
* `Source.open?` is the opened source.
-/

namespace JobLog

/-- What is known when a source was opened. -/
structure Opened where
  /-- The run was cancelled meanwhile. -/
  cancelled : Bool
  source : Source

/-- The first bytes of a source. -/
structure Peeked where
  cancelled : Bool
  head : List UInt8
  /-- The source behind the head. -/
  rest : Source

namespace Source

/-- The two bytes that a gzip file starts with. -/
def gzipMagic : List UInt8 := [0x1f, 0x8b]

/-- Reads until the head has two bytes or the input ends. -/
def peek (cancelled : Bool) (head : List UInt8) : Source → Except ReadError Peeked
  | [] => .ok ⟨cancelled, head, []⟩
  | .endOfInput :: s => .ok ⟨cancelled, head, s⟩
  | .failed e _ :: _ => .error e
  | .interrupted :: s => peek cancelled head s
  | .cancel :: s => peek true head s
  | .data bytes :: s =>
    if head.length + bytes.length < 2 then peek cancelled (head ++ bytes) s
    else
      let missing := 2 - head.length
      .ok ⟨cancelled, head ++ bytes.take missing, .data (bytes.drop missing) :: s⟩

/-- The peeked source from its start on. -/
def Peeked.whole (p : Peeked) : Source := .data p.head :: p.rest

/-- The inflated source; what is cancelled while the first header is read counts as before it. -/
def openGzip (p : Peeked) : Opened :=
  let (header, behind) := splitHeader .start ((Peeked.whole p).chop compressedPiece)
  ⟨p.cancelled || header.contains .cancel, gunzip (header.filter (· ≠ .cancel) ++ behind)⟩

/-- Opens a source whose content may have `limit` bytes. -/
def open? (limit : Nat) (s : Source) : Except ReadError Opened := do
  let p ← peek false [] s
  if p.head = gzipMagic then
    let opened := openGzip p
    .ok ⟨opened.cancelled, limited limit opened.source⟩
  else .ok ⟨p.cancelled, limited limit ((Peeked.whole p).chop readerPiece)⟩

end Source
end JobLog
