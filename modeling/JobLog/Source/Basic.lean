/-!
# Sources of bytes

A `Source` is the script of what reading gives: pieces of data, failures, and the moments at which
the run is cancelled from outside while a read is under way. What a source gives depends on nothing
else, so a run is a function of its source.

* `Source.chop` cuts the pieces to the size of a reader's buffer.
* `Source.limited` fails once more than a number of bytes went through.
-/

namespace JobLog

/-- The kind of a failure of input or output. -/
inductive IoKind
  | notFound
  | unexpectedEof
  | invalidInput
  | interrupted
  | other
  deriving DecidableEq, Repr

/-- Why reading failed. -/
inductive ReadError
  | io (kind : IoKind)
  /-- The content is larger than the limit. -/
  | overLimit (limit : Nat)
  deriving DecidableEq, Repr

/-- The kind that a failure shows to the outside. -/
def ReadError.kind : ReadError → IoKind
  | .io kind => kind
  | .overLimit _ => .other

/-- An input that ends too early does so for good. -/
theorem ReadError.kind_unexpectedEof : (ReadError.io .unexpectedEof).kind ≠ .interrupted := by
  simp [kind]

/-- What one read gives, or what happens before it does. -/
inductive ReadEvent
  | data (bytes : List UInt8)
  /-- The read was interrupted; its reader may try it again. -/
  | interrupted
  /-- The read failed for good: an interruption is an event of its own. -/
  | failed (error : ReadError) (final : error.kind ≠ .interrupted := by simp [ReadError.kind])
  | endOfInput
  /-- The run is cancelled. -/
  | cancel
  deriving DecidableEq, Repr

/-- A script of reads; behind its end there is no more input. -/
abbrev Source := List ReadEvent

/-- The first pieces of `size` bytes, at most `fuel` of them. -/
def piecesIn (size : Nat) : Nat → List UInt8 → List (List UInt8)
  | 0, _ => []
  | fuel + 1, bytes =>
    if bytes.isEmpty then [] else bytes.take size :: piecesIn size fuel (bytes.drop size)

/-- The bytes in pieces of `size`; the last piece may be shorter. A size of zero counts as one. -/
def pieces (size : Nat) (bytes : List UInt8) : List (List UInt8) :=
  piecesIn (max size 1) bytes.length bytes

namespace Source

/-- The size of the pieces in which a source is given to its reader. -/
def readerPiece : Nat := 8192

/-- The source that gives these bytes at once. -/
def ofBytes (bytes : List UInt8) : Source := [.data bytes]

/-- The source as a buffer of `size` bytes reads it. -/
def chop (size : Nat) (s : Source) : Source :=
  s.flatMap fun
    | .data bytes => (pieces size bytes).map .data
    | e => [e]

/-- The source that fails with the read that exceeds the limit, `count` bytes having gone before. -/
def limitedFrom (limit count : Nat) : Source → Source
  | [] => []
  | .data bytes :: s =>
    if limit < count + bytes.length then [.failed (.overLimit limit)]
    else .data bytes :: limitedFrom limit (count + bytes.length) s
  | e :: s => e :: limitedFrom limit count s

/-- The source that fails with the read that exceeds the limit. -/
def limited (limit : Nat) (s : Source) : Source := limitedFrom limit 0 s

/-- The content up to the end of the input, or the failure that comes first. -/
def content : Source → Except ReadError (List UInt8)
  | [] => .ok []
  | .endOfInput :: _ => .ok []
  | .failed e _ :: _ => .error e
  | .data bytes :: s => (content s).map (bytes ++ ·)
  | .interrupted :: s => content s
  | .cancel :: s => content s

end Source
end JobLog
