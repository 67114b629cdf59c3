import JobLog.Source.Basic

/-!
# Lines of a source

The bytes of a source are cut at line feeds. A line is given without its line feed and without one
carriage return at its end; what stands behind the last line feed is a line unless it is empty.
Lines are numbered from one.

* `Reader.read` is one read from a source into a buffer.
* `LineReader.next` gives the next line. It keeps what was read in a buffer, remembers how much of
  it holds no line feed, and reads a chunk behind it where there is no whole line.
* `Source.deliveries` are the lines in order, each with whether the run was cancelled by the time
  it was given. A failure other than an interruption is delivered in its place and ends the rest.
-/

namespace JobLog

/-- What one read gives. -/
inductive Reading
  /-- The bytes that were read; none at the end of the input. -/
  | bytes (bytes : List UInt8)
  | interrupted
  | failed (error : ReadError)
  deriving DecidableEq, Repr

/-- A source that is being read, and whether the run was cancelled so far. -/
structure Reader where
  source : Source
  cancelled : Bool

/-- What reading lines gives. -/
inductive Item
  | line (bytes : List UInt8) (number : Nat)
  | failed (error : ReadError)
  deriving DecidableEq, Repr

/-- An item, and whether the run was cancelled by the time it was given. -/
structure Delivery where
  item : Item
  cancelled : Bool
  deriving DecidableEq, Repr

/-- The number of events and of bytes in a source. -/
def Source.weight : Source → Nat
  | [] => 0
  | .data bytes :: s => 1 + bytes.length + Source.weight s
  | _ :: s => 1 + Source.weight s

namespace Reader

/-- One read of at most `size` bytes from a source; a cancellation does not end it. -/
def readFrom (size : Nat) (cancelled : Bool) : Source → Reading × Reader
  | [] => (.bytes [], ⟨[], cancelled⟩)
  | .endOfInput :: s => (.bytes [], ⟨s, cancelled⟩)
  | .failed e _ :: s => (.failed e, ⟨s, cancelled⟩)
  | .interrupted :: s => (.interrupted, ⟨s, cancelled⟩)
  | .cancel :: s => readFrom size true s
  | .data bytes :: s =>
    if bytes.isEmpty then readFrom size cancelled s
    else (.bytes (bytes.take size), ⟨.data (bytes.drop size) :: s, cancelled⟩)

/-- One read of at most `size` bytes. -/
def read (size : Nat) (r : Reader) : Reading × Reader := readFrom size r.cancelled r.source

/-- The number of events and of bytes that are left. -/
def weight (r : Reader) : Nat := r.source.weight

/-- A read takes up what it gives, and an interruption takes up its event. -/
theorem weight_readFrom (size : Nat) (cancelled : Bool) (s : Source) :
    match readFrom size cancelled s with
    | (.bytes bs, r) => r.weight + bs.length ≤ s.weight
    | (.interrupted, r) => r.weight < s.weight
    | (.failed _, r) => r.weight ≤ s.weight := by
  fun_induction readFrom size cancelled s with
  | case1 => simp [weight]
  | case2 | case3 | case4 => simp [weight, Source.weight]
  | case5 cancelled s ih =>
    revert ih
    rcases readFrom size true s with ⟨_ | _ | _, r⟩ <;> simp only [Source.weight] <;> omega
  | case6 cancelled bytes s _ ih =>
    revert ih
    rcases readFrom size cancelled s with ⟨_ | _ | _, r⟩ <;> simp only [Source.weight] <;> omega
  | case7 cancelled bytes s _ =>
    simp only [weight, Source.weight, List.length_take, List.length_drop]
    omega

theorem weight_lt_of_interrupted {size : Nat} {r r' : Reader} (h : r.read size = (.interrupted, r')) :
    r'.weight < r.weight := by
  have hw := weight_readFrom size r.cancelled r.source
  rw [← read, h] at hw
  exact hw

/-- Reads into the room behind the bytes kept there, again where the read is interrupted, and tells
whether the input goes on. The room is cut behind the last byte that was read. -/
def readInto (kept : Nat) (room : List UInt8) (r : Reader) :
    Except ReadError Bool × List UInt8 × Reader :=
  match _h : r.read (room.length - kept) with
  | (.bytes bs, r') =>
    (.ok (!bs.isEmpty),
      (room.take kept ++ bs ++ room.drop (kept + bs.length)).take (kept + bs.length), r')
  | (.interrupted, r') => readInto kept room r'
  | (.failed e, r') => (.error e, room.take kept, r')
termination_by r.weight
decreasing_by exact weight_lt_of_interrupted _h

theorem weight_readInto (kept : Nat) (room : List UInt8) (r : Reader) :
    match readInto kept room r with
    | (goesOn, buffer, r') =>
      buffer.length + r'.weight ≤ kept + r.weight ∧ (goesOn = .ok true → r'.weight < r.weight) := by
  fun_induction readInto kept room r with
  | case1 r bs r' h =>
    have hw := weight_readFrom (room.length - kept) r.cancelled r.source
    rw [← read, h] at hw
    simp only [Except.ok.injEq, Bool.not_eq_true', List.isEmpty_eq_false_iff_exists_mem] at hw ⊢
    refine ⟨by simp only [List.length_take]; unfold weight at hw ⊢; omega, fun ⟨b, hb⟩ => ?_⟩
    have := List.length_pos_of_mem hb
    unfold weight at hw ⊢
    omega
  | case2 r r' h ih =>
    have hw := weight_lt_of_interrupted h
    revert ih
    rcases readInto kept room r' with ⟨goesOn, buffer, r''⟩
    simp only
    exact fun ⟨h1, h2⟩ => ⟨by omega, fun hgo => by have := h2 hgo; omega⟩
  | case3 r e r' h =>
    have hw := weight_readFrom (room.length - kept) r.cancelled r.source
    rw [← read, h] at hw
    refine ⟨?_, nofun⟩
    simp only [List.length_take]
    unfold weight at hw ⊢
    omega

end Reader

/-- A source that is cut into lines. -/
structure LineReader where
  reader : Reader
  /-- The bytes that were read and are in no line given so far. -/
  buffer : List UInt8
  /-- The length of the start of the buffer that is known to hold no line feed. -/
  scanned : Nat
  /-- The number of lines given. -/
  count : Nat
  /-- The number of bytes asked for in one read. -/
  chunk : Nat
  ended : Bool
  chunk_pos : 0 < chunk

namespace LineReader

/-- Nothing was read yet. A chunk of no bytes counts as one of one byte. -/
def start (chunk : Nat) (cancelled : Bool) (s : Source) : LineReader where
  reader := ⟨s, cancelled⟩
  buffer := []
  scanned := 0
  count := 0
  chunk := max chunk 1
  ended := false
  chunk_pos := by omega

/-- The bytes of a line without one carriage return at their end. -/
def withoutReturn (line : List UInt8) : List UInt8 :=
  if line.getLast? = some 13 then line.dropLast else line

/-- The place of the first line feed, looked for behind the part that holds none. -/
def find? (r : LineReader) : Option Nat :=
  ((r.buffer.drop r.scanned).findIdx? (· = 10)).map (r.scanned + ·)

/-- The reader once its whole buffer is known to hold no line feed. -/
def looked (r : LineReader) : LineReader := { r with scanned := r.buffer.length }

/-- The reader behind the next chunk, and whether the input goes on. The buffer is enlarged by a
chunk for the read and cut to what was read. -/
def fill (r : LineReader) : Except ReadError Bool × LineReader :=
  let room := r.buffer ++ List.replicate r.chunk 0
  let (goesOn, buffer, reader) := r.reader.readInto r.buffer.length room
  (goesOn, { r with buffer, reader })

/-- The start of the buffer as an item, and the reader behind it and a gap. -/
def split (r : LineReader) (size gap : Nat) : Item × LineReader :=
  (.line (withoutReturn (r.buffer.take size)) (r.count + 1),
    { r with buffer := r.buffer.drop (size + gap), scanned := 0, count := r.count + 1 })

/-- The reader that gives nothing more. -/
def stopped (r : LineReader) : LineReader := { r with ended := true }

/-- What bounds the number of items to come. -/
def size (r : LineReader) : Nat :=
  r.buffer.length + r.reader.weight + (!r.ended).toNat

theorem size_fill (r : LineReader) : r.fill.2.size ≤ r.size := by
  have h := (Reader.weight_readInto r.buffer.length (r.buffer ++ List.replicate r.chunk 0) r.reader).1
  exact Nat.add_le_add_right h _

theorem weight_fill_lt {r r' : LineReader} (h : r.fill = (.ok true, r')) :
    r'.reader.weight < r.reader.weight := by
  have hw := (Reader.weight_readInto r.buffer.length (r.buffer ++ List.replicate r.chunk 0) r.reader).2
  simp only [fill, Prod.mk.injEq] at h
  obtain ⟨hgo, rfl⟩ := h
  exact hw hgo

/-- The next item, if there is one: a line that is in the buffer, or else what comes of the next
chunks. -/
def next (r : LineReader) : Option Item × LineReader :=
  if r.ended then (none, r)
  else
    match r.find? with
    | some place =>
      let (item, r) := r.split place 1
      (some item, r)
    | none =>
      match _h : r.looked.fill with
      | (.ok true, filled) => filled.next
      | (.ok false, filled) =>
        if filled.buffer.isEmpty then (none, filled.stopped)
        else
          let (item, rest) := filled.stopped.split filled.buffer.length 0
          (some item, rest)
      | (.error e, filled) => (some (.failed e), filled.stopped)
termination_by r.reader.weight
decreasing_by exact weight_fill_lt (r := r.looked) _h

theorem fill_ended (r : LineReader) : r.fill.2.ended = r.ended := rfl

theorem size_stopped_lt {r : LineReader} (h : r.ended = false) : r.stopped.size < r.size := by
  simp [size, stopped, h]

theorem size_split_le (r : LineReader) (place gap : Nat) : (r.split place gap).2.size ≤ r.size := by
  simp only [size, split, List.length_drop]
  omega

theorem size_split_lt {r : LineReader} {place : Nat} (h : r.find? = some place) :
    (r.split place 1).2.size < r.size := by
  obtain ⟨i, hi, rfl⟩ := Option.map_eq_some_iff.1 h
  have hlt := (List.findIdx?_eq_some_iff_findIdx_eq.1 hi).1
  rw [List.length_drop] at hlt
  simp only [size, split, List.length_drop]
  omega

/-- Every item brings the reader closer to its end. -/
theorem size_next_lt {r r' : LineReader} {item : Item} (h : r.next = (some item, r')) :
    r'.size < r.size := by
  fun_induction next r with
  | case1 r hended => simp at h
  | case2 r hended place hplace item' rest hsplit =>
    have hlt := size_split_lt hplace
    rw [hsplit] at hlt
    simp only [Prod.mk.injEq] at h
    exact h.2 ▸ hlt
  | case3 r hended hplace filled hfill ih =>
    have hle := size_fill r.looked
    rw [hfill] at hle
    exact Nat.lt_of_lt_of_le (ih h) hle
  | case4 r hended hplace filled hfill hempty => simp at h
  | case5 r hended hplace filled hfill hempty item' rest hsplit =>
    have hle := size_fill r.looked
    have hopen := fill_ended r.looked
    rw [hfill] at hle hopen
    have hlt := size_stopped_lt (hopen.trans (Bool.eq_false_iff.2 hended))
    have hrest := size_split_le filled.stopped filled.buffer.length 0
    rw [hsplit] at hrest
    simp only [Prod.mk.injEq] at h
    exact h.2 ▸ Nat.lt_of_le_of_lt hrest (Nat.lt_of_lt_of_le hlt hle)
  | case6 r hended hplace e filled hfill =>
    have hle := size_fill r.looked
    have hopen := fill_ended r.looked
    rw [hfill] at hle hopen
    have hlt := size_stopped_lt (hopen.trans (Bool.eq_false_iff.2 hended))
    simp only [Prod.mk.injEq] at h
    exact h.2 ▸ Nat.lt_of_lt_of_le hlt hle

/-- The items to come, each with whether the run was cancelled by the time it was given. -/
def deliveries (r : LineReader) : List Delivery :=
  match _h : r.next with
  | (none, _) => []
  | (some item, r') => ⟨item, r'.reader.cancelled⟩ :: r'.deliveries
termination_by r.size
decreasing_by exact size_next_lt _h

/-- What the next so many calls of `next` give. -/
def polls : Nat → LineReader → List (Option Item)
  | 0, _ => []
  | n + 1, r => r.next.1 :: polls n r.next.2

end LineReader

/-- The lines of the source, up to its end or its first failure. -/
def Source.deliveries (cancelled : Bool) (s : Source) : List Delivery :=
  (LineReader.start readerPiece cancelled s).deliveries

end JobLog
