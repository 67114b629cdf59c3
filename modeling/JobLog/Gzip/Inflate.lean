import JobLog.Gzip.Code

/-!
# Inflating

A deflated stream is read bit by bit, the lowest bit of a byte first. The machine stands either in
a number of fixed width, in a word of a prefix code, before or in a stored block, or behind the
last block.

* `Inflater` is the machine with the bytes given so far; a copy that reaches back before the first
  byte gives zeros.
* `Inflater.feed` is the machine behind one more byte.
-/

namespace JobLog.Gzip

/-- The codes of a block. -/
structure Books where
  literals : Code
  distances : Code

/-- The lengths of the words of a block's codes, as far as they were read. -/
structure LengthTable where
  literals : Nat
  distances : Nat
  /-- The lengths, the last one first. -/
  lengths : List Nat

/-- The table with a length added several times. -/
def LengthTable.add (table : LengthTable) (count length : Nat) : LengthTable :=
  { table with lengths := List.replicate count length ++ table.lengths }

/-- What a number is read for. -/
inductive Purpose
  /-- The start of a block. -/
  | header
  /-- The size of a stored block. -/
  | storedSize
  /-- The sizes of the tables of a block. -/
  | counts
  /-- One of the lengths of the code that the other lengths are written in; those read so far, the
  last one first, and how many there are. -/
  | metaLength (literals distances : Nat) (lengths : List Nat) (total : Nat)
  /-- How often a length is repeated, beyond `base`. -/
  | repetition (code : Code) (table : LengthTable) (length base : Nat)
  /-- The length of a copy, beyond `base`. -/
  | copyLength (books : Books) (base : Nat)
  /-- The distance of a copy, beyond `base`. -/
  | copyDistance (books : Books) (length base : Nat)

/-- What a word of a code is read for. -/
inductive Lookup
  | length (code : Code) (table : LengthTable)
  | literal (books : Books)
  | distance (books : Books) (length : Nat)

/-- Where the machine stands. -/
inductive InflatePhase
  /-- In a number: its width, the bits read and their value. -/
  | number (purpose : Purpose) (width got value : Nat)
  /-- In a word: what the bits read so far leave of the code. -/
  | word (rest : Code) (lookup : Lookup)
  /-- Before a stored block, up to the end of the byte. -/
  | align
  /-- In a stored block, so many bytes before its end. -/
  | stored (left : Nat)
  | finished
  | broken

/-- The machine that inflates a stream. -/
structure Inflater where
  out : Array UInt8
  /-- The block is the last one. -/
  last : Bool
  phase : InflatePhase

namespace Inflater

/-- Before the first block. -/
def start : Inflater := ⟨#[], false, .number .header 3 0 0⟩

/-- The machine in another phase. -/
def goTo (s : Inflater) (phase : InflatePhase) : Inflater := { s with phase }

/-- The machine at the start of a number. -/
def ask (s : Inflater) (purpose : Purpose) (width : Nat) : Inflater :=
  s.goTo (.number purpose width 0 0)

/-- The stream makes no sense. -/
def fail (s : Inflater) : Inflater := s.goTo .broken

/-- The machine behind a block. -/
def endBlock (s : Inflater) : Inflater := if s.last then s.goTo .finished else s.ask .header 3

/-- The machine before a word of the block. -/
def nextWord (s : Inflater) (books : Books) : Inflater :=
  s.goTo (.word books.literals (.literal books))

/-! ### Codes -/

/-- The lengths of the fixed code of literals. -/
def fixedLiterals : List Nat :=
  List.replicate 144 8 ++ List.replicate 112 9 ++ List.replicate 24 7 ++ List.replicate 8 8

/-- The codes of a block that brings none. -/
def fixedBooks : Books := ⟨.ofLengths fixedLiterals, .ofLengths (List.replicate 32 5)⟩

/-- The order in which the lengths of the code for lengths are written. -/
def metaOrder : List Nat := [16, 17, 18, 0, 8, 7, 9, 6, 10, 5, 11, 4, 12, 3, 13, 2, 14, 1, 15]

/-- The lengths in the order of their symbols. -/
def sortMeta (lengths : List Nat) : List Nat :=
  (List.range 19).map fun n => ((metaOrder.zip lengths).lookup n).getD 0

/-- A code may be incomplete only if it has at most one word. -/
def usable (lengths : List Nat) : Bool :=
  Code.isComplete lengths || Code.wordCount lengths ≤ 1

/-- The machine behind a length of a word. -/
def withLength (s : Inflater) (code : Code) (table : LengthTable) : Inflater :=
  let total := table.literals + table.distances
  if table.lengths.length < total then s.goTo (.word code (.length code table))
  else if total < table.lengths.length then s.fail
  else
    let lengths := table.lengths.reverse
    let literals := lengths.take table.literals
    let distances := lengths.drop table.literals
    if usable literals && usable distances then
      s.nextWord ⟨.ofLengths literals, .ofLengths distances⟩
    else s.fail

/-! ### Copies -/

/-- The bits that the length of a copy has beyond its base, and the base. -/
def lengthBase (symbol : Nat) : Nat × Nat :=
  if symbol < 265 then (0, symbol - 254)
  else if symbol = 285 then (0, 258)
  else
    let bits := (symbol - 261) / 4
    (bits, (4 + (symbol - 261) % 4) <<< bits + 3)

/-- The bits that the distance of a copy has beyond its base, and the base. -/
def distanceBase (symbol : Nat) : Nat × Nat :=
  if symbol < 4 then (0, symbol + 1)
  else
    let bits := (symbol - 2) / 2
    (bits, (2 + symbol % 2) <<< bits + 1)

/-- Gives `length` bytes again that stand `distance` bytes back. -/
def copy (out : Array UInt8) (distance : Nat) : Nat → Array UInt8
  | 0 => out
  | length + 1 =>
    copy (out.push (if distance ≤ out.size then out.getD (out.size - distance) 0 else 0))
      distance length

/-- The machine behind the distance of a copy. -/
def withDistance (s : Inflater) (books : Books) (length distance : Nat) : Inflater :=
  { s with out := copy s.out distance length }.nextWord books

/-- The machine behind the length of a copy. -/
def withCopyLength (s : Inflater) (books : Books) (length : Nat) : Inflater :=
  s.goTo (.word books.distances (.distance books length))

/-! ### Steps -/

/-- The machine behind a word. -/
def withSymbol (s : Inflater) (symbol : Nat) : Lookup → Inflater
  | .length code table =>
    if symbol < 16 then s.withLength code (table.add 1 symbol)
    else if symbol = 16 then
      match table.lengths with
      | [] => s.fail
      | l :: _ => s.ask (.repetition code table l 3) 2
    else if symbol = 17 then s.ask (.repetition code table 0 3) 3
    else s.ask (.repetition code table 0 11) 7
  | .literal books =>
    if symbol < 256 then { s with out := s.out.push (UInt8.ofNat symbol) }.nextWord books
    else if symbol = 256 then s.endBlock
    else if symbol < 286 then
      let (bits, base) := lengthBase symbol
      if bits = 0 then s.withCopyLength books base else s.ask (.copyLength books base) bits
    else s.fail
  | .distance books length =>
    if symbol < 30 then
      let (bits, base) := distanceBase symbol
      if bits = 0 then s.withDistance books length base
      else s.ask (.copyDistance books length base) bits
    else s.fail

/-- The machine behind a number. -/
def withNumber (s : Inflater) (value : Nat) : Purpose → Inflater
  | .header =>
    let s := { s with last := value % 2 = 1 }
    if value / 2 = 0 then s.goTo .align
    else if value / 2 = 1 then s.nextWord fixedBooks
    else if value / 2 = 2 then s.ask .counts 14
    else s.fail
  | .storedSize =>
    let size := value &&& 0xffff
    if size + value >>> 16 ≠ 0xffff then s.fail
    else if size = 0 then s.endBlock
    else s.goTo (.stored size)
  | .counts =>
    let literals := (value &&& 31) + 257
    let distances := (value >>> 5 &&& 31) + 1
    if literals ≤ 286 ∧ distances ≤ 30 then
      s.ask (.metaLength literals distances [] (value >>> 10 + 4)) 3
    else s.fail
  | .metaLength literals distances lengths total =>
    let lengths := value :: lengths
    if lengths.length < total then s.ask (.metaLength literals distances lengths total) 3
    else
      let sorted := sortMeta lengths.reverse
      if Code.isComplete sorted then
        s.withLength (.ofLengths sorted) ⟨literals, distances, []⟩
      else s.fail
  | .repetition code table length base => s.withLength code (table.add (base + value) length)
  | .copyLength books base => s.withCopyLength books (base + value)
  | .copyDistance books length base => s.withDistance books length (base + value)

/-- The machine behind a bit. -/
def bit (s : Inflater) (b : Bool) : Inflater :=
  match s.phase with
  | .number purpose width got value =>
    let value := value + if b then 1 <<< got else 0
    if width ≤ got + 1 then s.withNumber value purpose
    else s.goTo (.number purpose width (got + 1) value)
  | .word code lookup =>
    match code.child b with
    | .none => s.fail
    | .symbol n => s.withSymbol n lookup
    | rest => s.goTo (.word rest lookup)
  | _ => s

/-- The machine at the end of a byte. -/
def endByte (s : Inflater) : Inflater :=
  match s.phase with
  | .align => s.ask .storedSize 32
  | _ => s

/-- The machine behind a byte. -/
def feed (s : Inflater) (b : UInt8) : Inflater :=
  match s.phase with
  | .stored left =>
    let s := { s with out := s.out.push b }
    if left ≤ 1 then s.endBlock else s.goTo (.stored (left - 1))
  | .finished | .broken => s
  | _ => ((List.range 8).foldl (fun s i => s.bit (b.toNat.testBit i)) s).endByte

end Inflater
end JobLog.Gzip
