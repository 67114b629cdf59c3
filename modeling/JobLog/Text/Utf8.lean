/-!
# UTF-8

Bytes become text by a decoder that reads one byte at a time. A byte that cannot continue the
character being read ends it: the bytes of the broken character, however many, become one
replacement character, and the byte is read again as the start of the next one. So one
replacement stands for each maximal part of the input that begins a character and does not
finish it, or for a byte that begins none.

* `decode` is total, `decode?` refuses text that needed a replacement.
* `encode` is the other direction, `byteLength` its length.
* `lastPos?` seeks a place between two characters from a byte downwards, and finds one
  (`lastPos?_eq`).
-/

namespace JobLog.Text.Utf8

/-- Where the decoder stands: between characters, or inside one that still needs `left` bytes, the
next of them from `lo` to `hi`, with the bits in `code` read so far. -/
inductive State
  | between
  | inside (left lo hi code : Nat)

/-- U+FFFD stands for what is not UTF-8. -/
def replacement : Char := '\uFFFD'

/-- A byte that begins a character: what it yields at once, and the state behind it. -/
def first (b : Nat) : List Char × State :=
  if b < 0x80 then ([Char.ofNat b], .between)
  else if 0xC2 ≤ b ∧ b ≤ 0xDF then ([], .inside 1 0x80 0xBF (b - 0xC0))
  else if b = 0xE0 then ([], .inside 2 0xA0 0xBF 0)
  else if b = 0xED then ([], .inside 2 0x80 0x9F 0xD)
  else if 0xE1 ≤ b ∧ b ≤ 0xEF then ([], .inside 2 0x80 0xBF (b - 0xE0))
  else if b = 0xF0 then ([], .inside 3 0x90 0xBF 0)
  else if 0xF1 ≤ b ∧ b ≤ 0xF3 then ([], .inside 3 0x80 0xBF (b - 0xF0))
  else if b = 0xF4 then ([], .inside 3 0x80 0x8F 4)
  else ([replacement], .between)

/-- One byte: the characters that it completes, and the state behind it. -/
def step : State → Nat → List Char × State
  | .between, b => first b
  | .inside left lo hi code, b =>
    if lo ≤ b ∧ b ≤ hi then
      let code := 64 * code + (b - 0x80)
      if left ≤ 1 then ([Char.ofNat code], .between) else ([], .inside (left - 1) 0x80 0xBF code)
    else
      (replacement :: (first b).1, (first b).2)

/-- What the end of the input completes. -/
def State.finish : State → List Char
  | .between => []
  | .inside .. => [replacement]

/-- The characters of the bytes read from a state. -/
def decodeFrom : State → List UInt8 → List Char
  | s, [] => s.finish
  | s, b :: bs => (step s b.toNat).1 ++ decodeFrom (step s b.toNat).2 bs

/-- The characters of the bytes, with replacements for what is not UTF-8. -/
def decode (bs : List UInt8) : List Char := decodeFrom .between bs

/-- The bytes of the characters. -/
def encode (cs : List Char) : List UInt8 := cs.flatMap String.utf8EncodeChar

/-- The characters of the bytes, if they are UTF-8 throughout. -/
def decode? (bs : List UInt8) : Option (List Char) :=
  if encode (decode bs) = bs then some (decode bs) else none

/-- The number of bytes of the characters. -/
def byteLength : List Char → Nat
  | [] => 0
  | c :: cs => c.utf8Size + byteLength cs

@[simp] theorem byteLength_nil : byteLength [] = 0 := rfl

@[simp] theorem byteLength_cons (c : Char) (cs : List Char) :
    byteLength (c :: cs) = c.utf8Size + byteLength cs := rfl

/-- The last position of the text that is not behind byte `n`, sought one byte at a time; `none`
where the search comes past the start of the text. -/
def lastPos? (s : String) (n : Nat) : Option s.Pos :=
  if h : String.Pos.Raw.IsValid s ⟨n⟩ then some ⟨⟨n⟩, h⟩
  else
    match n with
    | 0 => none
    | n + 1 => lastPos? s n

theorem lastPos?_of_isValid {s : String} {n : Nat} (h : String.Pos.Raw.IsValid s ⟨n⟩) :
    lastPos? s n = some ⟨⟨n⟩, h⟩ := by
  rw [lastPos?.eq_def, dif_pos h]

theorem lastPos?_succ {s : String} {n : Nat} (h : ¬ String.Pos.Raw.IsValid s ⟨n + 1⟩) :
    lastPos? s (n + 1) = lastPos? s n := by
  rw [lastPos?, dif_neg h]

/-- The search ends at a position for every byte, the first one included. -/
theorem lastPos?_eq (s : String) (n : Nat) : lastPos? s n = some (s.posLE ⟨n⟩) := by
  induction n with
  | zero =>
    have hvalid : String.Pos.Raw.IsValid s ⟨0⟩ := String.Pos.Raw.isValid_zero
    rw [lastPos?_of_isValid hvalid, String.posLE_eq_pos hvalid]
    rfl
  | succ n ih =>
    by_cases h : String.Pos.Raw.IsValid s ⟨n + 1⟩
    · rw [lastPos?_of_isValid h, String.posLE_eq_pos h]
      rfl
    · rw [lastPos?_succ h, ih]
      refine congrArg some (String.posLE_eq_iff.2 ⟨?_, fun q hq => ?_⟩).symm
      · exact Nat.le_succ_of_le (String.offset_posLE_le (p := ⟨n⟩))
      · -- no position is at the byte that the search has left
        have hne : q.offset.byteIdx ≠ n + 1 := fun heq => h (heq ▸ q.isValid)
        exact String.le_posLE_iff.2 (Nat.le_of_lt_succ (Nat.lt_of_le_of_ne hq hne))

theorem isSome_lastPos? (s : String) (n : Nat) : (lastPos? s n).isSome := by
  rw [lastPos?_eq, Option.isSome_some]

end JobLog.Text.Utf8
