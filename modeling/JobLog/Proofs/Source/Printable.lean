import JobLog.Proofs.Run.Cancellation
import JobLog.Proofs.Run.CutLine
import JobLog.Proofs.Run.Prefix
import JobLog.Proofs.Text.Digit

/-!
# Lines that are printable

Printable lines of ASCII, each with a line feed, are read from their bytes as they are.

* `Printable` is a row of printable characters; each of them is one byte, which `decode_encode`
  reads back.
* `linesOf_encode` gives the lines of the bytes.
* `Run.overSource_printable` is a run over such lines.
-/

namespace JobLog

namespace Text

/-! ### Characters -/

/-- A printable character of ASCII. -/
def IsPrintable (c : Char) : Prop := 32 ≤ c.toNat ∧ c.toNat < 127

instance (c : Char) : Decidable (IsPrintable c) := inferInstanceAs (Decidable (_ ∧ _))

/-- All characters are printable. -/
def Printable (cs : List Char) : Prop := ∀ c ∈ cs, IsPrintable c

instance (cs : List Char) : Decidable (Printable cs) := List.decidableBAll IsPrintable cs

@[simp] theorem printable_append_iff {cs ds : List Char} :
    Printable (cs ++ ds) ↔ Printable cs ∧ Printable ds := List.forall_mem_append

@[simp] theorem printable_cons_iff {c : Char} {cs : List Char} :
    Printable (c :: cs) ↔ IsPrintable c ∧ Printable cs := List.forall_mem_cons

@[simp] theorem printable_nil : Printable [] := List.forall_mem_nil _

theorem printable_of_digits {ds : List Char} (h : ∀ c ∈ ds, isAsciiDigit c = true) :
    Printable ds := by
  intro c hc
  have hcode := toNat_of_isAsciiDigit (h c hc)
  exact ⟨by omega, by omega⟩

theorem printable_decimal (n : Nat) : Printable (decimal n) :=
  printable_of_digits fun _ => isAsciiDigit_of_mem_decimal

theorem printable_padded (width n : Nat) : Printable (padded width n) :=
  printable_of_digits fun _ => isAsciiDigit_of_mem_padded

theorem Printable.not_mem {cs : List Char} (h : Printable cs) {c : Char} (hc : ¬ IsPrintable c) :
    c ∉ cs := fun hmem => hc (h c hmem)

/-! ### Bytes -/

/-- The byte of a printable character. -/
theorem IsPrintable.encode {c : Char} (h : IsPrintable c) :
    String.utf8EncodeChar c = [c.toNat.toUInt8] :=
  String.utf8EncodeChar_eq_singleton (Char.utf8Size_eq_one_iff.2 (by
    rw [UInt32.le_iff_toNat_le]
    exact Nat.le_of_lt h.2))

theorem IsPrintable.toNat_byte {c : Char} (h : IsPrintable c) :
    c.toNat.toUInt8.toNat = c.toNat :=
  UInt8.toNat_ofNat_of_lt' (Nat.lt_trans h.2 (by decide))

namespace Printable

variable {cs : List Char}

theorem encode_eq_map (h : Printable cs) :
    Utf8.encode cs = cs.map fun c => c.toNat.toUInt8 :=
  (List.flatMap_congr fun c hc => (h c hc).encode).trans List.map_eq_flatMap.symm

theorem byteLength_eq (h : Printable cs) : Utf8.byteLength cs = cs.length := by
  induction cs with
  | nil => rfl
  | cons c cs ih =>
    obtain ⟨hc, hcs⟩ := printable_cons_iff.1 h
    have hsize : c.utf8Size = 1 := by
      have hlength := congrArg List.length hc.encode
      rwa [String.length_utf8EncodeChar] at hlength
    rw [Utf8.byteLength_cons, ih hcs, hsize, List.length_cons, Nat.add_comm]

/-- Printable characters are read back from their bytes. -/
theorem decode_encode (h : Printable cs) : Utf8.decode (Utf8.encode cs) = cs := by
  rw [h.encode_eq_map, Utf8.decode]
  induction cs with
  | nil => rfl
  | cons c cs ih =>
    obtain ⟨hc, hcs⟩ := printable_cons_iff.1 h
    have hfirst : Utf8.step .between c.toNat.toUInt8.toNat = ([c], .between) := by
      rw [hc.toNat_byte, Utf8.step, Utf8.first, if_pos (Nat.lt_trans hc.2 (by decide)),
        Char.ofNat_toNat]
    rw [List.map_cons, Utf8.decodeFrom, hfirst, ih hcs]
    rfl

/-- Only printable bytes are written. -/
theorem not_mem_encode (h : Printable cs) {b : UInt8} (hb : b.toNat < 32) :
    b ∉ Utf8.encode cs := by
  rw [h.encode_eq_map, List.mem_map]
  rintro ⟨c, hc, rfl⟩
  rw [(h c hc).toNat_byte] at hb
  exact absurd (h c hc).1 (Nat.not_le_of_lt hb)

end Printable
end Text

open Text (Printable)

/-! ### Lines -/

/-- The bytes of printable lines, each with a line feed, have these lines. -/
theorem linesOf_encode {ls : List (List Char)} (hls : ∀ l ∈ ls, Printable l) :
    linesOf (Text.Utf8.encode (ls.flatMap (· ++ ['\n']))) = ls.map Text.Utf8.encode := by
  have hfeed : String.utf8EncodeChar '\n' = [10] := by decide
  have hbytes : Text.Utf8.encode (ls.flatMap (· ++ ['\n'])) =
      (ls.map Text.Utf8.encode).flatMap (· ++ [10]) ++ [] := by
    rw [List.append_nil, Text.Utf8.encode, List.flatMap_assoc, List.flatMap_map]
    refine List.flatMap_congr fun l _ => ?_
    rw [List.flatMap_append, List.flatMap_singleton, hfeed]
    rfl
  have hclean : ∀ seg ∈ [] :: ls.map Text.Utf8.encode, (10 : UInt8) ∉ seg := by
    simpa using fun l hl => (hls l hl).not_mem_encode (b := 10) (by decide)
  have hreturn : ∀ l ∈ ls, LineReader.withoutReturn (Text.Utf8.encode l) = Text.Utf8.encode l := by
    intro l hl
    refine if_neg fun hlast => ?_
    exact (hls l hl).not_mem_encode (b := 13) (by decide) (List.mem_of_getLast? hlast)
  rw [linesOf, hbytes, segmentsOf_eq hclean, restOf_eq hclean, if_pos rfl, List.append_nil,
    List.map_map]
  exact List.map_congr_left hreturn

theorem map_textOf_encode {ls : List (List Char)} (hls : ∀ l ∈ ls, Printable l) :
    (ls.map Text.Utf8.encode).map textOf = ls.map String.ofList := by
  rw [List.map_map]
  refine List.map_congr_left fun l hl => ?_
  rw [Function.comp_apply, textOf, (hls l hl).decode_encode]

/-- A run of all builders over the bytes of printable lines is one over the lines. -/
theorem Run.overSource_printable (logUrl : String) (settings : Settings) {ls : List (List Char)}
    (hls : ∀ l ∈ ls, Printable l) :
    (ofKinds logUrl BuilderKind.all settings).overSource false
        (.ofBytes (Text.Utf8.encode (ls.flatMap (· ++ ['\n'])))) =
      parse logUrl settings (ls.map String.ofList) := by
  rw [overSource_ofBytes, overContent, textLinesOf, linesOf_encode hls, map_textOf_encode hls,
    parse, List.length_map, List.length_map]

/-- A short printable line is not cut. -/
theorem cutLine_of_printable {max : Nat} {l : List Char} (hl : Printable l) (h : l.length ≤ max) :
    cutLine max (String.ofList l) = String.ofList l := by
  unfold cutLine
  simp only [String.toList_ofList, hl.byteLength_eq, h, decide_true, Bool.true_or, if_true]

end JobLog
