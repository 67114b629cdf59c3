import JobLog.Json.Token
import JobLog.Proofs.Step.Duration

/-!
# Scanning JSON texts part by part

A text is scanned one part after the other, and digits are scanned as a whole.

* `Mode.run` scans a part of a text, and `Mode.tokens?_of_run` goes on with the rest.
* `Mode.run_string_digits` and `Mode.run_between_digits` scan digits.
* `ofWord?_decimal` is the token of a number.
-/

namespace JobLog

namespace Json

/-! ### Scanning -/

namespace Mode

/-- The mode behind several characters, and the tokens that they complete. -/
def run : Mode → List Char → Option (List Token × Mode)
  | m, [] => some ([], m)
  | m, c :: s => do
    let (ts, m) ← m.after? c
    let (rest, m) ← m.run s
    some (ts ++ rest, m)

theorem tokens?_append (m : Mode) (s r : List Char) :
    m.tokens? (s ++ r) = (m.run s).bind fun x => (x.2.tokens? r).map (x.1 ++ ·) := by
  induction s generalizing m with
  | nil => simp [run]
  | cons c s ih =>
    rw [List.cons_append, tokens?, run]
    cases m.after? c with
    | none => rfl
    | some x =>
      simp only [Option.bind_eq_bind, Option.bind_some, ih]
      cases x.2.run s with
      | none => rfl
      | some y => cases hrest : y.2.tokens? r <;> simp [hrest]

theorem tokens?_of_run {m m' : Mode} {s r : List Char} {ts ts' : List Token}
    (h : m.run s = some (ts, m')) (hr : m'.tokens? r = some ts') :
    m.tokens? (s ++ r) = some (ts ++ ts') := by
  rw [tokens?_append, h, Option.bind_some, hr, Option.map_some]

variable {ds : List Char}

/-- Digits go on with a string. -/
theorem run_string_digits (hds : ∀ c ∈ ds, Text.isAsciiDigit c = true) (cs : List Char) :
    run (.string ⟨cs, none, true, .none⟩) ds =
      some ([], .string ⟨ds.reverse ++ cs, none, true, .none⟩) := by
  induction ds generalizing cs with
  | nil => rfl
  | cons c ds ih =>
    obtain ⟨hc, hds⟩ := List.forall_mem_cons.1 hds
    have hcode := Text.toNat_of_isAsciiDigit hc
    have hquote : (c == '"') = false := beq_eq_false_iff_ne.2 fun h => absurd (h ▸ hc) (by decide)
    have hslash : c ≠ '\\' := fun h => absurd (h ▸ hc) (by decide)
    have hafter : after? (.string ⟨cs, none, true, .none⟩) c =
        some ([], .string ⟨c :: cs, none, true, .none⟩) := by
      simp [after?, OpenString.closedBy, OpenString.after?, OpenString.push, hquote, hslash,
        show ¬ c.toNat < 0x20 by omega]
    rw [run, hafter]
    simp [ih hds]

theorem begin?_digit {c : Char} (hc : Text.isAsciiDigit c = true) :
    begin? c = some ([], .word [c]) ∧ inWord c = true := by
  have hne : ∀ d, Text.isAsciiDigit d = false → c ≠ d := by
    rintro d hd rfl
    exact absurd (hc.symm.trans hd) (by decide)
  have hblank : Token.isBlank c = false := by
    simp [Token.isBlank, hne ' ' (by decide), hne '\n' (by decide), hne '\t' (by decide),
      hne '\r' (by decide)]
  have hmark : Token.ofMark? c = none := by
    unfold Token.ofMark?
    split <;> first | exact absurd hc (by decide) | rfl
  have hquote : c ≠ '"' := hne '"' (by decide)
  exact ⟨by simp [begin?, hblank, hmark, hquote], by simp [inWord, hblank, hmark, hquote]⟩

/-- Digits go on with a numeral. -/
theorem run_word_digits (hds : ∀ c ∈ ds, Text.isAsciiDigit c = true) (w : List Char) :
    run (.word w) ds = some ([], .word (ds.reverse ++ w)) := by
  induction ds generalizing w with
  | nil => rfl
  | cons c ds ih =>
    obtain ⟨hc, hds⟩ := List.forall_mem_cons.1 hds
    have hafter : after? (.word w) c = some ([], .word (c :: w)) := by
      simp [after?, (begin?_digit hc).2]
    rw [run, hafter]
    simp [ih hds]

/-- Digits begin a numeral. -/
theorem run_between_digits (hne : ds ≠ []) (hds : ∀ c ∈ ds, Text.isAsciiDigit c = true) :
    run .between ds = some ([], .word ds.reverse) := by
  obtain ⟨c, ds, rfl⟩ := List.exists_cons_of_ne_nil hne
  obtain ⟨hc, hds⟩ := List.forall_mem_cons.1 hds
  have hafter : after? .between c = some ([], .word [c]) := (begin?_digit hc).1
  rw [run, hafter]
  simp [run_word_digits hds]

end Mode

/-! ### Numbers -/

/-- The digits of a number have no zero in front, unless it is zero. -/
theorem length_of_head?_decimal {n : Nat} (h : (Text.decimal n).head? = some '0') :
    (Text.decimal n).length = 1 := by
  obtain ⟨ds, hds⟩ : ∃ ds, Text.decimal n = '0' :: ds := by
    cases hdecimal : Text.decimal n with
    | nil => exact absurd hdecimal Nat.toDigits_ne_nil
    | cons c ds => exact ⟨ds, by rw [hdecimal] at h; rw [Option.some.inj h]⟩
  have hvalue : Text.digitsValue ds = n := by
    rw [← Text.digitsValue_decimal n, hds]
    rfl
  have hlt : n < 10 ^ ds.length := by
    rw [← hvalue]
    refine Text.digitsValue_lt fun c hc => ?_
    exact Text.isAsciiDigit_of_mem_decimal (hds ▸ List.mem_cons_of_mem '0' hc)
  rw [hds, List.length_cons]
  by_cases hlength : ds.length = 0
  · rw [hlength]
  · have hle := (Nat.length_toDigits_le_iff (by decide) (Nat.pos_of_ne_zero hlength)).2 hlt
    rw [← Text.decimal, hds, List.length_cons] at hle
    omega

/-- The token of a number that fits a word. -/
theorem ofWord?_decimal {n : Nat} (h : n < Text.wordBound) :
    Token.ofWord? (Text.decimal n) = some (.num (some (.int n))) := by
  have hdigits := fun c => @Text.isAsciiDigit_of_mem_decimal n c
  have hne : Text.decimal n ≠ [] := Nat.toDigits_ne_nil
  have hword : ∀ c w, Text.isAsciiDigit c = false → Text.decimal n ≠ c :: w := by
    intro c w hc heq
    exact absurd ((hdigits c (heq ▸ List.mem_cons_self)).symm.trans hc) (by decide)
  have hread : Numeral.ofChars? (Text.decimal n) = some ⟨false, Text.decimal n, [], none⟩ := by
    have hmagnitude : Numeral.magnitudeOf? false (Text.decimal n) =
        some ⟨false, Text.decimal n, [], none⟩ := by
      have hzero : ¬ ((Text.decimal n).head? = some '0' ∧ (Text.decimal n).length ≠ 1) :=
        fun h => h.2 (length_of_head?_decimal h.1)
      rw [Numeral.magnitudeOf?, Text.takeWhile_all_digits hdigits,
        Text.dropWhile_all_digits hdigits, if_neg (not_or.2 ⟨hne, hzero⟩)]
      rfl
    unfold Numeral.ofChars?
    split
    case h_1 s heq => exact absurd heq (hword '-' s (by decide))
    case h_2 => exact hmagnitude
  have hvalue : (⟨false, Text.decimal n, [], none⟩ : Numeral).value? = some (.int n) := by
    simp [Numeral.value?, Numeral.integer?, Text.digitsValue_decimal, h]
  rw [Token.ofWord?, if_neg (hword _ _ (by decide)), if_neg (hword _ _ (by decide)),
    if_neg (hword _ _ (by decide)), hread, Option.map_some, hvalue]

end Json
end JobLog
