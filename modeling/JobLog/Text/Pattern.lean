import JobLog.Text.Blank
import JobLog.Text.Digit

/-!
# Patterns

A `Pattern` describes texts by literals, character classes, repetition of one class, choice and
sequence. Repetition of a class is enough for log lines, so every function here is structural.

* `Pattern.Matches P w` says that the pattern describes the text `w`.
* `Pattern.rests P s` lists what may remain of `s` behind a match at its start, in the order of
  preference: longest repetition first, the left alternative first. Its head is what a search that
  backtracks settles for.
* `mem_rests_iff`: the list is complete and sound, whatever its order.
-/

namespace JobLog.Text

/-- A text pattern. -/
inductive Pattern
  /-- These characters. -/
  | lit (w : List Char)
  /-- One character of the class. -/
  | one (p : Char → Bool)
  /-- Any number of characters of the class. -/
  | star (p : Char → Bool)
  /-- At least one character of the class. -/
  | plus (p : Char → Bool)
  /-- The pattern or nothing. -/
  | opt (a : Pattern)
  /-- One after the other. -/
  | seq (a b : Pattern)
  /-- One or the other. -/
  | alt (a b : Pattern)

namespace Pattern

/-- The characters of a string. -/
def text (s : String) : Pattern := .lit s.toList

/-- One of two patterns. -/
instance : OrOp Pattern := ⟨.alt⟩

/-- One pattern after the other. -/
instance : HAppend Pattern Pattern Pattern := ⟨.seq⟩

/-- One of the strings, the earlier ones preferred. -/
def anyOf (first : String) (others : List String) : Pattern :=
  others.foldl (fun p s => p ||| text s) (text first)

/-- One or more digits. -/
def digits : Pattern := .plus isDigit

/-- One or more spaces. -/
def spaces : Pattern := .plus (· == ' ')

/-- Every character but the end of a line. -/
def inLine (c : Char) : Bool := c != '\n'

/-- The pattern describes the text. -/
def Matches : Pattern → List Char → Prop
  | .lit v, w => w = v
  | .one p, w => ∃ c, p c = true ∧ w = [c]
  | .star p, w => ∀ c ∈ w, p c = true
  | .plus p, w => w ≠ [] ∧ ∀ c ∈ w, p c = true
  | .opt a, w => a.Matches w ∨ w = []
  | .seq a b, w => ∃ u v, w = u ++ v ∧ a.Matches u ∧ b.Matches v
  | .alt a b, w => a.Matches w ∨ b.Matches w

/-- What remains of a text that starts with the given characters. -/
def dropLit? : List Char → List Char → Option (List Char)
  | [], s => some s
  | _ :: _, [] => none
  | c :: w, d :: s => if c = d then dropLit? w s else none

/-- The remainders behind a run of the class, the longest run first, in front of `found`. -/
def runRests (p : Char → Bool) : List Char → List (List Char) → List (List Char)
  | [], found => [] :: found
  | c :: s, found => if p c then runRests p s ((c :: s) :: found) else (c :: s) :: found

/-- What may remain of a text behind a match at its start, the preferred remainder first. -/
def rests : Pattern → List Char → List (List Char)
  | .lit w, s => (dropLit? w s).toList
  | .one _, [] => []
  | .one p, c :: s => if p c then [s] else []
  | .star p, s => runRests p s []
  | .plus _, [] => []
  | .plus p, c :: s => if p c then runRests p s [] else []
  | .opt a, s => a.rests s ++ [s]
  | .seq a b, s => (a.rests s).flatMap b.rests
  | .alt a b, s => a.rests s ++ b.rests s

/-- The text starts with a match. -/
def begins (P : Pattern) (s : List Char) : Bool := !(P.rests s).isEmpty

/-- The whole text is a match. -/
def covers (P : Pattern) (s : List Char) : Bool := (P.rests s).contains []

/-- The text contains a match. -/
def occurs (P : Pattern) : List Char → Bool
  | [] => P.begins []
  | c :: s => P.begins (c :: s) || P.occurs s

/-- The text behind the preferred match at its start, or the text itself where none is. -/
def strip (P : Pattern) (s : List Char) : List Char := (P.rests s).headD s

/-- The text before and behind the first preferred match anywhere in it. -/
def cut? (P : Pattern) : List Char → Option (List Char × List Char)
  | [] => (P.rests []).head?.map fun r => ([], r)
  | c :: s =>
    match (P.rests (c :: s)).head? with
    | some r => some ([], r)
    | none => (P.cut? s).map fun (before, behind) => (c :: before, behind)

/-! ### The remainders are sound and complete -/

theorem dropLit?_eq_some_iff {w s r : List Char} : dropLit? w s = some r ↔ s = w ++ r := by
  induction w generalizing s with
  | nil => simp [dropLit?, eq_comm]
  | cons c w ih =>
    cases s with
    | nil => simp [dropLit?]
    | cons d s =>
      by_cases h : c = d
      · simp [dropLit?, h, ih]
      · simp [dropLit?, h, Ne.symm h]

theorem mem_runRests_iff {p : Char → Bool} {s r : List Char} {found : List (List Char)} :
    r ∈ runRests p s found ↔ r ∈ found ∨ ∃ w, s = w ++ r ∧ ∀ c ∈ w, p c = true := by
  induction s generalizing found with
  | nil =>
    simp only [runRests, List.mem_cons]
    constructor
    · rintro (rfl | h)
      · exact .inr ⟨[], by simp⟩
      · exact .inl h
    · rintro (h | ⟨w, hw, -⟩)
      · exact .inr h
      · exact .inl (by simp_all)
  | cons c s ih =>
    by_cases hc : p c = true
    · simp only [runRests, hc, if_true, ih, List.mem_cons]
      constructor
      · rintro ((rfl | h) | ⟨w, rfl, hw⟩)
        · exact .inr ⟨[], by simp⟩
        · exact .inl h
        · exact .inr ⟨c :: w, by simp, by simpa [hc] using hw⟩
      · rintro (h | ⟨w, hw, hp⟩)
        · exact .inl (.inr h)
        · cases w with
          | nil => exact .inl (.inl (by simpa using hw.symm))
          | cons d w =>
            simp only [List.cons_append, List.cons.injEq] at hw
            exact .inr ⟨w, hw.2, fun x hx => hp x (List.mem_cons_of_mem _ hx)⟩
    · simp only [runRests, if_neg hc, List.mem_cons]
      constructor
      · rintro (rfl | h)
        · exact .inr ⟨[], by simp⟩
        · exact .inl h
      · rintro (h | ⟨w, hw, hp⟩)
        · exact .inr h
        · cases w with
          | nil => exact .inl (by simpa using hw.symm)
          | cons d w =>
            simp only [List.cons_append, List.cons.injEq] at hw
            exact absurd (hw.1 ▸ hp d (List.mem_cons_self)) hc

/-- What remains behind a match is exactly what the pattern's texts leave over. -/
theorem mem_rests_iff {P : Pattern} {s r : List Char} :
    r ∈ P.rests s ↔ ∃ w, s = w ++ r ∧ P.Matches w := by
  induction P generalizing s r with
  | lit v => simp [rests, Matches, dropLit?_eq_some_iff]
  | one p =>
    cases s with
    | nil => simp [rests, Matches]
    | cons c s =>
      by_cases h : p c = true
      · simp only [rests, h, if_true, List.mem_singleton, Matches]
        constructor
        · rintro rfl
          exact ⟨[c], by simp, c, h, rfl⟩
        · rintro ⟨w, hw, d, -, rfl⟩
          simp at hw
          exact hw.2.symm
      · simp only [rests, h, Matches]
        constructor
        · simp
        · rintro ⟨w, hw, d, hd, rfl⟩
          simp at hw
          exact absurd (hw.1 ▸ hd) h
  | star p => simp [rests, Matches, mem_runRests_iff]
  | plus p =>
    cases s with
    | nil => simp [rests, Matches]
    | cons c s =>
      by_cases h : p c = true
      · simp only [rests, h, if_true, mem_runRests_iff, List.not_mem_nil, false_or, Matches]
        constructor
        · rintro ⟨w, rfl, hw⟩
          exact ⟨c :: w, by simp, by simp, by simpa [h] using hw⟩
        · rintro ⟨w, hw, hne, hp⟩
          cases w with
          | nil => exact absurd rfl hne
          | cons d w =>
            simp only [List.cons_append, List.cons.injEq] at hw
            exact ⟨w, hw.2, fun x hx => hp x (List.mem_cons_of_mem _ hx)⟩
      · simp only [rests, h, Matches]
        constructor
        · simp
        · rintro ⟨w, hw, hne, hp⟩
          cases w with
          | nil => exact absurd rfl hne
          | cons d w =>
            simp only [List.cons_append, List.cons.injEq] at hw
            exact absurd (hw.1 ▸ hp d (List.mem_cons_self)) h
  | opt a ih =>
    simp only [rests, List.mem_append, ih, List.mem_singleton, Matches]
    constructor
    · rintro (⟨w, hw, h⟩ | rfl)
      · exact ⟨w, hw, .inl h⟩
      · exact ⟨[], by simp, .inr rfl⟩
    · rintro ⟨w, hw, h | rfl⟩
      · exact .inl ⟨w, hw, h⟩
      · exact .inr (by simpa using hw.symm)
  | seq a b iha ihb =>
    simp only [rests, List.mem_flatMap, iha, ihb, Matches]
    constructor
    · rintro ⟨t, ⟨u, rfl, hu⟩, v, rfl, hv⟩
      exact ⟨u ++ v, by simp, u, v, rfl, hu, hv⟩
    · rintro ⟨w, rfl, u, v, rfl, hu, hv⟩
      exact ⟨v ++ r, ⟨u, by simp, hu⟩, v, rfl, hv⟩
  | alt a b iha ihb =>
    simp only [rests, List.mem_append, iha, ihb, Matches]
    constructor
    · rintro (⟨w, hw, h⟩ | ⟨w, hw, h⟩)
      · exact ⟨w, hw, .inl h⟩
      · exact ⟨w, hw, .inr h⟩
    · rintro ⟨w, hw, h | h⟩
      · exact .inl ⟨w, hw, h⟩
      · exact .inr ⟨w, hw, h⟩

theorem begins_iff {P : Pattern} {s : List Char} :
    P.begins s = true ↔ ∃ w r, s = w ++ r ∧ P.Matches w := by
  have h : P.begins s = true ↔ ∃ r, r ∈ P.rests s := by
    rw [begins, Bool.not_eq_true', List.isEmpty_eq_false_iff_exists_mem]
  simp only [h, mem_rests_iff]
  exact exists_comm

theorem covers_iff {P : Pattern} {s : List Char} : P.covers s = true ↔ P.Matches s := by
  simp [covers, mem_rests_iff]

theorem occurs_iff {P : Pattern} {s : List Char} :
    P.occurs s = true ↔ ∃ u w r, s = u ++ w ++ r ∧ P.Matches w := by
  induction s with
  | nil =>
    simp only [occurs, begins_iff]
    constructor
    · rintro ⟨w, r, h, hw⟩
      exact ⟨[], w, r, by simpa using h, hw⟩
    · rintro ⟨u, w, r, h, hw⟩
      simp at h
      exact ⟨w, r, by simp [h], hw⟩
  | cons c s ih =>
    simp only [occurs, Bool.or_eq_true, begins_iff, ih]
    constructor
    · rintro (⟨w, r, h, hw⟩ | ⟨u, w, r, rfl, hw⟩)
      · exact ⟨[], w, r, by simpa using h, hw⟩
      · exact ⟨c :: u, w, r, by simp, hw⟩
    · rintro ⟨u, w, r, h, hw⟩
      cases u with
      | nil => exact .inl ⟨w, r, by simpa using h, hw⟩
      | cons d u =>
        simp only [List.cons_append, List.cons.injEq] at h
        exact .inr ⟨u, w, r, h.2, hw⟩

end Pattern
end JobLog.Text
