import JobLog.Text.Pattern

/-!
# Patterns and the texts they describe

What a search with a pattern says of a text, without the search.

* `Pattern.begins_iff_prefix`, `Pattern.covers_iff` and `Pattern.occurs_iff_infix`: a match at the
  start, of the whole or anywhere in a text is a start, the whole or a part that the pattern
  describes.
* `Pattern.head?_rests_append_plus`: the preferred match of a repetition at the end of a pattern
  takes all it can.
* `Pattern.cut?_map`: a search that does not tell some characters apart finds the same place
  whichever of them stand there.
* `Pattern.exists_of_cut?` and `Pattern.cut?_text_eq_some_iff`: a text is cut around the first match
  of a pattern and around the first occurrence of another text.
* `takeWhile_run_append`, `dropWhile_run_append` and `eq_of_run_append`: a row of one class and what
  stands behind it are told apart in one way.
-/

namespace JobLog.Text

/-- A row of characters of a class ends where a character outside it stands. -/
theorem takeWhile_run_append {p : Char → Bool} {u r : List Char} (hu : ∀ c ∈ u, p c = true)
    (hr : ∀ c ∈ r.head?, p c = false) : (u ++ r).takeWhile p = u := by
  rw [List.takeWhile_append_of_pos hu]
  cases r with
  | nil => simp
  | cons c r => simp [hr c rfl]

theorem dropWhile_run_append {p : Char → Bool} {u r : List Char} (hu : ∀ c ∈ u, p c = true)
    (hr : ∀ c ∈ r.head?, p c = false) : (u ++ r).dropWhile p = r := by
  rw [List.dropWhile_append_of_pos hu]
  cases r with
  | nil => rfl
  | cons c r => simp [hr c rfl]

/-- What stands behind a row of a class is outside of it. -/
theorem head?_dropWhile_run {p : Char → Bool} {s : List Char} :
    ∀ c ∈ (s.dropWhile p).head?, p c = false := by
  intro c hc
  have hdrop := List.head?_dropWhile_not p s
  rw [Option.mem_def.1 hc] at hdrop
  simpa using hdrop

theorem eq_of_run_append {p : Char → Bool} {u v r s : List Char} (hu : ∀ c ∈ u, p c = true)
    (hv : ∀ c ∈ v, p c = true) (hr : ∀ c ∈ r.head?, p c = false) (hs : ∀ c ∈ s.head?, p c = false)
    (h : u ++ r = v ++ s) : u = v ∧ r = s := by
  have huv : u = v := by
    rw [← takeWhile_run_append hu hr, h, takeWhile_run_append hv hs]
  subst huv
  exact ⟨rfl, List.append_cancel_left h⟩

namespace Pattern

theorem Matches.append {a b : Pattern} {u v : List Char} (ha : a.Matches u) (hb : b.Matches v) :
    (a ++ b).Matches (u ++ v) := ⟨u, v, rfl, ha, hb⟩

theorem matches_text (s : String) : (text s).Matches s.toList := rfl

theorem matches_anyOf_iff {first : String} {others : List String} {w : List Char} :
    (anyOf first others).Matches w ↔ ∃ s ∈ first :: others, w = s.toList := by
  have hfold : ∀ (others : List String) (P : Pattern),
      (others.foldl (fun p s => p ||| text s) P).Matches w ↔
        P.Matches w ∨ ∃ s ∈ others, w = s.toList := by
    intro others
    induction others with
    | nil => simp
    | cons s others ih =>
      intro P
      have hor : (P ||| text s).Matches w ↔ P.Matches w ∨ w = s.toList := Iff.rfl
      rw [List.foldl_cons, ih, hor]
      simp [or_assoc]
  rw [anyOf, hfold]
  simp [text, Matches]

/-! ### Searches -/

theorem begins_iff_prefix {P : Pattern} {s : List Char} :
    P.begins s = true ↔ ∃ w, P.Matches w ∧ w <+: s := by
  rw [begins_iff]
  constructor
  · rintro ⟨w, r, rfl, hw⟩
    exact ⟨w, hw, List.prefix_append w r⟩
  · rintro ⟨w, hw, r, rfl⟩
    exact ⟨w, r, rfl, hw⟩

theorem occurs_iff_infix {P : Pattern} {s : List Char} :
    P.occurs s = true ↔ ∃ w, P.Matches w ∧ w <:+: s := by
  rw [occurs_iff]
  constructor
  · rintro ⟨u, w, r, rfl, hw⟩
    exact ⟨w, hw, u, r, rfl⟩
  · rintro ⟨w, hw, u, r, rfl⟩
    exact ⟨u, w, r, rfl, hw⟩

/-- A bank of patterns describes the texts that one of its patterns does. -/
theorem exists_mem_matches_iff {Ps : List Pattern} {Q : List Char → Prop} :
    (∃ P ∈ Ps, ∃ w, P.Matches w ∧ Q w) ↔ ∃ w, (∃ P ∈ Ps, P.Matches w) ∧ Q w := by
  constructor
  · rintro ⟨P, hP, w, hw, hq⟩
    exact ⟨w, ⟨P, hP, hw⟩, hq⟩
  · rintro ⟨w, ⟨P, hP, hw⟩, hq⟩
    exact ⟨P, hP, w, hw, hq⟩

theorem any_begins_iff {Ps : List Pattern} {s : List Char} :
    Ps.any (·.begins s) = true ↔ ∃ w, (∃ P ∈ Ps, P.Matches w) ∧ w <+: s := by
  simp only [List.any_eq_true, begins_iff_prefix, exists_mem_matches_iff]

theorem any_occurs_iff {Ps : List Pattern} {s : List Char} :
    Ps.any (·.occurs s) = true ↔ ∃ w, (∃ P ∈ Ps, P.Matches w) ∧ w <:+: s := by
  simp only [List.any_eq_true, occurs_iff_infix, exists_mem_matches_iff]

/-! ### Preferred matches -/

theorem head?_runRests (p : Char → Bool) (s : List Char) (found : List (List Char)) :
    (runRests p s found).head? = some (s.dropWhile p) := by
  induction s generalizing found with
  | nil => rfl
  | cons c s ih =>
    by_cases hc : p c = true
    · rw [runRests, if_pos hc, ih, List.dropWhile_cons_of_pos hc]
    · rw [runRests, if_neg hc, List.dropWhile_cons_of_neg hc]
      rfl

/-- The preferred match of a repetition ends in front of a character outside the class. -/
theorem head?_rests_plus {p : Char → Bool} {s r : List Char}
    (h : (rests (.plus p) s).head? = some r) : ∀ c ∈ r.head?, p c = false := by
  cases s with
  | nil => simp [rests] at h
  | cons c s =>
    rw [rests] at h
    split at h
    case isTrue =>
      rw [head?_runRests, Option.some.injEq] at h
      exact h ▸ head?_dropWhile_run
    case isFalse => simp at h

/-- So does that of a pattern with a repetition at its end, whatever stands before it. -/
theorem head?_rests_append_plus {a : Pattern} {p : Char → Bool} {s r : List Char}
    (h : (rests (a ++ .plus p) s).head? = some r) : ∀ c ∈ r.head?, p c = false := by
  have hrests : rests (a ++ .plus p) s = (a.rests s).flatMap (rests (.plus p)) := rfl
  rw [hrests, List.head?_flatMap] at h
  obtain ⟨t, -, ht⟩ := List.exists_of_findSome?_eq_some h
  exact head?_rests_plus ht

/-- A run at the end of a pattern is taken whole, whatever stands before it. -/
theorem head?_rests_append_star (a : Pattern) (p : Char → Bool) (s : List Char) :
    (rests (a ++ .star p) s).head? = (a.rests s).head?.map (List.dropWhile p) := by
  have hrests : rests (a ++ .star p) s = (a.rests s).flatMap fun t => runRests p t [] := rfl
  rw [hrests]
  cases a.rests s with
  | nil => rfl
  | cons t ts =>
    rw [List.flatMap_cons, List.head?_append, head?_runRests]
    rfl

/-- What is left of a text without a preferred match: all of it where there is none. -/
theorem strip_cases (P : Pattern) (s : List Char) :
    (∃ w, P.Matches w ∧ s = w ++ P.strip s ∧ (P.rests s).head? = some (P.strip s)) ∨
      ((¬ ∃ w, P.Matches w ∧ w <+: s) ∧ P.strip s = s) := by
  rw [strip, ← begins_iff_prefix]
  cases hrests : P.rests s with
  | nil => exact .inr ⟨by simp [begins, hrests], rfl⟩
  | cons r rs =>
    have hr : r ∈ P.rests s := by rw [hrests]; exact List.mem_cons_self
    obtain ⟨w, hs, hw⟩ := mem_rests_iff.1 hr
    exact .inl ⟨w, hw, hs, rfl⟩

theorem strip_suffix (P : Pattern) (s : List Char) : P.strip s <:+ s := by
  rcases P.strip_cases s with ⟨w, -, hs, -⟩ | ⟨-, hs⟩
  · exact ⟨w, hs.symm⟩
  · exact ⟨[], hs⟩

theorem strip_of_begins_eq_false {P : Pattern} {s : List Char} (h : P.begins s = false) :
    P.strip s = s := by
  rcases P.strip_cases s with ⟨w, hw, hs, -⟩ | ⟨-, hs⟩
  · have hbegins : P.begins s = true := begins_iff_prefix.2 ⟨w, hw, P.strip s, hs.symm⟩
    exact absurd hbegins (by simp [h])
  · exact hs

/-! ### Characters that are not told apart -/

/-- The pattern does not tell characters from their images. -/
def Blind (f : Char → Char) : Pattern → Prop
  | .lit w => ∀ c ∈ w, ∀ d, f d = c ↔ d = c
  | .one p => ∀ c, p (f c) = p c
  | .star p => ∀ c, p (f c) = p c
  | .plus p => ∀ c, p (f c) = p c
  | .opt a => a.Blind f
  | .seq a b => a.Blind f ∧ b.Blind f
  | .alt a b => a.Blind f ∧ b.Blind f

section Blind

variable {f : Char → Char} {p : Char → Bool}

theorem dropLit?_map {w : List Char} (h : ∀ c ∈ w, ∀ d, f d = c ↔ d = c) (s : List Char) :
    dropLit? w (s.map f) = (dropLit? w s).map (List.map f) := by
  induction w generalizing s with
  | nil => rfl
  | cons c w ih =>
    cases s with
    | nil => rfl
    | cons d s =>
      have hc : c = f d ↔ c = d := by
        rw [eq_comm, h c List.mem_cons_self, eq_comm]
      rw [List.map_cons, dropLit?, dropLit?, ih fun c hc => h c (List.mem_cons_of_mem _ hc)]
      by_cases hd : c = d
      · rw [if_pos (hc.2 hd), if_pos hd]
      · rw [if_neg (mt hc.1 hd), if_neg hd]
        rfl

theorem runRests_map (h : ∀ c, p (f c) = p c) (s : List Char) (found : List (List Char)) :
    runRests p (s.map f) (found.map (List.map f)) =
      (runRests p s found).map (List.map f) := by
  induction s generalizing found with
  | nil => rfl
  | cons c s ih =>
    rw [List.map_cons, runRests, runRests, h]
    split
    case isTrue => exact ih ((c :: s) :: found)
    case isFalse => rfl

theorem rests_map {P : Pattern} (h : P.Blind f) (s : List Char) :
    P.rests (s.map f) = (P.rests s).map (List.map f) := by
  induction P generalizing s with
  | lit w =>
    rw [rests, rests, dropLit?_map h]
    cases dropLit? w s <;> rfl
  | one p =>
    cases s with
    | nil => rfl
    | cons c s =>
      have hc : p (f c) = p c := h c
      rw [List.map_cons, rests, rests, hc]
      split <;> rfl
  | star p => exact runRests_map h s []
  | plus p =>
    cases s with
    | nil => rfl
    | cons c s =>
      have hc : p (f c) = p c := h c
      rw [List.map_cons, rests, rests, hc]
      split
      case isTrue => exact runRests_map h s []
      case isFalse => rfl
  | opt a ih => simp only [rests, ih h, List.map_append, List.map_cons, List.map_nil]
  | seq a b iha ihb =>
    simp only [rests, iha h.1, List.flatMap_map, List.map_flatMap, ihb h.2]
  | alt a b iha ihb => simp only [rests, iha h.1, ihb h.2, List.map_append]

theorem cut?_map {P : Pattern} (h : P.Blind f) (s : List Char) :
    P.cut? (s.map f) = (P.cut? s).map fun (before, behind) => (before.map f, behind.map f) := by
  induction s with
  | nil =>
    have hhead : (P.rests []).head? = (P.rests []).head?.map (List.map f) := by
      rw [← List.head?_map, ← rests_map h, List.map_nil]
    rw [List.map_nil, cut?]
    cases hr : (P.rests []).head? with
    | none => rfl
    | some r =>
      rw [hr] at hhead
      exact congrArg (fun r => some ([], r)) (Option.some.inj hhead)
  | cons c s ih =>
    rw [List.map_cons, cut?, cut?, ← List.map_cons, rests_map h, List.head?_map, ih]
    cases (P.rests (c :: s)).head? with
    | some r => rfl
    | none => cases P.cut? s <;> rfl

end Blind

/-! ### First occurrences -/

/-- A text stands in another one between two parts, and nowhere before. -/
structure FirstOccurrence (w s before behind : List Char) : Prop where
  eq_append : s = before ++ w ++ behind
  length_le : ∀ u v, s = u ++ w ++ v → before.length ≤ u.length

/-- The parts around an occurrence are told by where it starts. -/
theorem around_inj {w before behind before' behind' : List Char}
    (h : before ++ w ++ behind = before' ++ w ++ behind')
    (hlength : before.length = before'.length) : before = before' ∧ behind = behind' := by
  rw [List.append_assoc, List.append_assoc] at h
  obtain ⟨hbefore, hrest⟩ := List.append_inj h hlength
  exact ⟨hbefore, List.append_cancel_left hrest⟩

theorem FirstOccurrence.unique {w s before behind before' behind' : List Char}
    (h : FirstOccurrence w s before behind) (h' : FirstOccurrence w s before' behind') :
    before = before' ∧ behind = behind' :=
  around_inj (h.eq_append.symm.trans h'.eq_append)
    (Nat.le_antisymm (h.length_le _ _ h'.eq_append) (h'.length_le _ _ h.eq_append))

theorem head?_rests_lit (w s : List Char) : (rests (.lit w) s).head? = dropLit? w s := by
  rw [rests]
  cases dropLit? w s <;> rfl

/-- A text is cut around the preferred match at the first place where there is one. -/
theorem exists_of_cut? {P : Pattern} {s before behind : List Char}
    (h : P.cut? s = some (before, behind)) :
    ∃ t, s = before ++ t ∧ (P.rests t).head? = some behind ∧
      ∀ u w v, s = u ++ w ++ v → P.Matches w → before.length ≤ u.length := by
  induction s generalizing before with
  | nil =>
    obtain ⟨r, hr, heq⟩ := Option.map_eq_some_iff.1 h
    obtain ⟨rfl, rfl⟩ := Prod.mk.inj heq
    exact ⟨[], rfl, hr, fun _ _ _ _ _ => Nat.zero_le _⟩
  | cons c s ih =>
    rw [cut?] at h
    cases hrests : (P.rests (c :: s)).head? with
    | some r =>
      rw [hrests] at h
      obtain ⟨rfl, rfl⟩ := Prod.mk.inj (Option.some.inj h)
      exact ⟨c :: s, rfl, hrests, fun _ _ _ _ _ => Nat.zero_le _⟩
    | none =>
      rw [hrests] at h
      obtain ⟨⟨u, r⟩, hcut, heq⟩ := Option.map_eq_some_iff.1 h
      obtain ⟨rfl, rfl⟩ := Prod.mk.inj heq
      obtain ⟨t, hs, hr, hfirst⟩ := ih hcut
      refine ⟨t, congrArg (c :: ·) hs, hr, fun x w v hx hw => ?_⟩
      cases x with
      | nil =>
        have hmem : v ∈ P.rests (c :: s) := mem_rests_iff.2 ⟨w, hx, hw⟩
        rw [List.head?_eq_none_iff.1 hrests] at hmem
        exact absurd hmem List.not_mem_nil
      | cons d x => exact Nat.succ_le_succ (hfirst x w v (List.cons.inj hx).2 hw)

theorem firstOccurrence_of_cut? {w s before behind : List Char}
    (h : (lit w).cut? s = some (before, behind)) : FirstOccurrence w s before behind := by
  obtain ⟨t, hs, hrests, hfirst⟩ := exists_of_cut? h
  rw [head?_rests_lit, dropLit?_eq_some_iff] at hrests
  refine ⟨by rw [hs, hrests, List.append_assoc], fun u v heq => hfirst u w v heq rfl⟩

theorem cut?_eq_none_iff {P : Pattern} {s : List Char} : P.cut? s = none ↔ P.occurs s = false := by
  induction s with
  | nil => simp [cut?, occurs, begins]
  | cons c s ih =>
    rw [cut?, occurs, Bool.or_eq_false_iff, ← ih, begins]
    cases P.rests (c :: s) <;> simp

/-- A text that is not cut holds no match. -/
theorem not_isInfix_of_cut? {P : Pattern} {s w : List Char} (h : P.cut? s = none)
    (hw : P.Matches w) : ¬ w <:+: s := by
  intro hinfix
  have hoccurs := occurs_iff_infix.2 ⟨w, hw, hinfix⟩
  exact nomatch (cut?_eq_none_iff.1 h).symm.trans hoccurs

/-- A text is cut around its first occurrence in another one. -/
theorem cut?_text_eq_some_iff {w : String} {s before behind : List Char} :
    (text w).cut? s = some (before, behind) ↔ FirstOccurrence w.toList s before behind := by
  refine ⟨firstOccurrence_of_cut?, fun h => ?_⟩
  cases hcut : (text w).cut? s with
  | none =>
    have hinfix : w.toList <:+: s := ⟨before, behind, h.eq_append.symm⟩
    exact absurd hinfix (not_isInfix_of_cut? hcut (matches_text w))
  | some r =>
    obtain ⟨before', behind'⟩ := r
    obtain ⟨rfl, rfl⟩ := (firstOccurrence_of_cut? hcut).unique h
    rfl

end Pattern
end JobLog.Text
