import JobLog.Proofs.Text.Pattern

/-!
# Last occurrences

A text can stand in another one several times, and what stands behind it may be of use or not.

* `Pattern.LastOccurrence` is the last place of a text that has something usable behind it.
* `Pattern.lastBehind?` searches for it from the end of the text, and
  `Pattern.lastBehind?_eq_some_iff` and `Pattern.lastBehind?_eq_none_iff` say that it finds it.
-/

namespace JobLog.Text.Pattern

variable {α : Type} {w s : List Char} {g : List Char → Option α} {a : α}

/-- A text stands in another one between two parts, the second of which is usable, and with no
usable one anywhere after. -/
structure LastOccurrence (w : List Char) (Usable : List Char → Prop)
    (s before behind : List Char) : Prop where
  eq_append : s = before ++ w ++ behind
  usable : Usable behind
  le_length : ∀ u v, s = u ++ w ++ v → Usable v → u.length ≤ before.length

namespace LastOccurrence

variable {Usable : List Char → Prop} {before behind before' behind' : List Char}

theorem unique (h : LastOccurrence w Usable s before behind)
    (h' : LastOccurrence w Usable s before' behind') : before = before' ∧ behind = behind' :=
  around_inj (h.eq_append.symm.trans h'.eq_append)
    (Nat.le_antisymm (h'.le_length _ _ h.eq_append h.usable)
      (h.le_length _ _ h'.eq_append h'.usable))

theorem cons (h : LastOccurrence w Usable s before behind) (c : Char) :
    LastOccurrence w Usable (c :: s) (c :: before) behind where
  eq_append := congrArg (c :: ·) h.eq_append
  usable := h.usable
  le_length u v heq hv := by
    cases u with
    | nil => exact Nat.zero_le _
    | cons d u => exact Nat.succ_le_succ (h.le_length u v (List.cons.inj heq).2 hv)

end LastOccurrence

/-- What `g` makes of the text behind the last `w` of which it makes something. -/
def lastBehind? (w : List Char) (g : List Char → Option α) : List Char → Option α
  | [] => none
  | c :: s => (lastBehind? w g s).or ((dropLit? w (c :: s)).bind g)

theorem lastBehind?_eq_none_iff (hw : w ≠ []) :
    lastBehind? w g s = none ↔ ∀ before behind, s = before ++ w ++ behind → g behind = none := by
  induction s with
  | nil => simp [lastBehind?, hw]
  | cons c s ih =>
    rw [lastBehind?, Option.or_eq_none_iff, ih]
    constructor
    · rintro ⟨hlater, hhere⟩ before behind heq
      cases before with
      | nil =>
        have hdrop : dropLit? w (c :: s) = some behind := dropLit?_eq_some_iff.2 heq
        rwa [hdrop] at hhere
      | cons d before => exact hlater before behind (List.cons.inj heq).2
    · refine fun h => ⟨fun before behind heq => h (c :: before) behind (by rw [heq]; rfl), ?_⟩
      cases hdrop : dropLit? w (c :: s) with
      | none => rfl
      | some r => exact h [] r (dropLit?_eq_some_iff.1 hdrop)

theorem lastOccurrence_of_lastBehind? (hw : w ≠ []) (h : lastBehind? w g s = some a) :
    ∃ before behind, LastOccurrence w (fun v => ∃ b, g v = some b) s before behind ∧
      g behind = some a := by
  induction s with
  | nil => exact nomatch h
  | cons c s ih =>
    rcases Option.or_eq_some_iff.1 h with hlater | ⟨hnone, hhere⟩
    · obtain ⟨before, behind, hlast, ha⟩ := ih hlater
      exact ⟨c :: before, behind, hlast.cons c, ha⟩
    · obtain ⟨r, hdrop, ha⟩ := Option.bind_eq_some_iff.1 hhere
      refine ⟨[], r, ⟨dropLit?_eq_some_iff.1 hdrop, ⟨a, ha⟩, fun u v heq ⟨b, hb⟩ => ?_⟩, ha⟩
      cases u with
      | nil => exact Nat.le_refl _
      | cons d u =>
        have hv := (lastBehind?_eq_none_iff hw).1 hnone u v (List.cons.inj heq).2
        exact nomatch hv.symm.trans hb

/-- The search finds the last usable occurrence. -/
theorem lastBehind?_eq_some_iff (hw : w ≠ []) :
    lastBehind? w g s = some a ↔
      ∃ before behind, LastOccurrence w (fun v => ∃ b, g v = some b) s before behind ∧
        g behind = some a := by
  refine ⟨lastOccurrence_of_lastBehind? hw, ?_⟩
  rintro ⟨before, behind, hlast, ha⟩
  cases hb : lastBehind? w g s with
  | none =>
    have hnone := (lastBehind?_eq_none_iff hw).1 hb before behind hlast.eq_append
    exact nomatch hnone.symm.trans ha
  | some b =>
    obtain ⟨before', behind', hlast', hb'⟩ := lastOccurrence_of_lastBehind? hw hb
    obtain ⟨rfl, rfl⟩ := hlast.unique hlast'
    exact hb'.symm.trans ha

end JobLog.Text.Pattern
