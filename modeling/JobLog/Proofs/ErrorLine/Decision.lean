import JobLog.Proofs.ErrorLine.Grammar

/-!
# The decision on a line

A line is an error exactly if the grammar says so. The prefix of the harness ends in spaces that may
also stand behind it, and it is read with all of them: that makes the line behind it unique.

* `HarnessPrefix.eq_of_append`: a text has at most one such prefix with all its spaces.
* `trimmed_withoutHarness`: the classifier removes this one.
* `isErrorLine_iff_grammar` is the result for all lines.
-/

namespace JobLog.ErrorGrammar

open Text (isDigit eq_of_run_append)

/-! ### The prefix of the harness -/

theorem Spaces.head?_append {u : List Char} (hu : Spaces u) (r : List Char) :
    (u ++ r).head? = some ' ' := by
  obtain ⟨c, v, rfl⟩ := List.exists_cons_of_ne_nil hu.1
  rw [hu.2 c List.mem_cons_self]
  rfl

/-- Spaces in front of something else are told apart from it in one way. -/
theorem Spaces.eq_of_append {u v r s : List Char} (hu : Spaces u) (hv : Spaces v)
    (hr : r.head? ≠ some ' ') (hs : s.head? ≠ some ' ') (h : u ++ r = v ++ s) : u = v ∧ r = s := by
  have hend : ∀ {t : List Char}, t.head? ≠ some ' ' → ∀ c ∈ t.head?, (c == ' ') = false := by
    intro t ht c hc
    rw [beq_eq_false_iff_ne]
    rintro rfl
    exact ht hc
  exact eq_of_run_append (p := (· == ' ')) (fun c hc => beq_iff_eq.2 (hu.2 c hc))
    (fun c hc => beq_iff_eq.2 (hv.2 c hc)) (hend hr) (hend hs) h

/-- So is the time in front of something that does not start with a digit. -/
theorem Clock.eq_of_append {t t' r s : List Char} (ht : Clock t) (ht' : Clock t')
    (hr : ∀ c ∈ r.head?, isDigit c = false) (hs : ∀ c ∈ s.head?, isDigit c = false)
    (h : t ++ r = t' ++ s) : r = s := by
  obtain ⟨a, b, c, ha, hb, hc, rfl⟩ := ht
  obtain ⟨a', b', c', ha', hb', hc', rfl⟩ := ht'
  have hcolon : ∀ x : List Char, ∀ d ∈ (":".toList ++ x).head?, isDigit d = false := by
    intro x d hd
    obtain rfl : ':' = d := by simpa using hd
    decide
  simp only [List.append_assoc] at h
  have hminutes := (eq_of_run_append ha.2 ha'.2 (hcolon _) (hcolon _) h).2
  have hseconds := (eq_of_run_append hb.2 hb'.2 (hcolon _) (hcolon _)
    (List.append_cancel_left hminutes)).2
  exact (eq_of_run_append hc.2 hc'.2 hr hs (List.append_cancel_left hseconds)).2

/-- A space is no digit. -/
theorem Spaces.isDigit_head?_append {u : List Char} (hu : Spaces u) (r : List Char) :
    ∀ c ∈ (u ++ r).head?, isDigit c = false := by
  intro c hc
  obtain rfl : ' ' = c := Option.some.inj ((hu.head?_append r).symm.trans hc)
  decide

/-- What stands behind a time and spaces is settled by the line. -/
theorem Clock.eq_of_spaces {t t' u u' r s : List Char} (ht : Clock t) (ht' : Clock t')
    (hu : Spaces u) (hu' : Spaces u') (hr : r.head? ≠ some ' ') (hs : s.head? ≠ some ' ')
    (h : t ++ (u ++ r) = t' ++ (u' ++ s)) : r = s := by
  have hspaces := ht.eq_of_append ht' (hu.isDigit_head?_append r) (hu'.isDigit_head?_append s) h
  exact (hu.eq_of_append hu' hr hs hspaces).2

/-- Texts that start with something else than a space do not continue spaces. -/
theorem OneOf.head?_append {ss : List String} {w : List Char} (hw : OneOf ss w)
    (hss : ∀ s ∈ ss, s.toList.head?.any (· != ' ') = true) (r : List Char) :
    (w ++ r).head? ≠ some ' ' := by
  obtain ⟨s, hs, rfl⟩ := hw
  have hhead := hss s hs
  cases hcs : s.toList with
  | nil =>
    rw [hcs] at hhead
    exact absurd hhead (by decide)
  | cons c cs =>
    have hc : (c != ' ') = true := by rwa [hcs] at hhead
    simpa using hc

theorem head?_level {l : List Char} (hl : OneOf ["DEBUG", "INFO", "WARNING"] l) (r : List Char) :
    (l ++ r).head? ≠ some ' ' :=
  hl.head?_append (by decide) r

theorem level_eq_of_append {l l' r s : List Char} (hl : OneOf ["DEBUG", "INFO", "WARNING"] l)
    (hl' : OneOf ["DEBUG", "INFO", "WARNING"] l') (h : l ++ r = l' ++ s) : l = l' ∧ r = s := by
  obtain ⟨a, ha, rfl⟩ := hl
  obtain ⟨a', ha', rfl⟩ := hl'
  simp only [List.mem_cons, List.not_mem_nil, or_false] at ha ha'
  rcases ha with rfl | rfl | rfl <;> rcases ha' with rfl | rfl | rfl <;> simp_all

/-- What stands behind the prefix and all its spaces is settled by the line. -/
theorem HarnessPrefix.eq_of_append {w w' r s : List Char} (hw : HarnessPrefix w)
    (hw' : HarnessPrefix w') (hr : r.head? ≠ some ' ') (hs : s.head? ≠ some ' ')
    (h : w ++ r = w' ++ s) : r = s := by
  obtain @⟨t, u, l, v, ht, hu, hl, hv⟩ := hw
  obtain @⟨t', u', l', v', ht', hu', hl', hv'⟩ := hw'
  simp only [List.append_assoc] at h
  -- the parts go off one by one from the left: the time with its spaces, the level with its hyphen,
  -- and the spaces behind it, which end in front of something that is no space
  have hlevel := ht.eq_of_spaces ht' hu hu' (head?_level hl _) (head?_level hl' _) h
  have hspaces := List.append_cancel_left (level_eq_of_append hl hl' hlevel).2
  exact (hv.eq_of_append hv' hr hs hspaces).2

theorem Trimmed.unique {line t t' : List Char} (ht : Trimmed line t) (ht' : Trimmed line t') :
    t = t' := by
  rcases ht with ⟨w, hw, hline, hspace⟩ | ⟨hnone, rfl⟩
  · rcases ht' with ⟨w', hw', hline', hspace'⟩ | ⟨hnone, -⟩
    · exact hw.eq_of_append hw' hspace hspace' (hline.symm.trans hline')
    · exact absurd ⟨w, hw, t, hline.symm⟩ hnone
  · rcases ht' with ⟨w', hw', hline', -⟩ | ⟨-, rfl⟩
    · exact absurd ⟨w', hw', t', hline'.symm⟩ hnone
    · rfl

/-- The classifier removes the prefix of the harness with all its spaces. -/
theorem trimmed_withoutHarness (line : List Char) : Trimmed line (withoutHarness line) := by
  rcases harnessPrefix.strip_cases line with ⟨w, hw, hline, hhead⟩ | ⟨hnone, hline⟩
  · refine .inl ⟨w, harnessPrefix_iff.1 hw, hline, fun hspace => ?_⟩
    have hfalse := Text.Pattern.head?_rests_append_plus hhead ' ' hspace
    exact absurd hfalse (by decide)
  · exact .inr ⟨by simpa only [harnessPrefix_iff] using hnone, hline⟩

/-! ### The decision -/

theorem reportedAtStart_iff {t : List Char} :
    reportedAtStart t = true ↔ ∃ w, ErrorStart w ∧ w <+: t := by
  rw [reportedAtStart, Text.Pattern.any_begins_iff]
  exact exists_congr fun w => and_congr_left' errorStart_iff

theorem reportedAnywhere_iff {t : List Char} :
    reportedAnywhere t = true ↔ ∃ w, ErrorText w ∧ w <:+: t := by
  rw [reportedAnywhere, Text.Pattern.any_occurs_iff]
  exact exists_congr fun w => and_congr_left' errorText_iff

theorem accepts_iff (line : List Char) :
    accepts line = true ↔
      (¬ ∃ w, InfoGuard w ∧ w <+: line) ∧ ¬ Excluded (withoutHarness line) ∧
        ((∃ w, ErrorStart w ∧ (w <+: line ∨ w <+: withoutHarness line)) ∨
          ∃ w, ErrorText w ∧ w <:+: withoutHarness line) := by
  have hguard : infoGuard.begins line = true ↔ ∃ w, InfoGuard w ∧ w <+: line := by
    rw [Text.Pattern.begins_iff_prefix]
    exact exists_congr fun w => and_congr_left' infoGuard_iff
  simp only [accepts, Bool.and_eq_true, Bool.or_eq_true, Bool.not_eq_true', ← Bool.not_eq_true,
    hguard, reportedAtStart_iff, reportedAnywhere_iff, excluded_iff, and_or_left, exists_or,
    and_assoc]

end ErrorGrammar

open ErrorGrammar

/-- **A line is an error exactly if the grammar says so.** Behind the prefix of the harness, with
all its spaces, stands one text. The line is an error if and only if it does not start like an
informational line about a test, this text is not excluded, and an error starts the line or this
text, or stands anywhere in this text. -/
theorem isErrorLine_iff_grammar (line : String) :
    ∃ t, Trimmed line.toList t ∧ (∀ t', Trimmed line.toList t' → t' = t) ∧
      (isErrorLine line = true ↔
        (¬ ∃ w, InfoGuard w ∧ w <+: line.toList) ∧ ¬ Excluded t ∧
          ((∃ w, ErrorStart w ∧ (w <+: line.toList ∨ w <+: t)) ∨ ∃ w, ErrorText w ∧ w <:+: t)) := by
  have htrimmed := trimmed_withoutHarness line.toList
  exact ⟨_, htrimmed, fun _ ht' => ht'.unique htrimmed, accepts_iff line.toList⟩

end JobLog
