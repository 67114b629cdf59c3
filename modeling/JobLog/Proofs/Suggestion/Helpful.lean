import JobLog.Proofs.Suggestion.Searches
import JobLog.Proofs.Text.Pattern
import Mathlib.Data.List.TakeWhile

/-!
# Helpful terms

A text is checked for being helpful before it is made into terms: what leaked or the last part of
the path, or else the whole line. The kind of failure in front is removed behind the check, as is
what exceeds the length of a term or stands behind a question mark, and what is left may be no
longer helpful.

* `SearchTerms.chosen?` is the text that was checked, `SearchTerms.Shortens` says when something of
  it is left out, and `SearchTerms.mem_ofTerm_cases` that its terms are shorter parts of it then.
* `SearchTerms.StaysHelpful` says that they are as helpful as the text.
* `Summarizer.helpful_asked_iff` is the result for all caches and errors: all terms that are
  searched for are helpful exactly where the terms of each error stay so.
  `Summarizer.unhelpful_asked` are errors for which they do not.
-/

namespace JobLog

open Text (Pattern)

namespace SearchTerms

/-! ### The text that is checked -/

/-- The text of a cleaned line that its terms are made of: what leaked or the last part of the path
if that is helpful, or else the line if that is. -/
def chosen? (line : List Char) : Option (List Char) :=
  ((ofParts (parts line)).1.filter isHelpful).or ((some line).filter isHelpful)

theorem terms_ofLine (line : List Char) : (ofLine line).terms = (chosen? line).elim [] ofTerm := by
  unfold ofLine chosen?
  rcases ofParts (parts line) with ⟨_ | term, pathEnd?⟩
  · by_cases hline : isHelpful line <;> simp [hline, Option.filter_some]
  · by_cases hterm : isHelpful term
    · simp [hterm, Option.filter_some]
    · by_cases hline : isHelpful line <;> simp [hterm, hline, Option.filter_some]

theorem isHelpful_of_chosen? {line base : List Char} (h : base ∈ chosen? line) :
    isHelpful base = true := by
  rcases Option.or_eq_some_iff.1 h with h | ⟨-, h⟩
  · exact (Option.filter_eq_some_iff.1 h).2
  · exact (Option.filter_eq_some_iff.1 h).2

/-! ### The terms that are made of it -/

/-- Something of the text is left out of its terms: the kind of failure in front, what exceeds the
length of a term, or in one of them what stands behind a question mark. -/
def Shortens (base : List Char) : Prop :=
  failurePrefix.begins base = true ∨ maxLength < base.length ∨ '?' ∈ base

/-- A term is a part of the text it is made of. -/
theorem isInfix_of_mem_ofTerm {base term : List Char} (h : term ∈ ofTerm base) :
    term <:+: base := by
  have hcut : (failurePrefix.strip base).take maxLength <:+: base :=
    (List.take_prefix _ _).isInfix.trans (failurePrefix.strip_suffix base).isInfix
  simp only [ofTerm] at h
  split at h
  · rcases List.mem_pair.1 h with rfl | rfl
    · exact hcut
    · exact (List.takeWhile_prefix _).isInfix.trans hcut
  · rw [List.mem_singleton.1 h]
    exact hcut

/-- A text of which nothing is left out is its only term. -/
theorem ofTerm_of_not_shortens {base : List Char} (h : ¬ Shortens base) : ofTerm base = [base] := by
  obtain ⟨hkind, hlength, hmark⟩ : failurePrefix.begins base = false ∧ base.length ≤ maxLength ∧
      '?' ∉ base := by
    simpa [Shortens] using h
  have hcut : (failurePrefix.strip base).take maxLength = base := by
    rw [Pattern.strip_of_begins_eq_false hkind, List.take_of_length_le hlength]
  have hname : base.takeWhile (· ≠ '?') = base := by
    refine List.takeWhile_eq_self_iff.2 fun c hc => ?_
    simpa using ne_of_mem_of_not_mem hc hmark
  unfold ofTerm
  simp only [hcut, hname, Nat.lt_irrefl, and_false, if_false]

/-- A term is the whole text or a shorter part of it. -/
theorem mem_ofTerm_cases {base term : List Char} (h : term ∈ ofTerm base) :
    term = base ∨ Shortens base ∧ term <:+: base ∧ term.length < base.length := by
  have hpart := isInfix_of_mem_ofTerm h
  by_cases heq : term = base
  · exact .inl heq
  · refine .inr ⟨?_, hpart, ?_⟩
    · by_contra hshortens
      rw [ofTerm_of_not_shortens hshortens] at h
      exact heq (List.mem_singleton.1 h)
    · exact lt_of_le_of_ne hpart.length_le fun hlength => heq (hpart.eq_of_length hlength)

/-- The terms of a cleaned line that can be searched for are as helpful as the text they are made
of. -/
def StaysHelpful (line : List Char) : Prop :=
  ∀ base ∈ chosen? line, ∀ term ∈ ofTerm base, Text.allBlank term = false → isHelpful term = true

theorem staysHelpful_of_not_shortens {line : List Char}
    (h : ∀ base ∈ chosen? line, ¬ Shortens base) : StaysHelpful line := by
  intro base hbase term hterm _
  rcases mem_ofTerm_cases hterm with rfl | ⟨hshortens, -⟩
  · exact isHelpful_of_chosen? hbase
  · exact absurd hshortens (h base hbase)

end SearchTerms

/-! ### The terms that are searched for -/

namespace Summarizer

open SearchTerms

variable {σ : Type}

theorem mem_primaryTerms_iff {e : ErrorLine} {t : String} :
    t ∈ primaryTerms e ↔ Text.allBlank t.toList = false ∧
      ∃ base ∈ chosen? (cleanLine e.text.toList), t.toList ∈ ofTerm base := by
  have hterms : t ∈ (SearchTerms.ofLine (cleanLine e.text.toList)).terms.map String.ofList ↔
      ∃ base ∈ chosen? (cleanLine e.text.toList), t.toList ∈ ofTerm base := by
    rw [terms_ofLine]
    constructor
    · intro h
      obtain ⟨term, hterm, rfl⟩ := List.mem_map.1 h
      cases hbase : chosen? (cleanLine e.text.toList) with
      | none => simp [hbase] at hterm
      | some base => exact ⟨base, rfl, by simpa [hbase] using hterm⟩
    · rintro ⟨base, hbase, hterm⟩
      rw [Option.mem_def.1 hbase]
      exact List.mem_map.2 ⟨t.toList, hterm, String.ofList_toList⟩
  unfold primaryTerms
  rw [List.mem_filter, hterms, and_comm, Bool.not_eq_true']

/-- The first terms of an error are helpful exactly where they stay so. -/
theorem helpful_primaryTerms_iff {e : ErrorLine} :
    (∀ t ∈ primaryTerms e, isHelpful t.toList = true) ↔
      StaysHelpful (cleanLine e.text.toList) := by
  constructor
  · intro h base hbase term hterm hblank
    have hmem : String.ofList term ∈ primaryTerms e := by
      refine mem_primaryTerms_iff.2 ⟨?_, base, hbase, ?_⟩
      · rwa [String.toList_ofList]
      · rwa [String.toList_ofList]
    simpa only [String.toList_ofList] using h _ hmem
  · intro h t ht
    obtain ⟨hblank, base, hbase, hterm⟩ := mem_primaryTerms_iff.1 ht
    exact h base hbase t.toList hterm hblank

/-- The signature of a crash is checked as it is searched for. -/
theorem helpful_extraTerms {e : ErrorLine} {bugs : Bugs} {t : String}
    (h : t ∈ extraTerms e bugs) : isHelpful t.toList = true := by
  unfold extraTerms at h
  split at h
  case isTrue =>
    obtain ⟨sig, hsig, rfl⟩ := Option.map_eq_some_iff.1 (Option.mem_toList.1 h)
    rw [String.toList_ofList]
    exact (Option.filter_eq_some_iff.1 hsig).2
  case isFalse => exact nomatch h

theorem mem_wanted {cache : BugCache σ} {m : Summarizer σ} {e : ErrorLine} {t : String}
    (h : t ∈ m.wanted cache e) : t ∈ primaryTerms e ∨ isHelpful t.toList = true := by
  rcases List.mem_append.1 h with hprimary | hextra
  · exact .inl hprimary
  · exact .inr (helpful_extraTerms hextra)

theorem mem_wantedAll {cache : BugCache σ} {m : Summarizer σ} {es : List ErrorLine} {t : String}
    (h : t ∈ m.wantedAll cache es) :
    (∃ e ∈ es, t ∈ primaryTerms e) ∨ isHelpful t.toList = true := by
  induction es generalizing m with
  | nil => exact nomatch h
  | cons e es ih =>
    rcases List.mem_append.1 h with hwanted | hrest
    · exact (mem_wanted hwanted).imp_left fun ht => ⟨e, List.mem_cons_self, ht⟩
    · refine (ih hrest).imp_left ?_
      rintro ⟨e', he', ht⟩
      exact ⟨e', List.mem_cons_of_mem e he', ht⟩

theorem primaryTerms_subset_wantedAll {cache : BugCache σ} {m : Summarizer σ} {es : List ErrorLine}
    {e : ErrorLine} (he : e ∈ es) : primaryTerms e ⊆ m.wantedAll cache es := by
  induction es generalizing m with
  | nil => exact nomatch he
  | cons e' es ih =>
    intro t ht
    rcases List.mem_cons.1 he with rfl | he
    · exact List.mem_append_left _ (List.mem_append_left _ ht)
    · exact List.mem_append_right _ (ih he ht)

/-- **When only helpful terms are searched for.** All terms that a new summarizer searches for are
helpful exactly where the terms of each error stay so behind the check. Whatever a summarizer
remembers, the terms that it searches for are helpful then, and a term that is not is a shorter
part of a helpful text. The terms of an error stay helpful if nothing is left out of the text that
was checked. -/
theorem helpful_asked_iff (cache : BugCache σ) :
    (∀ state count errors,
      (∀ t ∈ ((start state).summarize cache count errors).2.asked, isHelpful t.toList = true) ↔
        ∀ e ∈ errors.take count, StaysHelpful (cleanLine e.text.toList)) ∧
    (∀ (m : Summarizer σ) (e : ErrorLine), ∃ new,
      (m.suggest cache e).2.asked = m.asked ++ new ∧
      (StaysHelpful (cleanLine e.text.toList) → ∀ t ∈ new, isHelpful t.toList = true) ∧
      ∀ t ∈ new, isHelpful t.toList = false →
        ∃ base ∈ chosen? (cleanLine e.text.toList), isHelpful base = true ∧ Shortens base ∧
          t.toList <:+: base ∧ t.toList.length < base.length) ∧
    ∀ line, (∀ base ∈ chosen? line, ¬ Shortens base) → StaysHelpful line := by
  refine ⟨fun state count errors => ?_, fun m e => ?_, fun line => staysHelpful_of_not_shortens⟩
  · have hasked (t : String) : t ∈ ((start state).summarize cache count errors).2.asked ↔
        t ∈ (start state).wantedAll cache (errors.take count) :=
      (traced_suggestAll cache state (errors.take count)).mem_asked_iff
    constructor
    · intro h e he
      refine helpful_primaryTerms_iff.1 fun t ht => h t ?_
      exact (hasked t).2 (primaryTerms_subset_wantedAll he ht)
    · intro h t ht
      rcases mem_wantedAll ((hasked t).1 ht) with ⟨e, he, ht⟩ | hhelpful
      · exact helpful_primaryTerms_iff.2 (h e he) t ht
      · exact hhelpful
  · obtain ⟨new, hnew, hsub⟩ := exists_asked_after cache m (m.wanted cache e)
    rw [snd_suggest]
    refine ⟨new, hnew, fun h t ht => ?_, fun t ht hunhelpful => ?_⟩
    · rcases mem_wanted (hsub.subset ht) with hprimary | hhelpful
      · exact helpful_primaryTerms_iff.2 h t hprimary
      · exact hhelpful
    · rcases mem_wanted (hsub.subset ht) with hprimary | hhelpful
      · obtain ⟨-, base, hbase, hterm⟩ := mem_primaryTerms_iff.1 hprimary
        have hhelpful := isHelpful_of_chosen? hbase
        rcases mem_ofTerm_cases hterm with rfl | hshorter
        · exact absurd hhelpful (by simp [hunhelpful])
        · exact ⟨base, hbase, hhelpful, hshorter⟩
      · exact absurd hhelpful (by simp [hunhelpful])

/-- A line without a message, a test with parameters and a path with a gap. -/
def shortenedErrors : List ErrorLine := [
  ⟨1, "TEST-UNEXPECTED-TIMEOUT | automation.py"⟩,
  ⟨2, "TEST-UNEXPECTED-FAIL | tests/a?variant=1 | timed out"⟩,
  ⟨3, "TEST-UNEXPECTED-FAIL | tests/b" ++ String.ofList (List.replicate 100 ' ') ++ "c | timeout"⟩]

/-- Their terms lose what made them helpful with the kind of failure, behind the question mark and
behind the greatest length. -/
theorem unhelpful_asked :
    ((start ()).summarize (.inMemory .empty fun _ => false) 200 shortenedErrors).2.asked =
      ["automation.py", "a?variant=1", "a", "b" ++ String.ofList (List.replicate 99 ' ')] ∧
    ¬ ∀ t ∈ ((start ()).summarize (.inMemory .empty fun _ => false) 200 shortenedErrors).2.asked,
      isHelpful t.toList = true := by
  have hasked :
      ((start ()).summarize (.inMemory .empty fun _ => false) 200 shortenedErrors).2.asked =
        ["automation.py", "a?variant=1", "a", "b" ++ String.ofList (List.replicate 99 ' ')] := by
    decide +kernel
  refine ⟨hasked, fun h => ?_⟩
  rw [hasked] at h
  exact absurd (h "automation.py" List.mem_cons_self) (by decide +kernel)

end Summarizer
end JobLog
