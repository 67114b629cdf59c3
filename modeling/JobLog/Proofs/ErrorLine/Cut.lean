import JobLog.Proofs.ErrorLine.Harness
import JobLog.Proofs.Run.CutLine

/-!
# Lines that go on

Text behind an error leaves it an error. What makes a line an error stays where it is, and the line
keeps the prefix of the harness that it has and does not come to one: a text that a prefix starts
with reports nothing. Only an exclusion can be completed by what comes behind.

* `SilentUntilDone` is said of a text that reports nothing before it is complete: the start of a
  line about a test (`TestInfo.silentUntilDone`) and the excluded start
  (`silentUntilDone_nonFatal`).
* `withoutHarness_append` keeps the text behind the prefix.
* `LateExclusion` lists the exclusions that a line can come to, and `isErrorLine_append` is the
  result for longer lines and for lines that are cut.
-/

namespace JobLog

namespace ErrorGrammar

open Text (isDigit)

/-! ### What is reported stays reported -/

theorem reports_iff {t : List Char} :
    Reports t ↔ (reportedAtStart t || reportedAnywhere t) = true := by
  rw [Bool.or_eq_true, reportedAtStart_iff, reportedAnywhere_iff]
  constructor
  · rintro (⟨hw, h⟩ | ⟨hw, h⟩)
    · exact .inl ⟨_, hw, h⟩
    · exact .inr ⟨_, hw, h⟩
  · rintro (⟨w, hw, h⟩ | ⟨w, hw, h⟩)
    · exact .starts hw h
    · exact .holds hw h

theorem Reports.append {t : List Char} (h : Reports t) (s : List Char) : Reports (t ++ s) := by
  cases h with
  | starts hw h => exact .starts hw (h.trans (List.prefix_append t s))
  | holds hw h => exact .holds hw (h.trans (List.prefix_append t s).isInfix)

theorem Reports.ne_nil {t : List Char} (h : Reports t) : t ≠ [] := by
  rintro rfl
  exact absurd (reports_iff.1 h) (by decide)

/-! ### Texts that report nothing before they are complete -/

/-- No start of the text reports anything, unless it is all of it. -/
def SilentUntilDone (x : List Char) : Prop := ¬ Reports x.dropLast

/-- Such a text is not completed behind something that is reported. -/
theorem SilentUntilDone.prefix_of_reports {x t s : List Char} (hx : SilentUntilDone x)
    (ht : Reports t) (h : x <+: t ++ s) : x <+: t := by
  have hprefix : t <+: t ++ s := List.prefix_append t s
  rcases Nat.lt_or_ge t.length x.length with hlt | hge
  · have hle : t.length ≤ x.dropLast.length := by
      rw [List.length_dropLast]
      exact Nat.le_sub_one_of_lt hlt
    obtain ⟨r, hr⟩ :=
      List.prefix_of_prefix_length_le hprefix ((List.dropLast_prefix x).trans h) hle
    have hreports := ht.append r
    rw [hr] at hreports
    exact absurd hreports hx
  · exact List.prefix_of_prefix_length_le h hprefix hge

theorem silentUntilDone_of_not_reported {x : List Char}
    (h : (reportedAtStart x.dropLast || reportedAnywhere x.dropLast) = false) :
    SilentUntilDone x := by
  rw [SilentUntilDone, reports_iff, h]
  decide

theorem silentUntilDone_nonFatal : SilentUntilDone "non-fatal error".toList :=
  silentUntilDone_of_not_reported (by decide +kernel)

theorem TestInfo.silentUntilDone {v : List Char} (hv : TestInfo v) : SilentUntilDone v := by
  obtain ⟨⟨j, hj, rfl⟩, ⟨k, hk, rfl⟩⟩ := hv
  refine silentUntilDone_of_not_reported ?_
  revert j k
  decide +kernel

/-! ### The prefix of the harness reports nothing -/

/-- Characters that no prefix of the harness holds. -/
def foreign : List Char := "TPLHSet".toList

/-- An error has a character that no prefix holds, or two that no level has together. -/
theorem ErrorText.exists_foreign {w : List Char} (hw : ErrorText w) :
    (∃ c ∈ foreign, c ∈ w) ∨ ('E' ∈ w ∧ 'R' ∈ w) := by
  cases hw with
  | fixed h =>
    obtain ⟨s, hs, rfl⟩ := h
    have hany : foreign.any (s.toList.contains ·) = true := by
      revert s
      decide +kernel
    obtain ⟨c, hc, hcs⟩ := List.any_eq_true.1 hany
    exact .inl ⟨c, hc, List.contains_iff_mem.1 hcs⟩
  | unexpected hk => exact .inl ⟨'T', by decide, by simp⟩
  | assertion hk => exact .inl ⟨'t', by decide, by simp⟩
  | compiler hn => exact .inl ⟨'e', by decide, by simp⟩
  | source hn => exact .inl ⟨'e', by decide, by simp⟩
  | numbered hr hn => exact .inl ⟨'e', by decide, by simp⟩
  | status ha hb hc => exact .inr ⟨by simp, by simp⟩
  | sanitizer hk => exact .inl ⟨'S', by decide, by simp⟩

/-- A prefix of the harness holds digits, colons, spaces, a hyphen and one of the levels. -/
theorem HarnessPrefix.mem {w : List Char} (hw : HarnessPrefix w) :
    ∃ l ∈ ["DEBUG", "INFO", "WARNING"],
      ∀ c ∈ w, isDigit c = true ∨ c ∈ ": -".toList ∨ c ∈ l.toList := by
  obtain ⟨⟨h, m, s, hh, hm, hs, rfl⟩, hu, ⟨l, hl, rfl⟩, hv⟩ := hw
  refine ⟨l, hl, fun c hc => ?_⟩
  have hcolon : c ∈ ":".toList → c ∈ ": -".toList := by simp_all
  have hdash : c ∈ " -".toList → c ∈ ": -".toList := by simp_all
  have hspace : c = ' ' → c ∈ ": -".toList := by simp_all
  simp only [List.mem_append] at hc
  rcases hc with (((((((hc | hc) | hc) | hc) | hc) | hc) | hc) | hc) | hc
  · exact .inl (hh.2 c hc)
  · exact .inr (.inl (hcolon hc))
  · exact .inl (hm.2 c hc)
  · exact .inr (.inl (hcolon hc))
  · exact .inl (hs.2 c hc)
  · exact .inr (.inl (hspace (hu.2 c hc)))
  · exact .inr (.inr hc)
  · exact .inr (.inl (hdash hc))
  · exact .inr (.inl (hspace (hv.2 c hc)))

theorem HarnessPrefix.not_errorText {w x : List Char} (hw : HarnessPrefix w) (hx : ErrorText x) :
    ¬ x <:+: w := by
  intro h
  obtain ⟨l, hl, hmem⟩ := hw.mem
  have hlevel : ∀ c, isDigit c = false → c ∉ ": -".toList → c ∈ x → c ∈ l.toList := by
    intro c hdigit hmark hc
    rcases hmem c (h.subset hc) with hcw | hcw | hcw
    · exact absurd (hdigit.symm.trans hcw) (by decide)
    · exact absurd hcw hmark
    · exact hcw
  have hforeign : ∀ c ∈ foreign, isDigit c = false ∧ c ∉ ": -".toList ∧
      ∀ l ∈ ["DEBUG", "INFO", "WARNING"], c ∉ l.toList := by
    intro c hc
    have hc : c ∈ ['T', 'P', 'L', 'H', 'S', 'e', 't'] := hc
    simp only [List.mem_cons, List.not_mem_nil, or_false] at hc
    rcases hc with rfl | rfl | rfl | rfl | rfl | rfl | rfl <;> decide
  have hpair : ∀ l ∈ ["DEBUG", "INFO", "WARNING"], 'E' ∈ l.toList → 'R' ∉ l.toList := by
    decide +kernel
  rcases hx.exists_foreign with ⟨c, hc, hcx⟩ | ⟨hE, hR⟩
  · obtain ⟨hdigit, hmark, hnone⟩ := hforeign c hc
    exact hnone l hl (hlevel c hdigit hmark hcx)
  · exact hpair l hl (hlevel 'E' (by decide) (by decide) hE) (hlevel 'R' (by decide) (by decide) hR)

/-- A text that a prefix of the harness starts with reports nothing. -/
theorem HarnessPrefix.not_reports {w t : List Char} (hw : HarnessPrefix w) (h : t <+: w) :
    ¬ Reports t := by
  rintro (⟨hx, hxt⟩ | ⟨hx, hxt⟩)
  · exact hw.not_errorStart (p := []) hx (by simpa using hxt.trans h)
  · exact hw.not_errorText hx (hxt.trans h.isInfix)

/-! ### The prefix stays as it is -/

/-- Behind a line that reports something, text goes on behind the prefix. -/
theorem withoutHarness_append {l : List Char} (h : Reports (withoutHarness l)) (s : List Char) :
    withoutHarness (l ++ s) = withoutHarness l ++ s := by
  have hhead : (withoutHarness l ++ s).head? = (withoutHarness l).head? := by
    obtain ⟨c, t, ht⟩ := List.exists_cons_of_ne_nil h.ne_nil
    rw [ht]
    rfl
  rcases trimmed_withoutHarness l with ⟨w, hw, hl, hspace⟩ | ⟨hnone, hl⟩
  · refine (trimmed_withoutHarness (l ++ s)).unique (.inl ⟨w, hw, ?_, ?_⟩)
    · rw [← List.append_assoc, ← hl]
    · rwa [hhead]
  · rw [hl] at h ⊢
    refine withoutHarness_of_not_prefix ?_
    rintro ⟨w, hw, hprefix⟩
    -- a prefix that ends behind the line would have a start that reports something
    rcases List.prefix_or_prefix_of_prefix hprefix (List.prefix_append l s) with hshort | hlong
    · exact hnone ⟨w, hw, hshort⟩
    · exact hw.not_reports hlong h

/-- Nor does the line come to the guard. -/
theorem infoGuard_of_append {l s : List Char} (h : Reports (withoutHarness l))
    (hguard : ∃ w, InfoGuard w ∧ w <+: l ++ s) : ∃ w, InfoGuard w ∧ w <+: l := by
  obtain ⟨_, hw, r, hr⟩ := hguard
  obtain ⟨u, v, hu, hv, rfl⟩ := infoGuard_iff_levelPrefix.1 hw
  have hprefix : HarnessPrefix u := hu.harnessPrefix (by simp)
  rw [List.append_assoc] at hr
  have hrest : withoutHarness l ++ s = v ++ r := by
    rw [← withoutHarness_append h, ← hr]
    exact hprefix.withoutHarness_append (hv.head?_append r)
  have hshort : v <+: withoutHarness l ++ s := by
    rw [hrest]
    exact List.prefix_append v r
  obtain ⟨r', hr'⟩ := hv.silentUntilDone.prefix_of_reports h hshort
  have hl : l ++ s = u ++ withoutHarness l ++ s := by
    rw [List.append_assoc, hrest, hr]
  refine ⟨u ++ v, infoGuard_iff_levelPrefix.2 ⟨u, v, hu, hv, rfl⟩, r', ?_⟩
  rw [List.append_cancel_right hl, ← hr', List.append_assoc]

/-! ### Exclusions -/

/-- An exclusion that a text can come to by what is put behind it. -/
inductive LateExclusion (t : List Char) : Prop
  | missingModule {r n : List Char} : Optional "\r" r → Optional "\n" n →
      t = "ImportError: No module named pygtk".toList ++ r ++ n → LateExclusion t
  | warning : "TEST-UNEXPECTED-WARNING".toList <:+: t → LateExclusion t
  | passedOn {w : List Char} : ProcessFailure w → w <:+: t → LateExclusion t

theorem Excluded.late {t s : List Char} (h : Excluded (t ++ s)) (ht : Reports t)
    (hbefore : ¬ Excluded t) : LateExclusion (t ++ s) := by
  cases h with
  | nonFatal h =>
    exact absurd (.nonFatal (silentUntilDone_nonFatal.prefix_of_reports ht h)) hbefore
  | missingModule hr hn h => exact .missingModule hr hn h
  | warning h => exact .warning h
  | passedOn hw h => exact .passedOn hw h

/-- An error that is none any more in a longer line was excluded by what is new. -/
theorem lateExclusion_of_accepts {l s : List Char} (hl : accepts l = true)
    (hs : accepts (l ++ s) = false) : LateExclusion (withoutHarness (l ++ s)) := by
  obtain ⟨hguard, hexcluded, hreports⟩ := (accepts_iff_reports l).1 hl
  rw [← Bool.not_eq_true, accepts_iff_reports, withoutHarness_append hreports] at hs
  rw [withoutHarness_append hreports]
  by_cases hlate : Excluded (withoutHarness l ++ s)
  · exact hlate.late hreports hexcluded
  · exact absurd ⟨fun h => hguard (infoGuard_of_append hreports h), hlate, hreports.append s⟩ hs

end ErrorGrammar

open ErrorGrammar

/-- **An error stays an error in a longer line, up to the exclusions.** If a line is an error and a
longer one is none, the text of the longer line behind the prefix of the harness is the complaint
about a missing module, or it holds an unexpected warning or a failure that a process only passes
on. So a line that is cut and then classified as it stands is an error that the full line is not in
these three cases only. -/
theorem isErrorLine_append :
    (∀ l s : String, isErrorLine l = true → isErrorLine (l ++ s) = false →
      ∃ t, Trimmed (l ++ s).toList t ∧ LateExclusion t) ∧
    ∀ (max : Nat) (line : String), isErrorLine (cutLine max line) = true →
      isErrorLine line = false → ∃ t, Trimmed line.toList t ∧ LateExclusion t := by
  refine ⟨fun l s hl hs => ?_, fun max line hcut hline => ?_⟩
  · rw [isErrorLine, String.toList_append] at hs
    rw [String.toList_append]
    exact ⟨_, trimmed_withoutHarness _, lateExclusion_of_accepts hl hs⟩
  · obtain ⟨s, hs⟩ := cutLine_prefix max line
    rw [isErrorLine, ← hs] at hline
    rw [← hs]
    exact ⟨_, trimmed_withoutHarness _, lateExclusion_of_accepts hcut hline⟩

/-- A failure behind the prefix of the harness that becomes a warning, and one that is cut in front
of what excludes it. -/
theorem isErrorLine_append_warning :
    let failure := "23:52:39 INFO - TEST-UNEXPECTED-FAIL | a "
    let warning := "TEST-UNEXPECTED-WARNING"
    let passedOn := "TEST-TIMEOUT I/Gecko TEST-UNEXPECTED-FAIL"
    (isErrorLine failure = true ∧ isErrorLine (failure ++ warning) = false ∧
      ∃ t, Trimmed (failure ++ warning).toList t ∧ LateExclusion t) ∧
    isErrorLine (cutLine 20 passedOn) = true ∧ isErrorLine passedOn = false ∧
      ∃ t, Trimmed passedOn.toList t ∧ LateExclusion t := by
  intro failure warning passedOn
  have hfailure : isErrorLine failure = true := by decide +kernel
  have hwarning : isErrorLine (failure ++ warning) = false := by decide +kernel
  have hcut : isErrorLine (cutLine 20 passedOn) = true := by decide +kernel
  have hpassedOn : isErrorLine passedOn = false := by decide +kernel
  exact ⟨⟨hfailure, hwarning, isErrorLine_append.1 failure warning hfailure hwarning⟩,
    hcut, hpassedOn, isErrorLine_append.2 20 passedOn hcut hpassedOn⟩

end JobLog
