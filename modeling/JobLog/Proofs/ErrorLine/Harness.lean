import JobLog.Proofs.ErrorLine.Decision
import JobLog.Proofs.Text.Digit

/-!
# Lines behind the prefix of the harness

No error starts like the prefix of the harness. So what makes a line an error is found behind the
prefix, and the prefix counts only as a part of the guard.

* `LevelPrefix` is the prefix with its level, `TestInfo` what the guard asks for behind it.
* `Reports` says that something makes a text an error, and `accepts_iff_reports` that a line is an
  error if the text behind the prefix reports one and nothing prevents it.
* `isErrorLine_levelPrefix` compares a line with and without the prefix.
-/

namespace JobLog

namespace ErrorGrammar

open Text (isDigit)

/-! ### Levels -/

/-- The prefix of the harness with a level. -/
inductive LevelPrefix (level : String) : List Char → Prop
  | mk {t u v : List Char} : Clock t → Spaces u → Spaces v →
      LevelPrefix level (t ++ u ++ level.toList ++ " -".toList ++ v)

/-- The start of an informational line about a test, behind the prefix of the harness. -/
inductive TestInfo : List Char → Prop
  | mk {j k : List Char} : OneOf ["TEST-", "INFO TEST-"] j →
      OneOf ["INFO", "PASS", "START", "END"] k → TestInfo (j ++ k ++ " ".toList)

theorem LevelPrefix.harnessPrefix {level : String} (hlevel : level ∈ ["DEBUG", "INFO", "WARNING"])
    {w : List Char} (hw : LevelPrefix level w) : HarnessPrefix w := by
  obtain ⟨ht, hu, hv⟩ := hw
  exact .mk ht hu ⟨level, hlevel, rfl⟩ hv

/-- The guard is the prefix of the level INFO and the start of a line about a test. -/
theorem infoGuard_iff_levelPrefix {w : List Char} :
    InfoGuard w ↔ ∃ u v, LevelPrefix "INFO" u ∧ TestInfo v ∧ w = u ++ v := by
  constructor
  · rintro ⟨ht, hu, hv, hj, hk⟩
    exact ⟨_, _, .mk ht hu hv, .mk hj hk, by simp⟩
  · rintro ⟨_, _, ⟨ht, hu, hv⟩, ⟨hj, hk⟩, rfl⟩
    simpa using InfoGuard.mk ht hu hv hj hk

theorem InfoGuard.exists_harnessPrefix {w : List Char} (hw : InfoGuard w) :
    ∃ u, HarnessPrefix u ∧ u <+: w := by
  obtain ⟨u, v, hu, -, rfl⟩ := infoGuard_iff_levelPrefix.1 hw
  exact ⟨u, hu.harnessPrefix (by simp), List.prefix_append u v⟩

theorem TestInfo.head?_append {v : List Char} (hv : TestInfo v) (r : List Char) :
    (v ++ r).head? ≠ some ' ' := by
  obtain ⟨hj, -⟩ := hv
  rw [List.append_assoc, List.append_assoc]
  exact hj.head?_append (by decide) _

/-- A prefix has one level. -/
theorem LevelPrefix.level_eq {level level' : String}
    (hlevel : level ∈ ["DEBUG", "INFO", "WARNING"])
    (hlevel' : level' ∈ ["DEBUG", "INFO", "WARNING"]) {w : List Char}
    (hw : LevelPrefix level w) (hw' : LevelPrefix level' w) : level = level' := by
  have hl : OneOf ["DEBUG", "INFO", "WARNING"] level.toList := ⟨level, hlevel, rfl⟩
  have hl' : OneOf ["DEBUG", "INFO", "WARNING"] level'.toList := ⟨level', hlevel', rfl⟩
  obtain @⟨t, u, v, ht, hu, hv⟩ := hw
  generalize hw : t ++ u ++ level.toList ++ " -".toList ++ v = w at hw'
  obtain @⟨t', u', v', ht', hu', hv'⟩ := hw'
  simp only [List.append_assoc] at hw
  have hrest := ht.eq_of_spaces ht' hu hu' (head?_level hl _) (head?_level hl' _) hw
  exact String.toList_inj.1 (level_eq_of_append hl hl' hrest).1

/-! ### Errors behind the prefix -/

/-- Something makes the text an error: it stands at its start or anywhere in it. -/
inductive Reports (t : List Char) : Prop
  | starts {w : List Char} : ErrorStart w → w <+: t → Reports t
  | holds {w : List Char} : ErrorText w → w <:+: t → Reports t

theorem ClassNameChar.not_isDigit {c : Char} (hc : ClassNameChar c) : isDigit c = false := by
  rw [← Bool.not_eq_true]
  intro hdigit
  have hcode := Text.toNat_of_isDigit hdigit
  rcases hc with ⟨hlower, hupper⟩ | ⟨hlower, hupper⟩ | rfl
  · have hfirst : 65 ≤ c.toNat := Char.le_def.1 hlower
    have hlast : c.toNat ≤ 90 := Char.le_def.1 hupper
    omega
  · have hfirst : 97 ≤ c.toNat := Char.le_def.1 hlower
    have hlast : c.toNat ≤ 122 := Char.le_def.1 hupper
    omega
  · exact absurd hdigit (by decide)

/-- The start of an error is no digit, except in front of a level of its own. -/
theorem ErrorStart.cases_digit {w : List Char} (hw : ErrorStart w) :
    (∃ c s, w = c :: s ∧ isDigit c = false) ∨
      ∃ t u l, Clock t ∧ Spaces u ∧ OneOf ["ERROR", "CRITICAL", "FATAL"] l ∧
        w = t ++ u ++ l ++ " - ".toList := by
  cases hw with
  | fixed h =>
    obtain ⟨s, hs, rfl⟩ := h
    simp only [List.mem_cons, List.not_mem_nil, or_false] at hs
    rcases hs with rfl | rfl | rfl | rfl | rfl | rfl <;> exact .inl ⟨_, _, rfl, by decide⟩
  | make hg hn => rcases hg with rfl | rfl <;> exact .inl ⟨_, _, rfl, by decide⟩
  | mozmake he hn => exact .inl ⟨_, _, rfl, by decide⟩
  | level ht hu hl => exact .inr ⟨_, _, _, ht, hu, hl, rfl⟩
  | error hne hc =>
    obtain ⟨c, s, rfl⟩ := List.exists_cons_of_ne_nil hne
    exact .inl ⟨_, _, rfl, (hc c List.mem_cons_self).not_isDigit⟩
  | @exception w hc =>
    cases w with
    | nil => exact .inl ⟨_, _, rfl, by decide⟩
    | cons c s => exact .inl ⟨_, _, rfl, (hc c List.mem_cons_self).not_isDigit⟩
  | output hn => exact .inl ⟨_, _, rfl, by decide⟩
  | worker hne hc hk => exact .inl ⟨_, _, rfl, by decide⟩

theorem Clock.exists_cons {t : List Char} (ht : Clock t) :
    ∃ c s, t = c :: s ∧ isDigit c = true := by
  obtain ⟨h, m, s, ⟨hne, hh⟩, -, -, rfl⟩ := ht
  obtain ⟨c, h, rfl⟩ := List.exists_cons_of_ne_nil hne
  exact ⟨c, _, rfl, hh c List.mem_cons_self⟩

/-- A text that does not start with a digit has no prefix of the harness. -/
theorem not_harnessPrefix_of_head {s : List Char} (hs : s.head?.any isDigit = false) :
    ¬ ∃ w, HarnessPrefix w ∧ w <+: s := by
  rintro ⟨_, @⟨t, u, l, v, ht, -, -, -⟩, r, rfl⟩
  obtain ⟨c, t, rfl, hc⟩ := ht.exists_cons
  exact absurd (hc.symm.trans hs) (by decide)

/-- No error starts like the prefix of the harness. -/
theorem HarnessPrefix.not_errorStart {w x p : List Char} (hw : HarnessPrefix w)
    (hx : ErrorStart x) : ¬ x <+: w ++ p := by
  rintro ⟨r, h⟩
  obtain @⟨t, u, l, v, ht, hu, hl, hv⟩ := hw
  rcases hx.cases_digit with ⟨c, s, rfl, hc⟩ | ⟨t', u', l', ht', hu', hl', rfl⟩
  · obtain ⟨d, t, rfl, hd⟩ := ht.exists_cons
    obtain rfl : c = d := by simpa using (List.cons.inj h).1
    exact absurd (hc.symm.trans hd) (by decide)
  · simp only [List.append_assoc] at h
    have hrest :=
      ht'.eq_of_spaces ht hu' hu (hl'.head?_append (by decide) _) (head?_level hl _) h
    -- no level of an error starts like one of the harness
    obtain ⟨a, ha, rfl⟩ := hl
    obtain ⟨b, hb, rfl⟩ := hl'
    simp only [List.mem_cons, List.not_mem_nil, or_false] at ha hb
    rcases ha with rfl | rfl | rfl <;> rcases hb with rfl | rfl | rfl <;> simp at hrest

theorem Reports.of_errorStart {line w : List Char} (hw : ErrorStart w) (h : w <+: line) :
    Reports (withoutHarness line) := by
  rcases trimmed_withoutHarness line with ⟨u, hu, hline, -⟩ | ⟨-, hline⟩
  · rw [hline] at h
    exact absurd h (hu.not_errorStart hw)
  · rw [hline]
    exact .starts hw h

/-- **What makes a line an error stands behind the prefix of the harness.** -/
theorem accepts_iff_reports (line : List Char) :
    accepts line = true ↔
      (¬ ∃ w, InfoGuard w ∧ w <+: line) ∧ ¬ Excluded (withoutHarness line) ∧
        Reports (withoutHarness line) := by
  rw [accepts_iff]
  refine and_congr_right' (and_congr_right' ⟨?_, ?_⟩)
  · rintro (⟨w, hw, hline | hrest⟩ | ⟨w, hw, hrest⟩)
    · exact .of_errorStart hw hline
    · exact .starts hw hrest
    · exact .holds hw hrest
  · rintro (⟨hw, hrest⟩ | ⟨hw, hrest⟩)
    · exact .inl ⟨_, hw, .inr hrest⟩
    · exact .inr ⟨_, hw, hrest⟩

/-! ### The line with and without the prefix -/

/-- The prefix is removed in front of a text that does not start with a space. -/
theorem HarnessPrefix.withoutHarness_append {w p : List Char} (hw : HarnessPrefix w)
    (hp : p.head? ≠ some ' ') : withoutHarness (w ++ p) = p :=
  (trimmed_withoutHarness (w ++ p)).unique (.inl ⟨w, hw, rfl, hp⟩)

theorem withoutHarness_of_not_prefix {p : List Char} (hp : ¬ ∃ w, HarnessPrefix w ∧ w <+: p) :
    withoutHarness p = p :=
  (trimmed_withoutHarness p).unique (.inr ⟨hp, rfl⟩)

/-- Behind the prefix, the guard asks for the level INFO and for the start of a line about a
test. -/
theorem infoGuard_append_iff {level : String} (hlevel : level ∈ ["DEBUG", "INFO", "WARNING"])
    {w p : List Char} (hw : LevelPrefix level w) (hp : p.head? ≠ some ' ') :
    (∃ g, InfoGuard g ∧ g <+: w ++ p) ↔ level = "INFO" ∧ ∃ v, TestInfo v ∧ v <+: p := by
  constructor
  · rintro ⟨g, hg, r, h⟩
    obtain ⟨u, v, hu, hv, rfl⟩ := infoGuard_iff_levelPrefix.1 hg
    rw [List.append_assoc] at h
    have hrest : v ++ r = p := (hu.harnessPrefix (by simp)).eq_of_append (hw.harnessPrefix hlevel)
      (hv.head?_append r) hp h
    rw [hrest] at h
    obtain rfl := List.append_cancel_right h
    exact ⟨hw.level_eq hlevel (by simp) hu, v, hv, r, hrest⟩
  · rintro ⟨rfl, v, hv, r, rfl⟩
    exact ⟨w ++ v, infoGuard_iff_levelPrefix.2 ⟨w, v, hw, hv, rfl⟩, r, by simp⟩

end ErrorGrammar

open ErrorGrammar

/-- **The prefix of the harness is transparent.** In front of a payload that neither starts with a
space nor with such a prefix, it changes nothing, except that behind the level INFO the start of an
informational line about a test makes the line no error. -/
theorem isErrorLine_levelPrefix {level : String} (hlevel : level ∈ ["DEBUG", "INFO", "WARNING"])
    {w p : String} (hw : LevelPrefix level w.toList) (hspace : p.toList.head? ≠ some ' ')
    (hbare : ¬ ∃ u, HarnessPrefix u ∧ u <+: p.toList) :
    let guarded := level = "INFO" ∧ ∃ v, TestInfo v ∧ v <+: p.toList
    (guarded → isErrorLine (w ++ p) = false) ∧
      (¬ guarded → isErrorLine (w ++ p) = isErrorLine p) := by
  intro guarded
  have hguard : (∃ g, InfoGuard g ∧ g <+: w.toList ++ p.toList) ↔ guarded :=
    infoGuard_append_iff hlevel hw hspace
  have hnone : ¬ ∃ g, InfoGuard g ∧ g <+: p.toList := by
    rintro ⟨g, hg, hp⟩
    obtain ⟨u, hu, hug⟩ := hg.exists_harnessPrefix
    exact hbare ⟨u, hu, hug.trans hp⟩
  have hwhole : isErrorLine (w ++ p) = true ↔
      ¬ guarded ∧ ¬ Excluded p.toList ∧ Reports p.toList := by
    rw [isErrorLine, String.toList_append, accepts_iff_reports, hguard,
      (hw.harnessPrefix hlevel).withoutHarness_append hspace]
  have hpayload : isErrorLine p = true ↔ ¬ Excluded p.toList ∧ Reports p.toList := by
    rw [isErrorLine, accepts_iff_reports, withoutHarness_of_not_prefix hbare]
    exact and_iff_right hnone
  refine ⟨fun h => ?_, fun h => ?_⟩
  · rw [← Bool.not_eq_true, hwhole]
    exact fun hall => hall.1 h
  · rw [Bool.eq_iff_iff, hwhole, hpayload]
    exact and_iff_right h

/-- Behind the level INFO one line about a test stops being an error and another one stays one. -/
theorem isErrorLine_levelPrefix_tests :
    let w := "23:52:39  INFO -  "
    let passed := "INFO TEST-PASS | TEST-TIMEOUT"
    let failed := "TEST-UNEXPECTED-FAIL | a.js"
    LevelPrefix "INFO" w.toList ∧
      (∃ v, TestInfo v ∧ v <+: passed.toList) ∧
      isErrorLine (w ++ passed) = false ∧ isErrorLine passed = true ∧
      (¬ ∃ v, TestInfo v ∧ v <+: failed.toList) ∧
      isErrorLine (w ++ failed) = isErrorLine failed ∧ isErrorLine failed = true := by
  intro w passed failed
  have hclock : Clock "23:52:39".toList :=
    ⟨"23".toList, "52".toList, "39".toList, ⟨by decide, List.all_eq_true.1 rfl⟩,
      ⟨by decide, List.all_eq_true.1 rfl⟩, ⟨by decide, List.all_eq_true.1 rfl⟩, rfl⟩
  have hspaces : Spaces "  ".toList := ⟨by decide, by simp⟩
  have hw : LevelPrefix "INFO" w.toList := by
    have hparts : LevelPrefix "INFO" _ := .mk hclock hspaces hspaces
    simpa [w] using hparts
  have hpassed : ∃ v, TestInfo v ∧ v <+: passed.toList :=
    ⟨_, .mk ⟨"INFO TEST-", by simp, rfl⟩ ⟨"PASS", by simp, rfl⟩, "| TEST-TIMEOUT".toList,
      by simp [passed]⟩
  have hfailed : ¬ ∃ v, TestInfo v ∧ v <+: failed.toList := by
    rintro ⟨_, ⟨⟨j, hj, rfl⟩, ⟨k, hk, rfl⟩⟩, r, h⟩
    simp only [List.mem_cons, List.not_mem_nil, or_false] at hj hk
    rcases hj with rfl | rfl <;> rcases hk with rfl | rfl | rfl | rfl <;> simp [failed] at h
  have hinfo : "INFO" ∈ ["DEBUG", "INFO", "WARNING"] := by simp
  obtain ⟨hlost, -⟩ := isErrorLine_levelPrefix (p := passed) hinfo hw (by decide)
    (not_harnessPrefix_of_head (by decide))
  obtain ⟨-, hkept⟩ := isErrorLine_levelPrefix (p := failed) hinfo hw (by decide)
    (not_harnessPrefix_of_head (by decide))
  exact ⟨hw, hpassed, hlost ⟨rfl, hpassed⟩, by decide +kernel, hfailed,
    hkept fun h => hfailed h.2, by decide +kernel⟩

end JobLog
