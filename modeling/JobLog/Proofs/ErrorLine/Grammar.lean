import JobLog.Classifier
import JobLog.Proofs.Text.Pattern

/-!
# The grammar of error lines

What an error line is made of, without any search: each rule puts a text together from its parts.

* `InfoGuard`, `HarnessPrefix` and `ProcessFailure` are the texts that keep a line from being an
  error or stand in front of it, `ErrorStart` the starts of error lines and `ErrorText` the texts
  that make an error wherever they stand.
* `Trimmed` is the line behind the prefix of the harness.
* `infoGuard_iff`, `harnessPrefix_iff`, `excluded_iff`, `errorStart_iff` and
  `errorText_iff`: the patterns of the classifier describe these texts and no others.
-/

namespace JobLog.ErrorGrammar

open Text (Pattern isDigit isWord)
open Text.Pattern (Matches matches_text matches_anyOf_iff text anyOf)

/-! ### Parts -/

/-- One of the texts. -/
def OneOf (ss : List String) (w : List Char) : Prop := ∃ s ∈ ss, w = s.toList

/-- The text or nothing. -/
def Optional (s : String) (w : List Char) : Prop := w = s.toList ∨ w = []

/-- One or more digits. -/
def Digits (w : List Char) : Prop := w ≠ [] ∧ ∀ c ∈ w, isDigit c = true

/-- One or more spaces. -/
def Spaces (w : List Char) : Prop := w ≠ [] ∧ ∀ c ∈ w, c = ' '

/-- Three rows of digits with colons between. -/
def Clock (w : List Char) : Prop :=
  ∃ h m s, Digits h ∧ Digits m ∧ Digits s ∧ w = h ++ ":".toList ++ m ++ ":".toList ++ s

/-- A number in brackets, or nothing. -/
def JobNumber (w : List Char) : Prop :=
  (∃ n, Digits n ∧ w = "[".toList ++ n ++ "]".toList) ∨ w = []

/-- A letter of ASCII or a dot. -/
def ClassNameChar (c : Char) : Prop := ('A' ≤ c ∧ c ≤ 'Z') ∨ ('a' ≤ c ∧ c ≤ 'z') ∨ c = '.'

/-- A word character, a dot, an underscore or a hyphen. -/
def WorkerNameChar (c : Char) : Prop := isWord c = true ∨ c = '.' ∨ c = '_' ∨ c = '-'

/-! ### Lines that are no errors -/

/-- The start of an informational line about a test. -/
inductive InfoGuard : List Char → Prop
  | mk {t u v j k : List Char} : Clock t → Spaces u → Spaces v → OneOf ["TEST-", "INFO TEST-"] j →
      OneOf ["INFO", "PASS", "START", "END"] k →
      InfoGuard (t ++ u ++ "INFO -".toList ++ v ++ j ++ k ++ " ".toList)

/-- The time and the level that the harness writes in front of a line. -/
inductive HarnessPrefix : List Char → Prop
  | mk {t u l v : List Char} : Clock t → Spaces u → OneOf ["DEBUG", "INFO", "WARNING"] l →
      Spaces v → HarnessPrefix (t ++ u ++ l ++ " -".toList ++ v)

/-- The line behind the prefix of the harness with all its spaces, or the line itself where it has
no such prefix. -/
def Trimmed (line t : List Char) : Prop :=
  (∃ w, HarnessPrefix w ∧ line = w ++ t ∧ t.head? ≠ some ' ') ∨
    ((¬ ∃ w, HarnessPrefix w ∧ w <+: line) ∧ t = line)

/-- A failure that a process of the harness only passes on. -/
inductive ProcessFailure : List Char → Prop
  | mk {c : Char} {p w : List Char} : c = ' ' ∨ c = '/' → OneOf ["Gecko", "Robocop", "TestRunner"] p →
      (∀ d ∈ w, d ≠ '\n') →
      ProcessFailure ("I".toList ++ [c] ++ p ++ w ++ "TEST-UNEXPECTED-".toList)

/-- A line, already behind the prefix of the harness, that is no error whatever else it holds. -/
inductive Excluded (t : List Char) : Prop
  | nonFatal : "non-fatal error".toList <+: t → Excluded t
  | missingModule {r n : List Char} : Optional "\r" r → Optional "\n" n →
      t = "ImportError: No module named pygtk".toList ++ r ++ n → Excluded t
  | warning : "TEST-UNEXPECTED-WARNING".toList <:+: t → Excluded t
  | passedOn {w : List Char} : ProcessFailure w → w <:+: t → Excluded t

/-! ### Errors -/

/-- The starts of error lines. -/
inductive ErrorStart : List Char → Prop
  | fixed {w : List Char} : OneOf ["error: TEST FAILED", "remoteFailed:", "rm: cannot", "abort:",
      "The web-page 'stop build' button was pressed", "[taskcluster] Error:"] w → ErrorStart w
  | make {g n : List Char} : Optional "g" g → JobNumber n →
      ErrorStart (g ++ "make".toList ++ n ++ ": ***".toList)
  | mozmake {e n : List Char} : OneOf ["exe", "EXE"] e → JobNumber n →
      ErrorStart ("mozmake.".toList ++ e ++ n ++ ": ***".toList)
  | level {t u l : List Char} : Clock t → Spaces u → OneOf ["ERROR", "CRITICAL", "FATAL"] l →
      ErrorStart (t ++ u ++ l ++ " - ".toList)
  | error {w : List Char} : w ≠ [] → (∀ c ∈ w, ClassNameChar c) → ErrorStart (w ++ "Error:".toList)
  | exception {w : List Char} : (∀ c ∈ w, ClassNameChar c) →
      ErrorStart (w ++ "Exception:".toList)
  | output {n : List Char} : Digits n →
      ErrorStart ("Output exceeded ".toList ++ n ++ " bytes".toList)
  | worker {w k : List Char} : w ≠ [] → (∀ c ∈ w, WorkerNameChar c) →
      OneOf ["error", "exception"] k →
      ErrorStart ("[".toList ++ w ++ ":".toList ++ k ++ "]".toList)

/-- The texts that make an error wherever they stand. -/
inductive ErrorText : List Char → Prop
  | fixed {w : List Char} : OneOf ["TEST-TIMEOUT", "fatal error", "FATAL ERROR", "PROCESS-CRASH",
      "###!!! ABORT:", "Automation Error:", "Remote Device Error:", "command timed out:",
      "wget: unable ", "REFTEST ERROR", "[ FAILED ] ", "bash.exe: *** ", "Hit MOZ_CRASH",
      "ThreadSanitizer: nested bug", "YOU ARE LEAKING THE WORLD"] w → ErrorText w
  | unexpected {k : List Char} : OneOf ["PASS", "FAIL"] k →
      ErrorText ("TEST-UNEXPECTED-".toList ++ k ++ " ".toList)
  | assertion {k : List Char} : OneOf ["ure", "ed"] k → ErrorText ("Assertion fail".toList ++ k)
  | compiler {n : List Char} : (∀ c ∈ n, isDigit c = true) →
      ErrorText (" error(".toList ++ n ++ "):".toList)
  | source {n : List Char} : Digits n → ErrorText (":".toList ++ n ++ ": error:".toList)
  | numbered {r n : List Char} : Optional "R" r → (∀ c ∈ n, isDigit c = true) →
      ErrorText (" error ".toList ++ r ++ "C".toList ++ n ++ ":".toList)
  | status {a b c : Char} : a = '4' ∨ a = '5' → isDigit b = true → isDigit c = true →
      ErrorText ("ERROR ".toList ++ [a] ++ [b] ++ [c] ++ ":".toList)
  | sanitizer {k : List Char} :
      OneOf ["AddressSanitizer", "ThreadSanitizer", "UndefinedBehaviorSanitizer"] k →
      ErrorText ("SUMMARY: ".toList ++ k)

/-! ### The patterns of the parts -/

theorem spaces_iff {w : List Char} : Text.Pattern.spaces.Matches w ↔ Spaces w := by
  simp [Text.Pattern.spaces, Matches, Spaces]

theorem digits_iff {w : List Char} : Text.Pattern.digits.Matches w ↔ Digits w := Iff.rfl

theorem clock_iff {w : List Char} : clock.Matches w ↔ Clock w := by
  constructor
  · rintro ⟨_, _, rfl, ⟨_, _, rfl, ⟨_, _, rfl, ⟨_, _, rfl, hh, rfl⟩, hm⟩, rfl⟩, hs⟩
    exact ⟨_, _, _, hh, hm, hs, rfl⟩
  · rintro ⟨h, m, s, hh, hm, hs, rfl⟩
    exact ((((digits_iff.2 hh).append (matches_text ":")).append (digits_iff.2 hm)).append
      (matches_text ":")).append (digits_iff.2 hs)

theorem jobNumber_iff {w : List Char} : (Pattern.opt jobNumber).Matches w ↔ JobNumber w := by
  constructor
  · rintro (⟨_, _, rfl, ⟨_, _, rfl, rfl, hn⟩, rfl⟩ | h)
    · exact .inl ⟨_, hn, rfl⟩
    · exact .inr h
  · rintro (⟨n, hn, rfl⟩ | h)
    · exact .inl (((matches_text "[").append (digits_iff.2 hn)).append (matches_text "]"))
    · exact .inr h

theorem isUpper_iff {c : Char} : c.isUpper = true ↔ 'A' ≤ c ∧ c ≤ 'Z' := decide_eq_true_iff

theorem isLower_iff {c : Char} : c.isLower = true ↔ 'a' ≤ c ∧ c ≤ 'z' := by
  show (decide ('a' ≤ c) && decide (c ≤ 'z')) = true ↔ _
  rw [Bool.and_eq_true, decide_eq_true_iff, decide_eq_true_iff]

theorem inClassName_iff {c : Char} : inClassName c = true ↔ ClassNameChar c := by
  show (c.isUpper || c.isLower || c == '.') = true ↔ _
  simp only [Bool.or_eq_true, isUpper_iff, isLower_iff, beq_iff_eq, ClassNameChar, or_assoc]

theorem inWorkerName_iff {c : Char} : inWorkerName c = true ↔ WorkerNameChar c := by
  simp [inWorkerName, WorkerNameChar, or_assoc]

/-! ### The patterns of the rules -/

theorem infoGuard_iff {w : List Char} : infoGuard.Matches w ↔ InfoGuard w := by
  constructor
  · rintro ⟨_, _, rfl, ⟨_, _, rfl, ⟨_, _, rfl, ⟨_, _, rfl, ⟨_, _, rfl, ⟨_, _, rfl, ht, hu⟩, rfl⟩,
      hv⟩, hj⟩, hk⟩, rfl⟩
    exact .mk (clock_iff.1 ht) (spaces_iff.1 hu) (spaces_iff.1 hv) (matches_anyOf_iff.1 hj)
      (matches_anyOf_iff.1 hk)
  · rintro ⟨ht, hu, hv, hj, hk⟩
    exact ((((((clock_iff.2 ht).append (spaces_iff.2 hu)).append (matches_text "INFO -")).append
      (spaces_iff.2 hv)).append (matches_anyOf_iff.2 hj)).append (matches_anyOf_iff.2 hk)).append
      (matches_text " ")

theorem harnessPrefix_iff {w : List Char} : harnessPrefix.Matches w ↔ HarnessPrefix w := by
  constructor
  · rintro ⟨_, _, rfl, ⟨_, _, rfl, ⟨_, _, rfl, ⟨_, _, rfl, ht, hu⟩, hl⟩, rfl⟩, hv⟩
    exact .mk (clock_iff.1 ht) (spaces_iff.1 hu) (matches_anyOf_iff.1 hl) (spaces_iff.1 hv)
  · rintro ⟨ht, hu, hl, hv⟩
    exact ((((clock_iff.2 ht).append (spaces_iff.2 hu)).append (matches_anyOf_iff.2 hl)).append
      (matches_text " -")).append (spaces_iff.2 hv)

theorem processFailure_iff {w : List Char} :
    (text "I" ++ .one (fun c => c == ' ' || c == '/') ++ anyOf "Gecko" ["Robocop", "TestRunner"]
      ++ .star Text.Pattern.inLine ++ text "TEST-UNEXPECTED-").Matches w ↔ ProcessFailure w := by
  constructor
  · rintro ⟨_, _, rfl, ⟨_, v, rfl, ⟨_, _, rfl, ⟨_, _, rfl, rfl, c, hc, rfl⟩, hp⟩, hv⟩, rfl⟩
    refine .mk (by simpa using hc) (matches_anyOf_iff.1 hp) fun d hd => ?_
    simpa [Text.Pattern.inLine] using hv d hd
  · rintro @⟨c, p, w, hc, hp, hw⟩
    have hone : (Pattern.one fun c => c == ' ' || c == '/').Matches [c] :=
      ⟨c, by simpa using hc, rfl⟩
    have hstar : (Pattern.star Text.Pattern.inLine).Matches w := fun d hd => by
      simpa [Text.Pattern.inLine] using hw d hd
    exact ((((matches_text "I").append hone).append (matches_anyOf_iff.2 hp)).append
      hstar).append (matches_text "TEST-UNEXPECTED-")

theorem excludedLine_iff {t : List Char} :
    excludedLine.Matches t ↔ ∃ r n, Optional "\r" r ∧ Optional "\n" n ∧
      t = "ImportError: No module named pygtk".toList ++ r ++ n := by
  constructor
  · rintro ⟨_, n, rfl, ⟨_, r, rfl, rfl, hr⟩, hn⟩
    exact ⟨r, n, hr, hn, rfl⟩
  · rintro ⟨r, n, hr, hn, rfl⟩
    exact ((matches_text "ImportError: No module named pygtk").append
      (show (Pattern.opt (text "\r")).Matches r from hr)).append
      (show (Pattern.opt (text "\n")).Matches n from hn)

theorem excluded_iff {t : List Char} : excluded t = true ↔ Excluded t := by
  have hanywhere : ∀ {w : List Char}, excludedAnywhere.Matches w ↔
      w = "TEST-UNEXPECTED-WARNING".toList ∨ ProcessFailure w :=
    or_congr Iff.rfl processFailure_iff
  simp only [excluded, Bool.or_eq_true, Text.Pattern.begins_iff_prefix, Text.Pattern.covers_iff,
    Text.Pattern.occurs_iff_infix, excludedLine_iff, hanywhere]
  constructor
  · rintro ((⟨_, rfl, hw⟩ | ⟨r, n, hr, hn, rfl⟩) | ⟨_, rfl | hw, ht⟩)
    · exact .nonFatal hw
    · exact .missingModule hr hn rfl
    · exact .warning ht
    · exact .passedOn hw ht
  · rintro (h | ⟨hr, hn, rfl⟩ | h | ⟨hw, h⟩)
    · exact .inl (.inl ⟨_, rfl, h⟩)
    · exact .inl (.inr ⟨_, _, hr, hn, rfl⟩)
    · exact .inr ⟨_, .inl rfl, h⟩
    · exact .inr ⟨_, .inr hw, h⟩

/-- The bank of starts describes the starts of error lines. -/
theorem errorStart_iff {w : List Char} : (∃ P ∈ atStart, P.Matches w) ↔ ErrorStart w := by
  constructor
  · rintro ⟨P, hP, hw⟩
    simp only [atStart, List.mem_cons, List.not_mem_nil, or_false] at hP
    -- the patterns in the order of the bank; a fixed text is one of the list that `fixed` has
    rcases hP with rfl | rfl | rfl | rfl | rfl | rfl | rfl | rfl | rfl | rfl | rfl | rfl | rfl
    · exact .fixed ⟨_, by simp, hw⟩
    · obtain ⟨_, _, rfl, ⟨_, _, rfl, ⟨_, _, rfl, hg, rfl⟩, hn⟩, rfl⟩ := hw
      exact .make hg (jobNumber_iff.1 hn)
    · obtain ⟨_, _, rfl, ⟨_, _, rfl, ⟨_, _, rfl, rfl, he⟩, hn⟩, rfl⟩ := hw
      exact .mozmake (matches_anyOf_iff.1 he) (jobNumber_iff.1 hn)
    · obtain ⟨_, _, rfl, ⟨_, _, rfl, ⟨_, _, rfl, ht, hu⟩, hl⟩, rfl⟩ := hw
      exact .level (clock_iff.1 ht) (spaces_iff.1 hu) (matches_anyOf_iff.1 hl)
    · obtain ⟨_, _, rfl, ⟨hne, hc⟩, rfl⟩ := hw
      exact .error hne fun c h => inClassName_iff.1 (hc c h)
    · obtain ⟨_, _, rfl, hc, rfl⟩ := hw
      exact .exception fun c h => inClassName_iff.1 (hc c h)
    · exact .fixed ⟨_, by simp, hw⟩
    · exact .fixed ⟨_, by simp, hw⟩
    · exact .fixed ⟨_, by simp, hw⟩
    · obtain ⟨_, _, rfl, ⟨_, _, rfl, rfl, hn⟩, rfl⟩ := hw
      exact .output hn
    · exact .fixed ⟨_, by simp, hw⟩
    · obtain ⟨_, _, rfl, ⟨_, _, rfl, ⟨_, _, rfl, ⟨_, _, rfl, rfl, hne, hc⟩, rfl⟩, hk⟩, rfl⟩ := hw
      exact .worker hne (fun c h => inWorkerName_iff.1 (hc c h)) (matches_anyOf_iff.1 hk)
    · exact .fixed ⟨_, by simp, hw⟩
  · intro h
    cases h with
    | fixed h =>
      obtain ⟨s, hs, rfl⟩ := h
      refine ⟨text s, ?_, matches_text s⟩
      simp only [List.mem_cons, List.not_mem_nil, or_false] at hs
      rcases hs with rfl | rfl | rfl | rfl | rfl | rfl <;> simp [atStart]
    | @make g n hg hn =>
      have hopt : (Pattern.opt (text "g")).Matches g := hg
      exact ⟨_, by simp [atStart], ((hopt.append (matches_text "make")).append
        (jobNumber_iff.2 hn)).append (matches_text ": ***")⟩
    | mozmake he hn =>
      exact ⟨_, by simp [atStart], (((matches_text "mozmake.").append
        (matches_anyOf_iff.2 he)).append (jobNumber_iff.2 hn)).append (matches_text ": ***")⟩
    | level ht hu hl =>
      exact ⟨_, by simp [atStart], (((clock_iff.2 ht).append (spaces_iff.2 hu)).append
        (matches_anyOf_iff.2 hl)).append (matches_text " - ")⟩
    | @error w hne hc =>
      have hplus : (Pattern.plus inClassName).Matches w :=
        ⟨hne, fun c h => inClassName_iff.2 (hc c h)⟩
      exact ⟨_, by simp [atStart], hplus.append (matches_text "Error:")⟩
    | @exception w hc =>
      have hstar : (Pattern.star inClassName).Matches w := fun c h => inClassName_iff.2 (hc c h)
      exact ⟨_, by simp [atStart], hstar.append (matches_text "Exception:")⟩
    | output hn =>
      exact ⟨_, by simp [atStart], ((matches_text "Output exceeded ").append
        (digits_iff.2 hn)).append (matches_text " bytes")⟩
    | @worker w k hne hc hk =>
      have hplus : (Pattern.plus inWorkerName).Matches w :=
        ⟨hne, fun c h => inWorkerName_iff.2 (hc c h)⟩
      exact ⟨_, by simp [atStart], ((((matches_text "[").append hplus).append
        (matches_text ":")).append (matches_anyOf_iff.2 hk)).append (matches_text "]")⟩

/-- The bank of texts describes the texts that make an error. -/
theorem errorText_iff {w : List Char} : (∃ P ∈ anywhere, P.Matches w) ↔ ErrorText w := by
  constructor
  · rintro ⟨P, hP, hw⟩
    simp only [anywhere, List.mem_cons, List.not_mem_nil, or_false] at hP
    -- as above, in the order of this bank
    rcases hP with rfl | rfl | rfl | rfl | rfl | rfl | rfl | rfl | rfl | rfl | rfl | rfl | rfl |
      rfl | rfl | rfl | rfl | rfl | rfl | rfl | rfl | rfl
    · obtain ⟨_, _, rfl, ⟨_, _, rfl, rfl, hk⟩, rfl⟩ := hw
      exact .unexpected (matches_anyOf_iff.1 hk)
    · exact .fixed ⟨_, by simp, hw⟩
    · exact .fixed ⟨_, by simp, hw⟩
    · exact .fixed ⟨_, by simp, hw⟩
    · exact .fixed ⟨_, by simp, hw⟩
    · obtain ⟨_, _, rfl, rfl, hk⟩ := hw
      exact .assertion (matches_anyOf_iff.1 hk)
    · exact .fixed ⟨_, by simp, hw⟩
    · obtain ⟨_, _, rfl, ⟨_, _, rfl, rfl, hn⟩, rfl⟩ := hw
      exact .compiler hn
    · obtain ⟨_, _, rfl, ⟨_, _, rfl, rfl, hn⟩, rfl⟩ := hw
      exact .source hn
    · obtain ⟨_, _, rfl, ⟨_, _, rfl, ⟨_, _, rfl, ⟨_, _, rfl, rfl, hr⟩, rfl⟩, hn⟩, rfl⟩ := hw
      exact .numbered hr hn
    · exact .fixed ⟨_, by simp, hw⟩
    · exact .fixed ⟨_, by simp, hw⟩
    · exact .fixed ⟨_, by simp, hw⟩
    · obtain ⟨_, _, rfl, ⟨_, _, rfl, ⟨_, _, rfl, ⟨_, _, rfl, rfl, a, ha, rfl⟩, b, hb, rfl⟩,
        c, hc, rfl⟩, rfl⟩ := hw
      exact .status (by simpa using ha) hb hc
    · exact .fixed ⟨_, by simp, hw⟩
    · exact .fixed ⟨_, by simp, hw⟩
    · exact .fixed ⟨_, by simp, hw⟩
    · exact .fixed ⟨_, by simp, hw⟩
    · exact .fixed ⟨_, by simp, hw⟩
    · obtain ⟨_, _, rfl, rfl, hk⟩ := hw
      exact .sanitizer (matches_anyOf_iff.1 hk)
    · exact .fixed ⟨_, by simp, hw⟩
    · exact .fixed ⟨_, by simp, hw⟩
  · intro h
    cases h with
    | fixed h =>
      obtain ⟨s, hs, rfl⟩ := h
      refine ⟨text s, ?_, matches_text s⟩
      simp only [List.mem_cons, List.not_mem_nil, or_false] at hs
      rcases hs with rfl | rfl | rfl | rfl | rfl | rfl | rfl | rfl | rfl | rfl | rfl | rfl | rfl |
        rfl | rfl <;> simp [anywhere]
    | unexpected hk =>
      exact ⟨_, by simp [anywhere], ((matches_text "TEST-UNEXPECTED-").append
        (matches_anyOf_iff.2 hk)).append (matches_text " ")⟩
    | assertion hk =>
      exact ⟨_, by simp [anywhere], (matches_text "Assertion fail").append
        (matches_anyOf_iff.2 hk)⟩
    | @compiler n hn =>
      have hstar : (Pattern.star isDigit).Matches n := hn
      exact ⟨_, by simp [anywhere], ((matches_text " error(").append hstar).append
        (matches_text "):")⟩
    | source hn =>
      exact ⟨_, by simp [anywhere], ((matches_text ":").append (digits_iff.2 hn)).append
        (matches_text ": error:")⟩
    | @numbered r n hr hn =>
      have hopt : (Pattern.opt (text "R")).Matches r := hr
      have hstar : (Pattern.star isDigit).Matches n := hn
      exact ⟨_, by simp [anywhere], ((((matches_text " error ").append hopt).append
        (matches_text "C")).append hstar).append (matches_text ":")⟩
    | @status a b c ha hb hc =>
      have hclass : (Pattern.one fun c => c == '4' || c == '5').Matches [a] :=
        ⟨a, by simpa using ha, rfl⟩
      have htens : (Pattern.one isDigit).Matches [b] := ⟨b, hb, rfl⟩
      have hones : (Pattern.one isDigit).Matches [c] := ⟨c, hc, rfl⟩
      exact ⟨_, by simp [anywhere], ((((matches_text "ERROR ").append hclass).append
        htens).append hones).append (matches_text ":")⟩
    | sanitizer hk =>
      exact ⟨_, by simp [anywhere], (matches_text "SUMMARY: ").append (matches_anyOf_iff.2 hk)⟩

end JobLog.ErrorGrammar
