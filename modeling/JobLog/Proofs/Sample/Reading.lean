import JobLog.Proofs.JobDetail
import JobLog.Proofs.Performance.Payloads
import JobLog.Proofs.Sample.Line
import JobLog.Proofs.Sample.Payload

/-!
# What the lines of sample logs report

No line of a body is taken for something else than what it was drawn for: random words have no
colons, hyphens or underscores, so that no mark stands in them.

* `BodyLine.detail?`, `BodyLine.payload?` and `BodyLine.isFailure` tell what a line is drawn for.
* `BodyLine.ofLine?_text` and `BodyLine.payloadsOf_text`: the line reports this detail and this
  payload.
* `BodyLine.isErrorLine_text`: a failure is an error.
-/

namespace JobLog.Sample

open ErrorGrammar
open Performance (Behind payloadsOf)

/-- A line as a text. -/
abbrev BodyLine.text (secs : Nat) (l : BodyLine) : String := String.ofList (l.chars secs)

/-! ### Marks -/

/-- A long mark with a colon at its end does not fit into a time. -/
theorem not_isInfix_clock {p rest : List Char} (secs : Nat) (hp : 6 ≤ p.length)
    (hrest : ':' ∉ rest) : ¬ p ++ [':'] <:+: clock secs ++ rest := by
  obtain ⟨a, b, hclock, ha, -, hb⟩ := exists_clock_eq secs
  rw [hclock, List.append_assoc]
  intro h
  have hlength := (isInfix_of_last h (by simp [hb, hrest])).length_le
  rw [List.length_append, List.length_singleton] at hlength
  omega

theorem mark_eq_append : JobDetail.mark = "TinderboxPrint".toList ++ [':'] ++ [' '] := rfl

theorem ofLine?_of_not_isInfix {cs : List Char} (hcs : Text.Printable cs)
    (h : ¬ "TinderboxPrint".toList ++ [':'] <:+: cs) :
    JobDetail.ofLine? (String.ofList cs) = none := by
  have htext : (String.ofList cs).toList = cs := String.toList_ofList
  have hfeed : '\n' ∉ (String.ofList cs).toList := htext.symm ▸ hcs.not_mem (by decide)
  refine Option.map_eq_none_iff.2 ((JobDetail.payload?_eq_none_iff hfeed).2 ?_)
  intro before behind heq
  rw [htext, mark_eq_append] at heq
  exact absurd ⟨before, ' ' :: behind, by simp [heq]⟩ h

theorem payloadsOf_of_not_isInfix {cs : List Char}
    (h : ¬ "PERFHERDER_DATA".toList ++ [':'] <:+: cs)
    (h' : ¬ "TALOSDATA".toList ++ [':'] <:+: cs) : payloadsOf (String.ofList cs) = [] := by
  have htext : (String.ofList cs).toList = cs := String.toList_ofList
  refine Performance.payloadsOf_of_nothing ?_ ?_
  · rwa [htext]
  · rwa [htext]

namespace BodyLine

/-- The detail that a line is drawn for. -/
def detail? : BodyLine → Option JobDetail
  | .printed message => some (.plain message.chars .text)
  | .failed .. | .returned _ | .measured .. | .passed _ | .noted _ => none

/-- The payload that a line is drawn for. -/
def payload? : BodyLine → Option Json
  | .measured suite value => some (payload suite value)
  | .failed .. | .returned _ | .printed _ | .passed _ | .noted _ => none

/-- The line is drawn for a failure. -/
def isFailure : BodyLine → Bool
  | .failed .. | .returned _ => true
  | .printed _ | .measured .. | .passed _ | .noted _ => false

/-- A line for neither a detail nor a payload. -/
def IsPlain : BodyLine → Prop
  | .failed .. | .returned _ | .passed _ | .noted _ => True
  | .printed _ | .measured .. => False

variable (secs : Nat) (l : BodyLine)

/-- Lines for something else have no mark. -/
theorem not_isInfix_of_isPlain {l : BodyLine} (h : l.IsPlain) {p : List Char}
    (hlength : 6 ≤ p.length) (hletter : 'T' ∈ p) : ¬ p ++ [':'] <:+: l.chars secs := by
  have hmessage : ∀ m : Message, ':' ∉ m.chars := fun m => m.not_mem_chars (by decide)
  have hdecimal : ∀ n, ':' ∉ Text.decimal n := fun n => not_mem_decimal n (by decide)
  cases l with
  | printed | measured => exact h.elim
  | failed | passed | noted =>
    simp only [chars, List.append_assoc]
    refine not_isInfix_clock secs hlength ?_
    simp only [List.mem_append, hmessage, hdecimal, or_false, false_or]
    decide
  | returned code =>
    refine not_isInfix_of_mem (List.mem_append_left _ hletter) ?_
    simp only [chars, List.mem_append, not_mem_clock secs (c := 'T') (by decide) (by decide),
      not_mem_decimal _ (c := 'T') (by decide), false_or, or_false]
    decide

/-! ### Details -/

theorem chars_printed (message : Message) :
    (BodyLine.printed message).chars secs =
      "TinderboxPrint".toList ++ [':'] ++ (' ' :: message.chars) := by
  rw [chars, mark_eq_append, List.append_assoc]
  rfl

/-- What stands behind the mark is printed. -/
theorem prints_printed (message : Message) :
    JobDetail.Prints ((BodyLine.printed message).text secs) message.chars := by
  refine ⟨[], ?_, ?_, fun u v heq _ => ?_⟩
  · simp [text, chars]
  · obtain ⟨c, r, hm, -⟩ := message.exists_cons
    simp [hm]
  -- the last colon of the line ends the first mark
  · have hparts : u ++ ("TinderboxPrint".toList ++ [':']) ++ (' ' :: v) =
        "TinderboxPrint".toList ++ [':'] ++ (' ' :: message.chars) := by
      rw [← chars_printed secs]
      rw [text, String.toList_ofList, mark_eq_append] at heq
      simp [heq]
    obtain ⟨t, hmark, -⟩ := exists_of_last hparts message.colon_not_mem
    have hlength := congrArg List.length hmark
    simp only [List.length_append] at hlength
    rw [List.length_nil]
    omega

theorem not_isLink_message (message : Message) : ¬ JobDetail.IsLink message.chars := by
  rintro ⟨label, url, h⟩
  exact message.not_mem_chars (c := ':') (by decide) (by simp [h])

theorem not_rawHtml_message (message : Message) : ¬ "raw_html:".toList <+: message.chars :=
  fun h => message.not_mem_chars (c := ':') (by decide) (h.subset (by decide))

/-- **A line prints the detail that it is drawn for.** -/
theorem ofLine?_text : JobDetail.ofLine? (l.text secs) = l.detail? := by
  have hcs := l.printable_chars secs
  cases l with
  | printed message =>
    have hfeed : '\n' ∉ ((BodyLine.printed message).text secs).toList := by
      rw [text, String.toList_ofList]
      exact hcs.not_mem (by decide)
    rw [JobDetail.ofLine?, (JobDetail.payload?_eq_some_iff hfeed).2 (prints_printed secs message),
      Option.map_some, JobDetail.ofPayload_text (not_isLink_message message)
        (not_rawHtml_message message)]
    rfl
  | measured suite value =>
    refine ofLine?_of_not_isInfix hcs (not_isInfix_of_mem (c := 'x') (by decide) ?_)
    rw [chars, payloadLine_eq]
    simp only [List.mem_append, not_mem_decimal _ (c := 'x') (by decide), or_false]
    decide
  | failed | returned | passed | noted =>
    exact ofLine?_of_not_isInfix hcs
      (not_isInfix_of_isPlain secs (by trivial) (by decide) (by decide))

/-! ### Payloads -/

theorem trim_cons_blank {cs : List Char} (hfirst : ∀ c ∈ cs.head?, Text.isBlank c = false)
    (hlast : ∀ c ∈ cs.getLast?, Text.isBlank c = false) : Text.trim (' ' :: cs) = cs := by
  have hblank : ∀ c ∈ [' '], Text.isBlank c = true := List.forall_mem_singleton.2 (by decide)
  have hstart : Text.trimStart (' ' :: cs) = cs := Text.dropWhile_run_append hblank hfirst
  have hreverse : ∀ c ∈ cs.reverse.head?, Text.isBlank c = false := by
    rwa [List.head?_reverse]
  have hend : cs.reverse.dropWhile Text.isBlank = cs.reverse :=
    Text.dropWhile_run_append (u := []) (r := cs.reverse) (by simp) hreverse
  rw [Text.trim, hstart, Text.trimEnd, hend, List.reverse_reverse]

/-- The JSON of a payload stands behind the mark. -/
theorem behind_measured (suite : Fin 10) (value : Fin 5000) :
    Behind "PERFHERDER_DATA:" ((BodyLine.measured suite value).text secs)
      (payload suite value).write := by
  have hjson := toList_write_payload suite value
  have htrim : Text.trim (' ' :: (payload suite value).write.toList) =
      (payload suite value).write.toList := by
    have hends : ∀ d, Text.isBlank d = false → ∀ c ∈ some d, Text.isBlank c = false := by simp
    refine trim_cons_blank ?_ ?_
    · rw [hjson]
      simp only [List.append_assoc, String.reduceToList, List.cons_append, List.head?_cons]
      exact hends _ (by decide)
    · rw [hjson, List.getLast?_append]
      simp only [String.reduceToList, List.getLast?_cons_cons, List.getLast?_singleton,
        Option.some_or]
      exact hends _ (by decide)
  refine ⟨[], ' ' :: (payload suite value).write.toList, ⟨?_, fun _ _ _ => Nat.zero_le _⟩, ?_⟩
  · rw [text, String.toList_ofList, chars, payloadLine, payloadMark_eq]
    simp
  · rw [htrim, String.ofList_toList]

/-- **A line carries the payload that it is drawn for.** -/
theorem payloadsOf_text : payloadsOf (l.text secs) = l.payload?.toList := by
  cases l with
  | printed message =>
    have hcolon := message.colon_not_mem
    have hletter : 'A' ∉ "TinderboxPrint".toList ++ [':'] := by decide
    rw [text, chars_printed]
    exact payloadsOf_of_not_isInfix
      (fun h => not_isInfix_of_mem (by decide) hletter (isInfix_of_last h hcolon))
      (fun h => not_isInfix_of_mem (by decide) hletter (isInfix_of_last h hcolon))
  | measured suite value =>
    have hvalue : value.val < Text.wordBound := Nat.lt_trans value.isLt (by decide)
    rw [Performance.payloadsOf_of_payload (behind_measured secs suite value),
      Performance.toOption_payload?, ofText?_write_payload suite hvalue, Option.filter_some,
      isValid_payload]
    rfl
  | failed | returned | passed | noted =>
    exact payloadsOf_of_not_isInfix
      (not_isInfix_of_isPlain secs (by trivial) (by decide) (by decide))
      (not_isInfix_of_isPlain secs (by trivial) (by decide) (by decide))

/-! ### Failures -/

/-- What starts an error of its own and has none of three letters is an error. -/
theorem accepts_of_errorStart {w line : List Char} (hw : ErrorStart w) (h : w <+: line)
    (hletters : ∀ c ∈ ['f', 'I', 'T'], c ∉ line) : accepts line = true := by
  have hnone : ¬ ∃ u, HarnessPrefix u ∧ u <+: line := by
    rintro ⟨u, hu, r, rfl⟩
    exact hu.not_errorStart hw h
  have hletter : ∀ {c : Char}, c ∈ ['f', 'I', 'T'] → ∀ {u : List Char}, c ∈ u → ¬ u <:+: line :=
    fun hc _ hu hoccurs => hletters _ hc (hoccurs.subset hu)
  rw [accepts_iff_reports, withoutHarness_of_not_prefix hnone]
  refine ⟨?_, fun hexcluded => ?_, .starts hw h⟩
  · rintro ⟨g, hg, hline⟩
    obtain ⟨u, hu, hug⟩ := hg.exists_harnessPrefix
    exact hnone ⟨u, hu, hug.trans hline⟩
  · cases hexcluded with
    | nonFatal hprefix => exact hletter (c := 'f') (by decide) (by decide) hprefix.isInfix
    | missingModule _ _ hline =>
      refine hletter (c := 'I') (by decide) (u := line) ?_ (List.infix_refl line)
      rw [hline]
      simp
    | warning hoccurs => exact hletter (c := 'T') (by decide) (by decide) hoccurs
    | passedOn hfailure hoccurs =>
      obtain ⟨-, -, -⟩ := hfailure
      exact hletter (c := 'I') (by decide) (by simp) hoccurs

theorem accepts_returned (code : Fin 2) : accepts ((BodyLine.returned code).chars secs) = true := by
  have hspaces : Spaces "    ".toList := ⟨by decide, by simp⟩
  have hlevel : OneOf ["ERROR", "CRITICAL", "FATAL"] "ERROR".toList := ⟨_, by simp, rfl⟩
  have hparts : (BodyLine.returned code).chars secs =
      clock secs ++ "    ".toList ++ "ERROR".toList ++ " - ".toList ++
        ("Return code: ".toList ++ Text.decimal (1 + code)) := by
    have hmiddle : "    ERROR - Return code: ".toList =
        "    ".toList ++ "ERROR".toList ++ " - ".toList ++ "Return code: ".toList := by
      decide
    rw [chars, hmiddle]
    simp only [List.append_assoc]
  refine accepts_of_errorStart (.level (clock_clock secs) hspaces hlevel) ⟨_, hparts.symm⟩ ?_
  intro c hc
  have hletter : c = 'f' ∨ c = 'I' ∨ c = 'T' := by simpa using hc
  have hdigit : Text.isAsciiDigit c = false := by rcases hletter with rfl | rfl | rfl <;> rfl
  have hliteral : c ∉ "    ERROR - Return code: ".toList := by
    rcases hletter with rfl | rfl | rfl <;> decide
  have hcolon : c ≠ ':' := by rcases hletter with rfl | rfl | rfl <;> decide
  simp only [chars, List.mem_append, not_mem_decimal _ hdigit, hliteral, or_false]
  exact not_mem_clock secs hdigit hcolon

theorem unexpected_eq : "TEST-UNEXPECTED-".toList = "TEST-UNEXPECTED".toList ++ ['-'] := rfl

/-- Where nothing behind it has a hyphen, the name of a failure stands at the start alone. -/
theorem eq_of_unexpected {r u v : List Char} (hr : '-' ∉ r)
    (h : u ++ "TEST-UNEXPECTED-".toList ++ v = "TEST-UNEXPECTED-".toList ++ r) :
    u = [] ∧ v = r := by
  rw [unexpected_eq] at h
  obtain ⟨t, hstart, hrest⟩ := exists_of_last h hr
  have hlength := congrArg List.length hstart
  simp only [List.length_append] at hlength
  obtain rfl : t = [] := List.eq_nil_of_length_eq_zero (by omega)
  exact ⟨List.eq_nil_of_length_eq_zero (by omega), hrest⟩

theorem not_excluded_unexpected {r : List Char} (hr : '-' ∉ r) (hhead : r.head? ≠ some 'W') :
    ¬ Excluded ("TEST-UNEXPECTED-".toList ++ r) := by
  intro hexcluded
  cases hexcluded with
  | nonFatal hprefix =>
    obtain ⟨v, hv⟩ := hprefix
    simp at hv
  | missingModule _ _ hline => simp at hline
  | warning hoccurs =>
    obtain ⟨u, v, h⟩ := hoccurs
    have hparts : u ++ "TEST-UNEXPECTED-".toList ++ ("WARNING".toList ++ v) =
        "TEST-UNEXPECTED-".toList ++ r := by
      rw [← h]
      simp
    obtain ⟨-, rfl⟩ := eq_of_unexpected hr hparts
    exact hhead rfl
  | passedOn hfailure hoccurs =>
    obtain @⟨c, p, w, -, -, -⟩ := hfailure
    obtain ⟨u, v, h⟩ := hoccurs
    have hparts : (u ++ ("I".toList ++ [c] ++ p ++ w)) ++ "TEST-UNEXPECTED-".toList ++ v =
        "TEST-UNEXPECTED-".toList ++ r := by
      rw [← h]
      simp
    obtain ⟨hnil, -⟩ := eq_of_unexpected hr hparts
    simp at hnil

/-- Behind the prefix of the harness, a failed test is an error. -/
theorem accepts_unexpected {v : List Char} (hv : '-' ∉ v) :
    accepts (clock secs ++ "     ".toList ++ "INFO".toList ++ " -".toList ++ "  ".toList ++
      ("TEST-UNEXPECTED-".toList ++ ("FAIL ".toList ++ v))) = true := by
  have hlevel : LevelPrefix "INFO"
      (clock secs ++ "     ".toList ++ "INFO".toList ++ " -".toList ++ "  ".toList) :=
    .mk (clock_clock secs) ⟨by decide, by simp⟩ ⟨by decide, by simp⟩
  have hspace : ("TEST-UNEXPECTED-".toList ++ ("FAIL ".toList ++ v)).head? ≠ some ' ' := by
    simp
  have hreport : "TEST-UNEXPECTED-".toList ++ "FAIL".toList ++ " ".toList <:+:
      "TEST-UNEXPECTED-".toList ++ ("FAIL ".toList ++ v) := ⟨[], v, by simp⟩
  rw [accepts_iff_reports, infoGuard_append_iff (by simp) hlevel hspace,
    (hlevel.harnessPrefix (by simp)).withoutHarness_append hspace]
  refine ⟨?_, not_excluded_unexpected (by simp [hv]) (by simp),
    .holds (.unexpected ⟨"FAIL", by simp, rfl⟩) hreport⟩
  rintro ⟨-, _, ⟨⟨j, hj, rfl⟩, ⟨k, hk, rfl⟩⟩, u, h⟩
  simp only [List.mem_cons, List.not_mem_nil, or_false] at hj hk
  rcases hj with rfl | rfl <;> rcases hk with rfl | rfl | rfl | rfl <;> simp at h

theorem accepts_failed (test : Fin 1000) (message : Message) :
    accepts ((BodyLine.failed test message).chars secs) = true := by
  have hmiddle : "     INFO -  TEST-UNEXPECTED-FAIL | dom/tests/test_".toList =
      "     ".toList ++ "INFO".toList ++ " -".toList ++ "  ".toList ++
        ("TEST-UNEXPECTED-".toList ++ ("FAIL ".toList ++ "| dom/tests/test_".toList)) := by
    decide
  have hhyphen : '-' ∉ "| dom/tests/test_".toList ++ (Text.decimal test ++
      (".html | ".toList ++ message.chars)) := by
    simp only [List.mem_append, not_mem_decimal _ (c := '-') (by decide),
      message.not_mem_chars (c := '-') (by decide), or_false, false_or]
    decide
  rw [chars, hmiddle]
  simpa only [List.append_assoc] using accepts_unexpected secs hhyphen

/-- **A line that is drawn for a failure is an error.** -/
theorem isErrorLine_text {l : BodyLine} (h : l.isFailure = true) :
    isErrorLine (l.text secs) = true := by
  rw [isErrorLine, text, String.toList_ofList]
  cases l with
  | failed test message => exact accepts_failed secs test message
  | returned code => exact accepts_returned secs code
  | printed | measured | passed | noted => exact Bool.noConfusion h

end BodyLine
end JobLog.Sample
