import JobLog.JobDetail
import JobLog.Proofs.Text.Last
import Mathlib.Data.List.TakeWhile
import Mathlib.Logic.Function.Basic

/-!
# The details that a log prints

Each line with a mark that has something behind it prints one detail, and the detail keeps all of
what is printed.

* `JobDetail.IsLink` says which payloads are links. `JobDetail.ofPayload_link`,
  `JobDetail.ofPayload_rawHtml` and `JobDetail.ofPayload_text` decode the three kinds, and
  `JobDetail.written_ofPayload` writes them back.
* `JobDetail.Prints` says which payload a line prints, and `JobDetail.payload?_eq_some_iff` that it
  is found.
* `JobDetailLog.calls` is a run of lines and ends, `JobDetailLog.Printed` relates lines and details.
* `JobDetailLog.details_calls` is the result for all lines and payloads.
-/

namespace JobLog

open Text.Pattern (LastOccurrence lastBehind? lastBehind?_eq_some_iff lastBehind?_eq_none_iff
  dropLit? dropLit?_eq_some_iff)

namespace JobDetail

variable {p label url html s : List Char} {line : String}

/-! ### Payloads -/

/-- The text of a detail. -/
def written (d : JobDetail) : List Char :=
  match d.contentType with
  | .link =>
    "link:".toList ++ (d.title?.getD "").toList ++ ":".toList ++ (d.url?.getD "").toList
  | .rawHtml => "raw_html:".toList ++ d.value.toList
  | .text => d.value.toList

/-- The payload starts with the mark of a link and has a colon behind it. -/
def IsLink (p : List Char) : Prop := ∃ label url, p = "link:".toList ++ label ++ ":".toList ++ url

/-- The first colon ends the label. -/
theorem IsLink.exists_label (h : IsLink p) :
    ∃ label url, ':' ∉ label ∧ p = "link:".toList ++ label ++ ":".toList ++ url := by
  obtain ⟨u, v, rfl⟩ := h
  obtain ⟨label, url, heq, hlabel⟩ :=
    List.eq_append_cons_of_mem (List.mem_append_right u (List.mem_cons_self (a := ':') (l := v)))
  exact ⟨label, url, hlabel, by simp [heq]⟩

theorem ofPayload_link (h : ':' ∉ label) :
    ofPayload ("link:".toList ++ label ++ ":".toList ++ url) = link label url := by
  have hdrop : dropLit? "link:".toList ("link:".toList ++ label ++ ":".toList ++ url) =
      some (label ++ ':' :: url) := dropLit?_eq_some_iff.2 (by simp)
  have hlabel : ∀ c ∈ label, decide (c ≠ ':') = true := fun c hc =>
    decide_eq_true (ne_of_mem_of_not_mem hc h)
  have hcolon : ∀ c ∈ (':' :: url).head?, decide (c ≠ ':') = false := by simp
  rw [ofPayload, hdrop]
  simp only [Text.dropWhile_run_append hlabel hcolon, Text.takeWhile_run_append hlabel hcolon]

theorem ofPayload_of_not_isLink (h : ¬ IsLink p) : ofPayload p = ofOther p := by
  rw [ofPayload]
  cases htarget : dropLit? "link:".toList p with
  | none => rfl
  | some target =>
    have hnone : ':' ∉ target := fun hmem => by
      obtain ⟨label, url, rfl⟩ := List.append_of_mem hmem
      exact h ⟨label, url, by simp [dropLit?_eq_some_iff.1 htarget]⟩
    have hrest : target.dropWhile (· ≠ ':') = [] := by
      refine List.dropWhile_eq_nil_iff.2 fun c hc => ?_
      exact decide_eq_true (ne_of_mem_of_not_mem hc hnone)
    simp only [hrest]

theorem not_isLink_rawHtml (html : List Char) : ¬ IsLink ("raw_html:".toList ++ html) := by
  rintro ⟨label, url, h⟩
  exact absurd (List.cons.inj h).1 (by decide)

theorem ofPayload_rawHtml (html : List Char) :
    ofPayload ("raw_html:".toList ++ html) = plain html .rawHtml := by
  rw [ofPayload_of_not_isLink (not_isLink_rawHtml html), ofOther, dropLit?_eq_some_iff.2 rfl]

theorem ofPayload_text (hlink : ¬ IsLink p) (hraw : ¬ "raw_html:".toList <+: p) :
    ofPayload p = plain p .text := by
  rw [ofPayload_of_not_isLink hlink, ofOther]
  cases hdrop : dropLit? "raw_html:".toList p with
  | none => rfl
  | some html => exact absurd ⟨html, (dropLit?_eq_some_iff.1 hdrop).symm⟩ hraw

/-- The kinds of payloads. -/
inductive Kind : List Char → Prop
  | link {label url : List Char} : ':' ∉ label →
      Kind ("link:".toList ++ label ++ ":".toList ++ url)
  | rawHtml (html : List Char) : Kind ("raw_html:".toList ++ html)
  | text {p : List Char} : ¬ IsLink p → ¬ "raw_html:".toList <+: p → Kind p

theorem kind (p : List Char) : Kind p := by
  by_cases hlink : IsLink p
  · obtain ⟨label, url, hlabel, rfl⟩ := hlink.exists_label
    exact .link hlabel
  by_cases hraw : "raw_html:".toList <+: p
  · obtain ⟨html, rfl⟩ := hraw
    exact .rawHtml html
  · exact .text hlink hraw

/-- **A detail keeps its payload.** -/
theorem written_ofPayload (p : List Char) : (ofPayload p).written = p := by
  cases kind p with
  | link h =>
    rw [ofPayload_link h]
    simp [written, JobDetail.link]
  | rawHtml html =>
    rw [ofPayload_rawHtml]
    simp [written, plain]
  | text hlink hraw =>
    rw [ofPayload_text hlink hraw]
    simp [written, plain]

theorem contentType_eq_link_iff : (ofPayload p).contentType = .link ↔ IsLink p := by
  cases kind p with
  | @link label url h =>
    rw [ofPayload_link h]
    exact iff_of_true rfl ⟨label, url, rfl⟩
  | rawHtml html =>
    rw [ofPayload_rawHtml]
    exact iff_of_false nofun (not_isLink_rawHtml html)
  | text hlink hraw =>
    rw [ofPayload_text hlink hraw]
    exact iff_of_false nofun hlink

theorem contentType_eq_rawHtml_iff :
    (ofPayload p).contentType = .rawHtml ↔ "raw_html:".toList <+: p := by
  cases kind p with
  | @link label url h =>
    rw [ofPayload_link h]
    refine iff_of_false nofun fun ⟨html, heq⟩ => ?_
    exact absurd (List.cons.inj heq).1 (by decide)
  | rawHtml html =>
    rw [ofPayload_rawHtml]
    exact iff_of_true rfl (List.prefix_append _ _)
  | text hlink hraw =>
    rw [ofPayload_text hlink hraw]
    exact iff_of_false nofun hraw

/-! ### Lines -/

/-- The line prints the payload: it stands behind the last mark that has something behind it. -/
def Prints (line : String) (payload : List Char) : Prop :=
  ∃ before, LastOccurrence mark (· ≠ []) line.toList before payload

theorem Prints.unique {payload payload' : List Char} (h : Prints line payload)
    (h' : Prints line payload') : payload = payload' := by
  obtain ⟨before, hlast⟩ := h
  obtain ⟨before', hlast'⟩ := h'
  exact (hlast.unique hlast').2

/-- The text, if there is any. -/
def nonempty? (s : List Char) : Option (List Char) := if s = [] then none else some s

theorem exists_nonempty?_iff : (∃ r, nonempty? s = some r) ↔ s ≠ [] := by
  by_cases h : s = [] <;> simp [nonempty?, h]

theorem behindMark?_eq_lastBehind? (s : List Char) :
    behindMark? s = lastBehind? mark nonempty? s := by
  induction s with
  | nil => rfl
  | cons c s ih =>
    rw [behindMark?, lastBehind?, ← ih]
    cases behindMark? s with
    | some payload => rfl
    | none =>
      cases dropLit? mark (c :: s) with
      | none => rfl
      | some behind => cases behind <;> rfl

theorem payload?_eq_some_iff (h : '\n' ∉ line.toList) :
    payload? line.toList = some p ↔ Prints line p := by
  have husable : (fun v => ∃ r, nonempty? v = some r) = (· ≠ []) :=
    funext fun v => propext exists_nonempty?_iff
  rw [payload?, if_neg h, behindMark?_eq_lastBehind?, lastBehind?_eq_some_iff (by decide), husable]
  constructor
  · rintro ⟨before, behind, hlast, hp⟩
    rw [nonempty?, if_neg hlast.usable, Option.some.injEq] at hp
    exact ⟨before, hp ▸ hlast⟩
  · rintro ⟨before, hlast⟩
    exact ⟨before, p, hlast, if_neg hlast.usable⟩

theorem payload?_eq_none_iff (h : '\n' ∉ line.toList) :
    payload? line.toList = none ↔
      ∀ before payload, line.toList = before ++ mark ++ payload → payload = [] := by
  rw [payload?, if_neg h, behindMark?_eq_lastBehind?, lastBehind?_eq_none_iff (by decide)]
  simp [nonempty?]

end JobDetail

/-! ### Runs -/

/-- What a log is told. -/
inductive JobDetailCall
  | line (text : String)
  | finish

namespace JobDetailLog

variable {l : JobDetailLog} {ls : List String} {ds : List JobDetail}

/-- The log behind a call. -/
def call (l : JobDetailLog) : JobDetailCall → JobDetailLog
  | .line text => l.line text
  | .finish => l.finish

/-- The log behind calls. -/
def calls (l : JobDetailLog) (cs : List JobDetailCall) : JobDetailLog := cs.foldl call l

theorem calls_append (l : JobDetailLog) (cs cs' : List JobDetailCall) :
    l.calls (cs ++ cs') = (l.calls cs).calls cs' := List.foldl_append

theorem call_of_complete (h : l.complete = true) (c : JobDetailCall) : l.call c = l := by
  cases c with
  | line text => exact if_pos h
  | finish => rw [call, finish, ← h]

theorem calls_of_complete (h : l.complete = true) (cs : List JobDetailCall) : l.calls cs = l := by
  induction cs with
  | nil => rfl
  | cons c cs ih => rw [calls, List.foldl_cons, call_of_complete h, ← calls, ih]

/-- Lines before the end add what they print. -/
theorem calls_lines (h : l.complete = false) (ls : List String) :
    l.calls (ls.map .line) =
      ⟨l.details ++ ls.flatMap fun text => (JobDetail.ofLine? text).toList, false⟩ := by
  induction ls generalizing l with
  | nil => rw [List.flatMap_nil, List.append_nil, ← h]; rfl
  | cons text ls ih =>
    have hline : l.call (.line text) =
        ⟨l.details ++ (JobDetail.ofLine? text).toList, false⟩ := by
      simp [call, line, h]
    rw [List.map_cons, calls, List.foldl_cons, hline, ← calls, ih rfl, List.flatMap_cons,
      List.append_assoc]

/-- The details are those that the lines print, in the same order. -/
inductive Printed : List String → List JobDetail → Prop
  | nil : Printed [] []
  | prints {text : String} {payload : List Char} {ls : List String} {ds : List JobDetail} :
      JobDetail.Prints text payload → Printed ls ds →
      Printed (text :: ls) (JobDetail.ofPayload payload :: ds)
  | silent {text : String} {ls : List String} {ds : List JobDetail} :
      (∀ before payload, text.toList = before ++ JobDetail.mark ++ payload → payload = []) →
      Printed ls ds → Printed (text :: ls) ds

/-- Lines print one list of details, and it is the one that is found. -/
theorem printed_iff (hls : ∀ text ∈ ls, '\n' ∉ text.toList) :
    Printed ls ds ↔ ds = ls.flatMap fun text => (JobDetail.ofLine? text).toList := by
  induction ls generalizing ds with
  | nil =>
    constructor
    · rintro ⟨⟩
      rfl
    · rintro rfl
      exact .nil
  | cons text ls ih =>
    obtain ⟨htext, hls⟩ := List.forall_mem_cons.1 hls
    rw [List.flatMap_cons, JobDetail.ofLine?]
    constructor
    · intro h
      cases h with
      | prints hprints hrest =>
        rw [(JobDetail.payload?_eq_some_iff htext).2 hprints, (ih hls).1 hrest]
        rfl
      | silent hnone hrest =>
        rw [(JobDetail.payload?_eq_none_iff htext).2 hnone, (ih hls).1 hrest]
        rfl
    · rintro rfl
      have hrest := (ih hls).2 rfl
      cases hpayload : JobDetail.payload? text.toList with
      | none => exact .silent ((JobDetail.payload?_eq_none_iff htext).1 hpayload) hrest
      | some payload => exact .prints ((JobDetail.payload?_eq_some_iff htext).1 hpayload) hrest

/-- **The details of a log are those that its lines print**, one for each line that has a mark with
something behind it, and what comes behind the first end adds nothing. No payload is lost: its
detail tells it again. Links are the payloads with the mark of a link and a colon behind it, the
first of which ends the label, and raw HTML are those with its mark. -/
theorem details_calls (hls : ∀ text ∈ ls, '\n' ∉ text.toList) (more : List JobDetailCall) :
    (∀ ds, (start.calls (ls.map .line)).details = ds ↔ Printed ls ds) ∧
    (start.calls (ls.map .line ++ .finish :: more)).details =
      (start.calls (ls.map .line)).details ∧
    (∀ p, (JobDetail.ofPayload p).written = p) ∧
    Function.Injective JobDetail.ofPayload ∧
    (∀ p, (JobDetail.ofPayload p).contentType = .link ↔ JobDetail.IsLink p) ∧
    (∀ label url, ':' ∉ label →
      JobDetail.ofPayload ("link:".toList ++ label ++ ":".toList ++ url) =
        ⟨some (String.ofList label), String.ofList label, some (String.ofList url), .link⟩) ∧
    ∀ p, (JobDetail.ofPayload p).contentType = .rawHtml ↔ "raw_html:".toList <+: p := by
  refine ⟨fun ds => ?_, ?_, JobDetail.written_ofPayload, ?_,
    fun _ => JobDetail.contentType_eq_link_iff, fun _ _ => JobDetail.ofPayload_link,
    fun _ => JobDetail.contentType_eq_rawHtml_iff⟩
  · rw [printed_iff hls, calls_lines rfl]
    exact eq_comm
  · rw [calls_append, calls, List.foldl_cons, ← calls, calls_of_complete rfl]
    rfl
  · exact Function.LeftInverse.injective JobDetail.written_ofPayload

/-- Lines with several marks, a mark at the end, a link with an empty label and colons in its
target, and a mark of a link alone. -/
def printingLines : List String := [
  "08:00:00 INFO - TinderboxPrint: a TinderboxPrint: raw_html:<br/>",
  "TinderboxPrint: TinderboxPrint: ",
  "TinderboxPrint: link::https://example.com:80/",
  "no print here",
  "TinderboxPrint: link:log"]

/-- What they print. -/
theorem details_calls_printingLines :
    (∀ text ∈ printingLines, '\n' ∉ text.toList) ∧
      Printed printingLines [
        ⟨none, "<br/>", none, .rawHtml⟩,
        ⟨none, "TinderboxPrint: ", none, .text⟩,
        ⟨some "", "", some "https://example.com:80/", .link⟩,
        ⟨none, "link:log", none, .text⟩] := by
  have hlines : ∀ text ∈ printingLines, '\n' ∉ text.toList := by decide +kernel
  exact ⟨hlines, ((details_calls hlines []).1 _).1 (by decide +kernel)⟩

end JobDetailLog
end JobLog
