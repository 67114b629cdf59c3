import JobLog.Proofs.Sample.Placed
import Mathlib.Data.List.Chain
import Mathlib.Data.List.Nodup
import Mathlib.Data.List.Perm.Subperm

/-!
# Sample logs are read back

Whatever is drawn for a sample log, a run of all builders over it tells what was drawn: the steps
with their places, results and times, the job details and the payloads. Of the errors the first
hundred are kept, and the failures are among the errors.

* `Tells` says it of the steps.
* `tells_stepsOf` is the result for a script, and `overSource_logLines` the one for all logs.
-/

namespace JobLog.Sample

open Performance (payloadsOf)

/-! ### Steps -/

section

variable (order room : Nat) (qs : List Placed)

theorem map_stepsOf {β : Type} {f : Step → β} {g : Placed → β}
    (h : ∀ q order kept, f (Placed.step q order kept) = g q) :
    (stepsOf order room qs).map f = qs.map g := by
  induction qs generalizing order room with
  | nil => rfl
  | cons q qs ih => rw [stepsOf, List.map_cons, h, ih, List.map_cons]

theorem places_stepsOf :
    (stepsOf order room qs).map (fun s => (s.firstLine, s.lastLine)) =
      qs.map fun q => (q.firstLine, q.lastLine) :=
  map_stepsOf order room qs fun _ _ _ => rfl

theorem order_stepsOf : (stepsOf order room qs).map Step.order = List.range' order qs.length := by
  induction qs generalizing order room with
  | nil => rfl
  | cons q qs ih => rw [stepsOf, List.map_cons, ih, List.length_cons, List.range'_succ]; rfl

theorem errors_stepsOf :
    (stepsOf order room qs).flatMap Step.errors = (qs.flatMap Placed.errors).take room := by
  induction qs generalizing order room with
  | nil => simp [stepsOf]
  | cons q qs ih =>
    rw [stepsOf, List.flatMap_cons, ih, List.flatMap_cons, List.take_append]
    rfl

theorem exists_of_mem_stepsOf {s : Step} (h : s ∈ stepsOf order room qs) :
    ∃ q ∈ qs, ∃ order room, s = q.step order (q.errors.take room) := by
  induction qs generalizing order room with
  | nil => exact absurd h List.not_mem_nil
  | cons q qs ih =>
    rcases List.mem_cons.1 h with rfl | h
    · exact ⟨q, List.mem_cons_self, order, room, rfl⟩
    · obtain ⟨q', hq', hs⟩ := ih _ _ h
      exact ⟨q', List.mem_cons_of_mem q hq', hs⟩

end

/-- The errors that stand within a step. -/
def within (s : Step) (es : List ErrorLine) : List ErrorLine :=
  es.filter fun e => s.firstLine ≤ e.number ∧ e.number ≤ s.lastLine

/-- Where steps stand one behind the other, each with errors within it, these are all errors within
it. -/
theorem errors_eq_within {ss : List Step}
    (hapart : ss.Pairwise fun s t => s.lastLine < t.firstLine)
    (hin : ∀ s ∈ ss, ∀ e ∈ s.errors, s.firstLine ≤ e.number ∧ e.number ≤ s.lastLine)
    {s : Step} (hs : s ∈ ss) : s.errors = within s (ss.flatMap Step.errors) := by
  induction ss with
  | nil => exact absurd hs List.not_mem_nil
  | cons t ss ih =>
    obtain ⟨hlater, hapart⟩ := List.pairwise_cons.1 hapart
    obtain ⟨ht, hrests⟩ := List.forall_mem_cons.1 hin
    rw [within, List.flatMap_cons, List.filter_append]
    rcases List.mem_cons.1 hs with rfl | hs
    · have hown : s.errors.filter (fun e => s.firstLine ≤ e.number ∧ e.number ≤ s.lastLine) =
          s.errors := List.filter_eq_self.2 fun e he => decide_eq_true (ht e he)
      have hrest : (ss.flatMap Step.errors).filter
          (fun e => s.firstLine ≤ e.number ∧ e.number ≤ s.lastLine) = [] := by
        refine List.filter_eq_nil_iff.2 fun e he => ?_
        obtain ⟨u, hu, he⟩ := List.mem_flatMap.1 he
        have hfirst := (hrests u hu e he).1
        have hbehind := hlater u hu
        simp only [decide_eq_true_eq]
        omega
      rw [hown, hrest, List.append_nil]
    · have hother : t.errors.filter
          (fun e => s.firstLine ≤ e.number ∧ e.number ≤ s.lastLine) = [] := by
        refine List.filter_eq_nil_iff.2 fun e he => ?_
        have hlast := (ht e he).2
        have hbehind := hlater s hs
        simp only [decide_eq_true_eq]
        omega
      rw [hother, List.nil_append]
      exact ih hapart hrests hs

/-! ### What is told -/

/-- A step of a script is told: its lines, the result behind its code and its seconds by the clock,
which are exact. -/
structure Placed.Told (q : Placed) (s : Step) : Prop where
  firstLine : s.firstLine = q.firstLine
  lastLine : s.lastLine = q.lastLine
  result : s.result = if q.script.code = 0 then .success else .testfailed
  seconds : ∃ x, s.seconds? = some x ∧ x.IsInt (secondsOf q.started q.script.elapsed)

theorem told_step (q : Placed) (order : Nat) (kept : List ErrorLine) :
    q.Told (q.step order kept) where
  firstLine := rfl
  lastLine := rfl
  result := by
    have hcode : ∀ code : Fin 2,
        StepResult.ofCode code = if code = 0 then .success else .testfailed := by
      decide
    exact hcode q.script.code
  seconds := by
    have helapsed := elapsed_le q.script
    refine Double.exists_ofInt?_exact (Nat.lt_trans (natAbs_secondsOf_lt ?_) (by decide))
    omega

/-- The steps of a log tell its script: they are as many, in order and with their names, one right
behind the other from the first line to the last; each has its result and its seconds. The first
errors are kept, up to the cap, and each stands in the step that contains it. -/
structure Tells (cap : Nat) (script : List StepScript) (lineCount : Nat) (data : StepData) :
    Prop where
  names : data.steps.map Step.name = (List.range script.length).map fun i => "step-" ++ toString i
  orders : data.steps.map Step.order = List.range script.length
  first : ∀ s ∈ data.steps.head?, s.firstLine = 1
  next : data.steps.IsChain fun s t => t.firstLine = s.lastLine + 1
  last : lineCount = (data.steps.getLast?.map Step.lastLine).getD 0
  told : List.Forall₂ Placed.Told (placed script) data.steps
  errors : data.errors = (errorLines script).take cap
  truncated : data.truncated = true ↔ cap < (errorLines script).length
  contained : ∀ s ∈ data.steps, s.errors = within s data.errors

/-- The steps of a script, as they are made. -/
def dataOf (cap : Nat) (script : List StepScript) : StepData :=
  ⟨stepsOf 0 cap (placed script), decide (cap < (errorLines script).length),
    (errorLines script).take cap⟩

theorem name_stepsOf (cap : Nat) (script : List StepScript) :
    (stepsOf 0 cap (placed script)).map Step.name =
      (List.range script.length).map fun i => "step-" ++ toString i := by
  have hname : ∀ i, String.ofList (stepName i) = "step-" ++ toString i := by
    intro i
    rw [← String.toList_inj, String.toList_ofList, String.toList_append, toList_toString,
      stepName_eq]
  rw [map_stepsOf 0 cap (placed script) (g := fun q => "step-" ++ toString q.number)
    fun q _ _ => hname q.number, List.range_eq_range', ← number_place 0 1 3600 script, List.map_map]
  rfl

theorem told_stepsOf (order room : Nat) (qs : List Placed) :
    List.Forall₂ Placed.Told qs (stepsOf order room qs) := by
  induction qs generalizing order room with
  | nil => exact .nil
  | cons q qs ih => exact .cons (told_step q order _) (ih _ _)

theorem contained_stepsOf (cap : Nat) (script : List StepScript) {s : Step}
    (h : s ∈ stepsOf 0 cap (placed script)) :
    s.errors = within s ((errorLines script).take cap) := by
  have hapart : (stepsOf 0 cap (placed script)).Pairwise fun s t => s.lastLine < t.firstLine := by
    have hplaces : ((placed script).map fun q => (q.firstLine, q.lastLine)).Pairwise
        fun x y => x.2 < y.1 := List.pairwise_map.2 (apart_place 0 1 3600 script)
    rw [← places_stepsOf 0 cap] at hplaces
    exact List.pairwise_map.1 hplaces
  have hin : ∀ s ∈ stepsOf 0 cap (placed script), ∀ e ∈ s.errors,
      s.firstLine ≤ e.number ∧ e.number ≤ s.lastLine := by
    intro s hs e he
    obtain ⟨q, -, order, room, rfl⟩ := exists_of_mem_stepsOf _ _ _ hs
    exact number_of_mem_errors (List.mem_of_mem_take he)
  have hall := errors_eq_within hapart hin h
  rwa [errors_stepsOf] at hall

theorem tells_dataOf (cap : Nat) (script : List StepScript) :
    Tells cap script (textOf script).length (dataOf cap script) where
  names := name_stepsOf cap script
  orders := by
    show (stepsOf 0 cap (placed script)).map Step.order = _
    rw [order_stepsOf, placed, length_place, List.range_eq_range']
  first s hs := by
    cases script with
    | nil => exact absurd hs (by simp [dataOf, placed, place, stepsOf])
    | cons t ts =>
      obtain rfl := Option.some.inj hs
      rfl
  next := by
    have hplaces : ((placed script).map fun q => (q.firstLine, q.lastLine)).IsChain
        fun x y => y.1 = x.2 + 1 := (List.isChain_map _).2 (isChain_place 0 1 3600 script)
    rw [← places_stepsOf 0 cap] at hplaces
    exact (List.isChain_map _).1 hplaces
  last := by
    have hlength := length_lines_place 0 1 3600 script
    have hlast : (dataOf cap script).steps.getLast?.map Step.lastLine =
        (placed script).getLast?.map Placed.lastLine := by
      rw [← List.getLast?_map, ← List.getLast?_map]
      exact congrArg List.getLast? (map_stepsOf 0 cap (placed script) fun _ _ _ => rfl)
    rw [← placed, ← textOf, ← hlast, Nat.add_comm] at hlength
    cases hend : (dataOf cap script).steps.getLast?.map Step.lastLine with
    | none =>
      rw [hend] at hlength
      exact Nat.succ.inj hlength
    | some n =>
      rw [hend] at hlength
      exact Nat.succ.inj hlength
  told := told_stepsOf 0 cap (placed script)
  errors := rfl
  truncated := decide_eq_true_iff
  contained _ hs := contained_stepsOf cap script hs

/-! ### Runs -/

/-- No line of a log is cut. -/
theorem numbered_textOf {script : List StepScript} (h : script.length ≤ Text.wordBound) :
    Run.numbered .default ((textOf script).map String.ofList) =
      ((textOf script).map String.ofList).zipIdx 1 := by
  have hcut : ∀ x ∈ ((textOf script).map String.ofList).zipIdx 1,
      (cutLine Settings.default.maxLineLength x.1, x.2) = x := by
    intro x hx
    obtain ⟨cs, hcs, heq⟩ := List.mem_map.1 (List.fst_mem_of_mem_zipIdx hx)
    obtain ⟨q, hq, hcs⟩ := List.mem_flatMap.1 hcs
    have hnumber := number_lt_of_mem_place 0 1 3600 script hq
    have hlength : cs.length ≤ 500 := length_le_of_mem_lines (by omega) hcs
    exact Prod.ext (heq ▸ cutLine_of_printable (printable_lines hcs) hlength) rfl
  rw [Run.numbered, cutLines, List.map_congr_left hcut, List.map_id']

theorem data_textOf {script : List StepScript} (h : script.length ≤ Text.wordBound) (n : Nat) :
    ((Run.stepLog .default ((textOf script).map String.ofList)).finish n).data =
      dataOf Settings.default.maxErrorLines script := by
  obtain ⟨m, hlines⟩ := StepLog.lines_numberedLines Settings.default.maxErrorLines [] [] false 0
    (placed script)
  have hstart : StepLog.start Settings.default.maxErrorLines =
      .between Settings.default.maxErrorLines [] [] false 0 := rfl
  rw [Run.stepLog, numbered_textOf h, textOf, placed, ← numberedLines_place, ← placed, hstart,
    hlines]
  simp [StepLog.finish, StepLog.between, StepLog.closedAt, StepLog.data, dataOf, errorLines]

/-- **The log of a script is read back.** -/
theorem overSource_textOf (logUrl : String) {script : List StepScript}
    (h : script.length ≤ Text.wordBound) :
    (Run.ofKinds logUrl BuilderKind.all .default).overSource false
        (.ofBytes (Text.Utf8.encode (join (textOf script)).toList)) =
      .ok (.ofParts logUrl (textOf script).length (dataOf Settings.default.maxErrorLines script)
        (script.flatMap StepScript.details) (script.flatMap StepScript.payloads)) := by
  have hprintable : ∀ cs ∈ textOf script, Text.Printable cs := by
    intro cs hcs
    obtain ⟨q, -, hcs⟩ := List.mem_flatMap.1 hcs
    exact printable_lines hcs
  have hreports : ∀ {α : Type} (f : String → List α),
      ((((textOf script).map String.ofList).zipIdx 1).flatMap fun x => f x.1) =
        (textOf script).flatMap fun cs => f (String.ofList cs) := by
    intro α f
    rw [← List.flatMap_map Prod.fst f, List.zipIdx_map_fst, List.flatMap_map]
  rw [join, String.toList_ofList, Run.overSource_printable logUrl .default hprintable,
    Run.parse_eq, data_textOf h, numbered_textOf h, List.length_map,
    hreports fun text => (JobDetail.ofLine? text).toList, hreports payloadsOf, details_textOf,
    payloads_textOf]

/-- **Sample logs are read back.** Whatever is drawn for a log, a run of all builders over it
succeeds without failures, and it tells the script of the log: its steps, one job detail for each
line that prints one and one payload for each line that measures, in their order. Every line that
was drawn for a failure is an error; of all errors the first hundred are kept, each in the step that
contains it. -/
theorem overSource_logLines {σ : Type} (c : Chooser σ) (s : σ) {n : Nat}
    (hn : n ≤ Text.wordBound) (logUrl : String) :
    let ls := ((logLines c n).run s).1
    ∃ (script : List StepScript) (data : StepData),
      script.length = n ∧ ls = textOf script ∧
      (Run.ofKinds logUrl BuilderKind.all .default).overSource false
          (.ofBytes (Text.Utf8.encode (join ls).toList)) =
        .ok (.ofParts logUrl ls.length data (script.flatMap StepScript.details)
          (script.flatMap StepScript.payloads)) ∧
      Tells 100 script ls.length data ∧
      (failureLines script).Sublist (errorLines script) := by
  intro ls
  obtain ⟨script, hlength, hls⟩ := yields_stepsFrom c 0 1 3600 n s
  have htext : ls = textOf script := hls
  refine ⟨script, dataOf 100 script, hlength, htext, ?_, ?_, failureLines_sublist script⟩
  · rw [htext]
    exact overSource_textOf logUrl (hlength ▸ hn)
  · rw [htext]
    exact tells_dataOf 100 script

/-- The fixed log of three steps is read back. -/
theorem overSource_logLines_three :
    3 ≤ Text.wordBound ∧
    ∃ (script : List StepScript) (data : StepData),
      script.length = 3 ∧ log 3 = join (textOf script) ∧
      (Run.ofKinds "generated" BuilderKind.all .default).overSource false
          (.ofBytes (Text.Utf8.encode (log 3).toList)) =
        .ok (.ofParts "generated" (textOf script).length data (script.flatMap StepScript.details)
          (script.flatMap StepScript.payloads)) ∧
      Tells 100 script (textOf script).length data ∧
      (failureLines script).Sublist (errorLines script) := by
  have hbound : 3 ≤ Text.wordBound := by decide
  obtain ⟨script, data, hlength, hls, hrun, htells, hfailures⟩ :=
    overSource_logLines streamChooser fixedStream hbound "generated"
  rw [hls] at hrun htells
  have hlog : log 3 = join (textOf script) := congrArg join hls
  exact ⟨hbound, script, data, hlength, hlog, hlog ▸ hrun, htells, hfailures⟩

/-! ### A log with too many failures -/

/-- Draws failures only, as many as it can. -/
def failingChooser : Chooser Unit where
  upTo n s := (⟨if n = 99 then 1 else n, by split <;> omega⟩, s)
  wideUpTo n s := (⟨0, Nat.succ_pos n⟩, s)
  letter s := (⟨0, by decide⟩, s)

/-- The script of one step with failures only. -/
def failingScript : List StepScript :=
  [⟨List.replicate 199 (0, .returned 1), by rw [List.length_replicate]; decide, 0⟩]

theorem logLines_failingChooser :
    ((logLines failingChooser 1).run ()).1 = textOf failingScript := by
  decide +kernel

theorem number_failureLines :
    (failureLines failingScript).map ErrorLine.number = List.range' 2 199 := by
  decide +kernel

/-- **Not every failure is kept**: of the 199 failures of a step, 99 are dropped. -/
theorem overSource_failingChooser :
    let ls := ((logLines failingChooser 1).run ()).1
    ∃ data : StepData,
      (Run.ofKinds "" BuilderKind.all .default).overSource false
          (.ofBytes (Text.Utf8.encode (join ls).toList)) = .ok (.ofParts "" 201 data [] []) ∧
      ls = textOf failingScript ∧ (failureLines failingScript).length = 199 ∧
      data.errors.length = 100 ∧ ¬ ∀ e ∈ failureLines failingScript, e ∈ data.errors := by
  intro ls
  have hls : ls = textOf failingScript := logLines_failingChooser
  have hlength : (failureLines failingScript).length = 199 := by
    simpa using congrArg List.length number_failureLines
  have hnodup : (failureLines failingScript).Nodup := by
    refine List.Nodup.of_map ErrorLine.number ?_
    rw [number_failureLines]
    exact List.nodup_range'
  have herrors : (dataOf 100 failingScript).errors.length = 100 := by
    have hle := (failureLines_sublist failingScript).length_le
    rw [dataOf, List.length_take]
    omega
  refine ⟨dataOf 100 failingScript, ?_, hls, hlength, herrors, fun hall => ?_⟩
  · rw [hls]
    exact overSource_textOf "" (by decide)
  · have hle := (List.Nodup.subperm hnodup hall).length_le
    omega

end JobLog.Sample
