import JobLog.Pool
import JobLog.Proofs.Run.Cancellation

/-!
# Pools under every schedule

A pool runs each job once. A worker that is free takes a job that waits; it sends its message or
crashes, and is free again; the messages arrive one by one in any order. All this is left to chance:
`Pool.Step` says what may come next.

* `Pool.Accounted` is what every step keeps: each place is in one state, and each message holds the
  result of its job.
* `Pool.exists_step` and `Pool.Step.left_lt`: a pool is never stuck and comes to an end.
* `Pool.Accounted.gather_of_done` tells the results of a pool at its end,
  `Pool.parseMany_schedule` those of several logs.
-/

namespace JobLog.Pool

/-! ### Gathering -/

theorem length_foldl_put (messages : List Message) (slots : List (Option Result)) :
    (messages.foldl put slots).length = slots.length := by
  induction messages generalizing slots with
  | nil => rfl
  | cons m messages ih => rw [List.foldl_cons, ih, put, List.length_set]

theorem length_gather (count : Nat) (messages : List Message) :
    (gather count messages).length = count := by
  rw [gather, List.length_map, length_foldl_put, List.length_replicate]

/-- A place without a message keeps what it has. -/
theorem getElem?_foldl_put_of_not_mem {messages : List Message} {i : Nat}
    (h : i ∉ messages.map Prod.fst) (slots : List (Option Result)) :
    (messages.foldl put slots)[i]? = slots[i]? := by
  induction messages generalizing slots with
  | nil => rfl
  | cons m messages ih =>
    rw [List.map_cons, List.mem_cons, not_or] at h
    rw [List.foldl_cons, ih h.2, put, List.getElem?_set_ne (Ne.symm h.1)]

/-- A place with one message holds its result, whenever the message came. -/
theorem getElem?_foldl_put_of_mem {messages : List Message} {i : Nat} {r : Result}
    (hnodup : (messages.map Prod.fst).Nodup) (h : (i, r) ∈ messages)
    (slots : List (Option Result)) (hi : i < slots.length) :
    (messages.foldl put slots)[i]? = some (some r) := by
  induction messages generalizing slots with
  | nil => exact absurd h List.not_mem_nil
  | cons m messages ih =>
    rw [List.map_cons, List.nodup_cons] at hnodup
    rw [List.foldl_cons]
    rcases List.mem_cons.1 h with rfl | hrest
    · rw [getElem?_foldl_put_of_not_mem hnodup.1, put, List.getElem?_set_self hi]
    · exact ih hnodup.2 hrest (put slots m) (by rwa [put, List.length_set])

theorem getElem?_gather_of_mem {count : Nat} {messages : List Message} {i : Nat} {r : Result}
    (hnodup : (messages.map Prod.fst).Nodup) (h : (i, r) ∈ messages) (hi : i < count) :
    (gather count messages)[i]? = some r := by
  have hput := getElem?_foldl_put_of_mem hnodup h (List.replicate count none) (by simpa)
  rw [gather, List.getElem?_map, hput]
  rfl

theorem getElem?_gather_of_not_mem {count : Nat} {messages : List Message} {i : Nat}
    (h : i ∉ messages.map Prod.fst) (hi : i < count) :
    (gather count messages)[i]? = some (.error (.io .other)) := by
  rw [gather, List.getElem?_map, getElem?_foldl_put_of_not_mem h, List.getElem?_replicate_of_lt hi]
  rfl

theorem getElem?_gather_of_le {count i : Nat} (h : count ≤ i) (messages : List Message) :
    (gather count messages)[i]? = none :=
  List.getElem?_eq_none (by rwa [length_gather])

/-! ### Schedules -/

theorem workers_pos (processors jobs : Nat) : 0 < workers processors jobs := by
  rw [workers]
  split <;> omega

/-- What a pool is at: the places of the jobs that wait, that a worker is at and that crashed, the
messages on their way and those that arrived, in order. -/
structure State where
  waiting : List Nat
  running : List Nat
  sent : List Message
  received : List Message
  crashed : List Nat

namespace State

/-- All jobs of a pool wait. -/
def start (count : Nat) : State := ⟨List.range count, [], [], [], []⟩

/-- Every job has ended and every message has arrived. -/
def Done (s : State) : Prop := s.waiting = [] ∧ s.running = [] ∧ s.sent = []

/-- The places of all jobs. -/
def places (s : State) : List Nat :=
  s.waiting ++ s.running ++ s.sent.map Prod.fst ++ s.received.map Prod.fst ++ s.crashed

/-- The number of steps that are left at most. -/
def left (s : State) : Nat := 3 * s.waiting.length + 2 * s.running.length + s.sent.length

end State

/-- What may come next in a pool with so many workers. A job gives the result at its place, or
nothing where it has to crash; it may crash anyway. -/
inductive Step (result : Nat → Option Result) (workers : Nat) : State → State → Prop
  | take {before behind running : List Nat} {sent received : List Message} {crashed : List Nat}
      {i : Nat} : running.length < workers →
      Step result workers ⟨before ++ i :: behind, running, sent, received, crashed⟩
        ⟨before ++ behind, i :: running, sent, received, crashed⟩
  | finish {waiting before behind : List Nat} {sent received : List Message} {crashed : List Nat}
      {i : Nat} {r : Result} : result i = some r →
      Step result workers ⟨waiting, before ++ i :: behind, sent, received, crashed⟩
        ⟨waiting, before ++ behind, (i, r) :: sent, received, crashed⟩
  | crash {waiting before behind : List Nat} {sent received : List Message} {crashed : List Nat}
      {i : Nat} :
      Step result workers ⟨waiting, before ++ i :: behind, sent, received, crashed⟩
        ⟨waiting, before ++ behind, sent, received, i :: crashed⟩
  | deliver {waiting running : List Nat} {before behind received : List Message}
      {crashed : List Nat} {m : Message} :
      Step result workers ⟨waiting, running, before ++ m :: behind, received, crashed⟩
        ⟨waiting, running, before ++ behind, received ++ [m], crashed⟩

/-- The states that a pool with so many jobs may come to. -/
inductive Reachable (result : Nat → Option Result) (workers count : Nat) : State → Prop
  | start : Reachable result workers count (State.start count)
  | step {s s' : State} : Reachable result workers count s → Step result workers s s' →
      Reachable result workers count s'

/-- Each place is in one state, and each message holds the result of its job. -/
structure Accounted (result : Nat → Option Result) (count : Nat) (s : State) : Prop where
  places : s.places.Perm (List.range count)
  results : ∀ m ∈ s.sent ++ s.received, result m.1 = some m.2

section Steps

variable {result : Nat → Option Result} {workers count : Nat} {s s' : State}

/-- A step moves a job from one state to another. -/
theorem Step.places_perm (h : Step result workers s s') : s'.places.Perm s.places := by
  -- a place goes from one list to another, so none is counted more or less often
  rw [List.perm_iff_count]
  intro i
  cases h <;> simp only [State.places, List.map_append, List.map_cons, List.count_append,
    List.count_cons, List.count_nil, List.map_nil] <;> omega

theorem Step.results (h : Step result workers s s')
    (hs : ∀ m ∈ s.sent ++ s.received, result m.1 = some m.2) :
    ∀ m ∈ s'.sent ++ s'.received, result m.1 = some m.2 := by
  intro m hm
  cases h with
  | take hfree => exact hs m hm
  | finish hresult =>
    rcases List.mem_cons.1 hm with rfl | hm
    · exact hresult
    · exact hs m hm
  | crash => exact hs m hm
  | deliver =>
    refine hs m ?_
    simp only [List.mem_append, List.mem_cons, List.not_mem_nil, or_false] at hm ⊢
    rcases hm with (hbefore | hbehind) | hreceived | hdelivered
    · exact .inl (.inl hbefore)
    · exact .inl (.inr (.inr hbehind))
    · exact .inr hreceived
    · exact .inl (.inr (.inl hdelivered))

theorem Step.accounted (h : Step result workers s s') (hs : Accounted result count s) :
    Accounted result count s' :=
  ⟨h.places_perm.trans hs.places, h.results hs.results⟩

/-- Every step brings a pool closer to its end. -/
theorem Step.left_lt (h : Step result workers s s') : s'.left < s.left := by
  cases h <;> simp only [State.left, List.length_append, List.length_cons] <;> omega

theorem accounted_start : Accounted result count (State.start count) :=
  ⟨by simp [State.places, State.start], by simp [State.start]⟩

theorem Reachable.accounted (h : Reachable result workers count s) : Accounted result count s := by
  induction h with
  | start => exact accounted_start
  | step _ hstep ih => exact hstep.accounted ih

/-- A pool with a worker is stuck only at its end, and goes on without a crash that need not be. -/
theorem exists_step (hworkers : 0 < workers) (h : ¬ s.Done) :
    ∃ s', Step result workers s s' ∧ ∀ i ∈ s'.crashed, i ∈ s.crashed ∨ result i = none := by
  -- a message on its way can arrive; without one a running job can end, or else a worker is free
  obtain ⟨waiting, running, sent, received, crashed⟩ := s
  rcases sent with _ | ⟨m, sent⟩
  · rcases running with _ | ⟨i, running⟩
    · rcases waiting with _ | ⟨i, waiting⟩
      · exact absurd ⟨rfl, rfl, rfl⟩ h
      · exact ⟨_, @Step.take _ _ [] waiting [] [] received crashed i hworkers, fun _ => .inl⟩
    · cases hresult : result i with
      | some r =>
        exact ⟨_, @Step.finish _ _ waiting [] running [] received crashed i r hresult,
          fun _ => .inl⟩
      | none =>
        refine ⟨_, @Step.crash _ _ waiting [] running [] received crashed i, fun j hj => ?_⟩
        rcases List.mem_cons.1 hj with rfl | hj
        · exact .inr hresult
        · exact .inl hj
  · exact ⟨_, @Step.deliver _ _ waiting running [] sent received crashed m, fun _ => .inl⟩

/-! ### The results at the end -/

/-- At the end a job has crashed, or its message has arrived. -/
theorem Accounted.perm_of_done (h : Accounted result count s) (hdone : s.Done) :
    (s.received.map Prod.fst ++ s.crashed).Perm (List.range count) := by
  obtain ⟨hwaiting, hrunning, hsent⟩ := hdone
  have hplaces := h.places
  rw [State.places, hwaiting, hrunning, hsent] at hplaces
  simpa using hplaces

/-- **The results of a pool at its end**: an error at each place whose job crashed, and everywhere
else the result of the job. -/
theorem Accounted.gather_of_done (h : Accounted result count s) (hdone : s.Done) {i : Nat}
    (hi : i < count) :
    (i ∈ s.crashed ∧ (gather count s.received)[i]? = some (.error (.io .other))) ∨
      (i ∉ s.crashed ∧ ∃ r, result i = some r ∧ (gather count s.received)[i]? = some r) := by
  have hperm := h.perm_of_done hdone
  have hnodup := hperm.nodup_iff.2 List.nodup_range
  obtain ⟨hreceived, -, hdisjoint⟩ := List.nodup_append.1 hnodup
  rcases List.mem_append.1 (hperm.mem_iff.2 (List.mem_range.2 hi)) with hmem | hmem
  · obtain ⟨⟨_, r⟩, hm, rfl⟩ := List.mem_map.1 hmem
    refine .inr ⟨fun hcrashed => hdisjoint _ hmem _ hcrashed rfl, r, ?_, ?_⟩
    · exact h.results _ (List.mem_append_right _ hm)
    · exact getElem?_gather_of_mem hreceived hm hi
  · refine .inl ⟨hmem, getElem?_gather_of_not_mem (fun hsent => ?_) hi⟩
    exact hdisjoint _ hsent _ hmem rfl

end Steps

/-! ### Several logs -/

section Logs

variable (w : World) (settings : Settings) (kinds : List BuilderKind) (cancelled : Bool)
  (inputs : List Input)

/-- The result of the job at a place. -/
def job (i : Nat) : Option Result :=
  inputs[i]?.bind (·.parse? w settings kinds cancelled)

variable {w settings kinds cancelled inputs} in
theorem job_of_getElem? {i : Nat} {input : Input} (h : inputs[i]? = some input) :
    job w settings kinds cancelled inputs i = input.parse? w settings kinds cancelled := by
  rw [job, h, Option.bind_some]

theorem mem_work_iff {i : Nat} {r : Result} :
    (i, r) ∈ work w settings kinds cancelled inputs ↔
      job w settings kinds cancelled inputs i = some r := by
  simp only [work, job, List.mem_filterMap, Prod.exists, List.mem_zipIdx_iff_getElem?,
    Option.map_eq_some_iff, Prod.mk.injEq, Option.bind_eq_some_iff]
  constructor
  · rintro ⟨input, _, hinput, _, hresult, rfl, rfl⟩
    exact ⟨input, hinput, hresult⟩
  · rintro ⟨input, hinput, hresult⟩
    exact ⟨input, i, hinput, r, hresult, rfl, rfl⟩

theorem nodup_work : ((work w settings kinds cancelled inputs).map Prod.fst).Nodup := by
  have hplaces : inputs.zipIdx.Pairwise (·.2 ≠ ·.2) := by
    have hlt := List.pairwise_lt_range' (s := 0) (n := inputs.length)
    rw [← List.zipIdx_map_snd 0 inputs, List.pairwise_map] at hlt
    exact hlt.imp fun h => Nat.ne_of_lt h
  rw [List.Nodup, List.pairwise_map, work, List.pairwise_filterMap]
  refine hplaces.imp fun hne m hm m' hm' => ?_
  obtain ⟨r, -, rfl⟩ := Option.map_eq_some_iff.1 hm
  obtain ⟨r', -, rfl⟩ := Option.map_eq_some_iff.1 hm'
  exact hne

/-- Where no job crashes that could have ended, the results are those of the jobs one by one. -/
theorem gather_eq_parseMany {s : State}
    (h : Accounted (job w settings kinds cancelled inputs) inputs.length s) (hdone : s.Done)
    (hcrashed : ∀ i ∈ s.crashed, job w settings kinds cancelled inputs i = none) :
    gather inputs.length s.received = parseMany w settings kinds cancelled inputs := by
  apply List.ext_getElem?
  intro i
  by_cases hi : i < inputs.length
  · rcases h.gather_of_done hdone hi with ⟨hmem, hgather⟩ | ⟨-, r, hresult, hgather⟩
    · have hsilent : i ∉ (work w settings kinds cancelled inputs).map Prod.fst := by
        intro hsent
        obtain ⟨⟨_, r⟩, hm, rfl⟩ := List.mem_map.1 hsent
        rw [mem_work_iff, hcrashed _ hmem] at hm
        exact nomatch hm
      rw [hgather, parseMany, getElem?_gather_of_not_mem hsilent hi]
    · have hm := (mem_work_iff w settings kinds cancelled inputs).2 hresult
      rw [hgather, parseMany,
        getElem?_gather_of_mem (nodup_work w settings kinds cancelled inputs) hm hi]
  · have hle := Nat.le_of_not_lt hi
    rw [parseMany, getElem?_gather_of_le hle, getElem?_gather_of_le hle]

/-- **Several logs keep their order under every schedule.** Whatever the number of workers and the
order of what they do, a pool is never stuck and needs no other crashes to go on than those that
have to be; each step brings it closer to its end, and at its end there is one result for each
input, in order: an error where the worker crashed, and else what parsing this input alone gives. So
neither the schedule nor a crash changes the result of another input, and where only those crash
that have to, the results are those of `parseMany`. -/
theorem parseMany_schedule (processors jobs : Nat) {s : State}
    (h : Reachable (job w settings kinds cancelled inputs) (workers processors jobs) inputs.length
      s) :
    (¬ s.Done → ∃ s', Step (job w settings kinds cancelled inputs) (workers processors jobs) s s' ∧
      ∀ i ∈ s'.crashed, i ∈ s.crashed ∨ job w settings kinds cancelled inputs i = none) ∧
    (∀ s', Step (job w settings kinds cancelled inputs) (workers processors jobs) s s' →
      s'.left < s.left) ∧
    (s.Done →
      (gather inputs.length s.received).length = inputs.length ∧
      (∀ i input, inputs[i]? = some input →
        (i ∈ s.crashed ∧ (gather inputs.length s.received)[i]? = some (.error (.io .other))) ∨
        (i ∉ s.crashed ∧ ∃ r, input.parse? w settings kinds cancelled = some r ∧
          (gather inputs.length s.received)[i]? = some r)) ∧
      (∀ processors' jobs' s', Reachable (job w settings kinds cancelled inputs)
          (workers processors' jobs') inputs.length s' → s'.Done →
        ∀ i, i ∉ s.crashed → i ∉ s'.crashed →
          (gather inputs.length s'.received)[i]? = (gather inputs.length s.received)[i]?) ∧
      ((∀ i ∈ s.crashed, job w settings kinds cancelled inputs i = none) →
        gather inputs.length s.received = parseMany w settings kinds cancelled inputs)) := by
  have hs := h.accounted
  refine ⟨exists_step (workers_pos processors jobs), fun s' hstep => hstep.left_lt,
    fun hdone => ⟨length_gather _ _, fun i input hinput => ?_, fun _ _ s' h' hdone' i hi hi' => ?_,
      gather_eq_parseMany w settings kinds cancelled inputs hs hdone⟩⟩
  · have hlt := (List.getElem?_eq_some_iff.1 hinput).1
    rw [← job_of_getElem? hinput]
    exact hs.gather_of_done hdone hlt
  · by_cases hlt : i < inputs.length
    · obtain ⟨hmem, -⟩ | ⟨-, r, hresult, hgather⟩ := hs.gather_of_done hdone hlt
      · exact absurd hmem hi
      · obtain ⟨hmem, -⟩ | ⟨-, r', hresult', hgather'⟩ := h'.accounted.gather_of_done hdone' hlt
        · exact absurd hmem hi'
        · rw [hgather', hgather, ← hresult', ← hresult]
    · have hle := Nat.le_of_not_lt hlt
      rw [getElem?_gather_of_le hle, getElem?_gather_of_le hle]

end Logs

/-- An empty log, no other file, and a host that crashes its client. -/
def crashingHost : World :=
  ⟨fun path => if path = "empty.log" then .ok [] else .error .notFound, fun _ => .crash⟩

/-- An input that crashes its worker, a missing file, and an empty log twice. -/
def mixedInputs : List Input :=
  [.url "http://localhost/log", .path "empty.log", .path "missing.log", .path "empty.log"]

/-- What an empty log gives. -/
def emptyLog : ParsedLog := ⟨"empty.log", [], [], 0⟩

theorem parse?_crashing :
    (Input.url "http://localhost/log").parse? crashingHost .default [] false = none := by
  decide +kernel

theorem parse?_missing :
    (Input.path "missing.log").parse? crashingHost .default [] false =
      some (.error (.io .notFound)) := rfl

theorem parse?_empty :
    (Input.path "empty.log").parse? crashingHost .default [] false = some (.ok emptyLog) := by
  have hopen : (Input.path "empty.log").parse? crashingHost .default [] false =
      some ((Run.ofKinds "empty.log" [] .default).overSource false []) := rfl
  rw [hopen, ← Source.calm_nil, Run.overSource_calm]
  rfl

/-- Two workers take the jobs out of order, the first of the inputs crashes one of them, and the
last message comes first: all the same each result is in its place. -/
theorem parseMany_schedule_mixedInputs :
    ∃ s, Reachable (job crashingHost .default [] false mixedInputs) (workers 8 2) 4 s ∧ s.Done ∧
      s.received.map Prod.fst = [3, 2, 1] ∧ s.crashed = [0] ∧
      gather 4 s.received =
        [.error (.io .other), .ok emptyLog, .error (.io .notFound), .ok emptyLog] ∧
      parseMany crashingHost .default [] false mixedInputs = gather 4 s.received := by
  have hcrash : job crashingHost .default [] false mixedInputs 0 = none := parse?_crashing
  have hempty : job crashingHost .default [] false mixedInputs 1 = some (.ok emptyLog) :=
    parse?_empty
  have hmissing : job crashingHost .default [] false mixedInputs 2 =
      some (.error (.io .notFound)) := parse?_missing
  have hagain : job crashingHost .default [] false mixedInputs 3 = some (.ok emptyLog) :=
    parse?_empty
  have hrun : Reachable (job crashingHost .default [] false mixedInputs) (workers 8 2) 4
      ⟨[], [], [], [(3, .ok emptyLog), (2, .error (.io .notFound)), (1, .ok emptyLog)], [0]⟩ := by
    have s₀ : Reachable (job crashingHost .default [] false mixedInputs) (workers 8 2) 4
        ⟨[0, 1, 2, 3], [], [], [], []⟩ := .start
    have s₁ := s₀.step (@Step.take _ _ [0] [2, 3] [] [] [] [] 1 (by decide))
    have s₂ := s₁.step (@Step.take _ _ [] [2, 3] [1] [] [] [] 0 (by decide))
    have s₃ := s₂.step (@Step.crash _ _ [2, 3] [] [1] [] [] [] 0)
    have s₄ := s₃.step (@Step.take _ _ [2] [] [1] [] [] [0] 3 (by decide))
    have s₅ := s₄.step (@Step.finish _ _ [2] [] [1] [] [] [0] 3 _ hagain)
    have s₆ := s₅.step (@Step.finish _ _ [2] [] [] _ [] [0] 1 _ hempty)
    have s₇ := s₆.step (@Step.deliver _ _ [2] [] [_] [] [] [0] _)
    have s₈ := s₇.step (@Step.take _ _ [] [] [] _ _ [0] 2 (by decide))
    have s₉ := s₈.step (@Step.finish _ _ [] [] [] _ _ [0] 2 _ hmissing)
    have s₁₀ := s₉.step (@Step.deliver _ _ [] [] [] _ _ [0] _)
    exact s₁₀.step (@Step.deliver _ _ [] [] [] [] _ [0] _)
  refine ⟨_, hrun, ⟨rfl, rfl, rfl⟩, rfl, rfl, rfl, ?_⟩
  have hresults := (parseMany_schedule crashingHost .default [] false mixedInputs 8 2 hrun).2.2
    ⟨rfl, rfl, rfl⟩
  refine (hresults.2.2.2 fun i hi => ?_).symm
  obtain rfl := List.mem_singleton.1 hi
  exact hcrash

end JobLog.Pool
