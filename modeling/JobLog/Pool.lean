import JobLog.Input

/-!
# Pools

Several logs are parsed by workers that share nothing. A worker sends its result with the place of
its input; one that crashes sends nothing. The results are given in the order of the inputs,
whatever the order of the messages.

* `Pool.workers` is the number of workers, `Pool.work` are their messages.
* `Pool.gather` puts the messages in order, and an error where one is missing.
-/

namespace JobLog.Pool

/-- The result of parsing a log. -/
abbrev Result := Except RunError ParsedLog

/-- The result of a worker with the place of its input. -/
abbrev Message := Nat × Result

/-- The number of workers: as many as were asked for, or else one for each processor. -/
def workers (processors jobs : Nat) : Nat := if jobs = 0 then max processors 1 else jobs

/-- The messages of the workers, in the order of the inputs. -/
def work (w : World) (settings : Settings) (kinds : List BuilderKind) (cancelled : Bool)
    (inputs : List Input) : List Message :=
  inputs.zipIdx.filterMap fun (i, place) =>
    (i.parse? w settings kinds cancelled).map fun r => (place, r)

/-- The slots of the results once a message was put into its place. -/
def put (slots : List (Option Result)) (m : Message) : List (Option Result) :=
  slots.set m.1 (some m.2)

/-- The results at so many places; a place without a message has an error. -/
def gather (count : Nat) (messages : List Message) : List Result :=
  (messages.foldl put (List.replicate count none)).map (·.getD (.error (.io .other)))

/-- The results of parsing several logs. -/
def parseMany (w : World) (settings : Settings) (kinds : List BuilderKind) (cancelled : Bool)
    (inputs : List Input) : List Result :=
  gather inputs.length (work w settings kinds cancelled inputs)

end JobLog.Pool
