import JobLog.Classifier
import JobLog.Step.Marker

/-!
# Steps of a log

The log is read line by line. Outside of a step a start marker opens one; inside of a step a finish
marker closes it. Every other line may report an error: it belongs to the open step, or else to a
step without a name that is opened for it and closed by the next start marker. Only so many errors
are kept.

* `StepLog.line` and `StepLog.finish` go on with the log, and after `finish` nothing changes;
  `StepLog.calls` goes on with both in any order.
* `StepLog.data` are the steps closed so far.
-/

namespace JobLog

/-- Where a log stands. -/
inductive StepPhase
  | outside
  | inside
  | ended
  deriving DecidableEq, Repr

/-- The steps of a log, as far as it was read. -/
structure StepLog where
  phase : StepPhase
  classifier : Classifier
  closed : List Step
  /-- The open step, named or not. -/
  open? : Option Step
  errors : List ErrorLine
  truncated : Bool
  /-- The number of errors that are kept. -/
  cap : Nat
  lastLine : Nat

/-- What is done with a log: a line is read, or the log ends. -/
inductive StepCall
  | line (text : String) (number : Nat)
  | finish (number : Nat)
  deriving DecidableEq, Repr

namespace StepLog

/-- Nothing was read yet. -/
def start (cap : Nat) : StepLog := ⟨.outside, .start, [], none, [], false, cap, 0⟩

/-- The closed steps and the open step closed at a line. -/
def closedAt (l : StepLog) (line : Nat) : List Step :=
  l.closed ++ (l.open?.map (·.finish line none .unknown)).toList

/-- The log behind a start marker. -/
def enter (l : StepLog) (m : Marker) (line : Nat) : StepLog :=
  let closed := l.closedAt (line - 1)
  { l with
    phase := .inside
    closed := closed
    open? := some (.begin (String.ofList m.name) closed.length line m.timestamp?) }

/-- The log behind a finish marker. -/
def leave (l : StepLog) (m : Marker) (line : Nat) : StepLog :=
  { l with
    phase := .outside
    closed := l.closed ++ (l.open?.map (·.finish line m.timestamp? m.result)).toList
    open? := none }

/-- The log with one more error. -/
def addError (l : StepLog) (e : ErrorLine) : StepLog :=
  let step := l.open?.getD (.begin "" l.closed.length e.number none)
  { l with errors := l.errors ++ [e], open? := some (step.addError e) }

/-- The log behind a line that is no marker. -/
def ordinary (l : StepLog) (text : String) (line : Nat) : StepLog :=
  let l' := { l with classifier := l.classifier.after text }
  match l.classifier.error? text with
  | none => l'
  | some error =>
    if l.cap ≤ l.errors.length then { l' with truncated := true }
    else l'.addError (.ofLine line error)

/-- The log behind a line. -/
def line (l : StepLog) (text : String) (line : Nat) : StepLog :=
  let l' := { l with lastLine := line }
  match l.phase with
  | .ended => l
  | .inside =>
    match Marker.read? .finished text with
    | some m => l'.leave m line
    | none => l'.ordinary text line
  | .outside =>
    match Marker.read? .started text with
    | some m => l'.enter m line
    | none => l'.ordinary text line

/-- The log at its end. -/
def finish (l : StepLog) (line : Nat) : StepLog :=
  match l.phase with
  | .ended => l
  | _ => { l with phase := .ended, closed := l.closedAt (max line l.lastLine), open? := none }

/-- The log behind several lines. -/
def lines (l : StepLog) (ls : List (String × Nat)) : StepLog :=
  ls.foldl (fun l x => l.line x.1 x.2) l

/-- The log behind a call. -/
def call (l : StepLog) : StepCall → StepLog
  | .line text number => l.line text number
  | .finish number => l.finish number

/-- The log behind several calls. -/
def calls (l : StepLog) (cs : List StepCall) : StepLog := cs.foldl call l

/-- The steps in order, the open one last. -/
def steps (l : StepLog) : List Step := l.closed ++ l.open?.toList

/-- The steps closed so far. -/
def data (l : StepLog) : StepData := ⟨l.closed, l.truncated, l.errors⟩

/-- The summary of the steps closed so far. -/
def summary (l : StepLog) (logUrl : String) : StepSummary := ⟨logUrl, l.data⟩

end StepLog
end JobLog
