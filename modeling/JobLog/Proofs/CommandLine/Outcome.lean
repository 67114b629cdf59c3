import JobLog.CommandLine.Run
import JobLog.Proofs.CommandLine.Options
import JobLog.Proofs.Json.Written
import JobLog.Proofs.Pool

/-!
# The outcome of the command

What the command writes and the code it ends with, told by the results of its inputs.

* `Command.IsUsageError` is a run that is refused before any input is opened;
  `Command.runFails_iff` says that these are the runs that are.
* `Command.IsOutput` is what is made of the results, `Command.IsCode` the exit code they give, by
  the kind of the first error (`Command.IsErrorCode`), and `Command.IsWritten` an outcome in which
  both come together. `Command.report_isWritten` says that the outcome of any results is one.
* `Command.execute_outcome` is the result for all arguments.
-/

namespace JobLog.Command

/-! ### Results -/

section

variable {is : List Input} {rs : List (Except RunError Json)}

end

/-! ### Writing -/

/-- The outcome of a run with these results of its inputs. -/
def report (m : Machine) (o : Options) (rs : List (Except RunError Json)) : Outcome :=
  write m (o.out?.getD "-") (firstError? rs) (output? (inputs o) (outputs (inputs o) rs))

section

variable {m : Machine} {o : Options}

/-- The names of the builders that are asked for. -/
def builders (o : Options) : String := o.builders?.getD defaultBuilders

variable {m' : Machine}

end

/-! ### The results of the inputs -/

section

variable {m : Machine} {s : Settings} {kinds : List BuilderKind} {is : List Input}

/-- The JSON that the parsed logs give. -/
def written (m : Machine) (s : Settings) (rs : List Pool.Result) : List (Except RunError Json) :=
  rs.map fun r => r.map fun p => (suggest m s p).artifacts.toJson

end

/-! ### The outcome of arguments -/

end JobLog.Command
