import JobLog.Json.Record
import JobLog.Text.Digit

/-!
# Actions of failure records

The harness writes what went wrong as records. The `action` of a record tells which of five kinds
it is and so which fields it has.

* `Action.ofFields?` reads the fields of a kind, `Action.ofTagged?` finds the kind as well.
* `Action.isValid` says that the record may be stored, `Action.durationSecs` how long a group took.
-/

namespace JobLog

/-- The outcome of a test. -/
inductive TestStatus
  | pass | fail | ok | error | timeout | crash | assert | skip | notrun
  deriving DecidableEq, Repr

namespace TestStatus

/-- The name of an outcome. -/
def name : TestStatus → String
  | .pass => "PASS"
  | .fail => "FAIL"
  | .ok => "OK"
  | .error => "ERROR"
  | .timeout => "TIMEOUT"
  | .crash => "CRASH"
  | .assert => "ASSERT"
  | .skip => "SKIP"
  | .notrun => "NOTRUN"

/-- All outcomes. -/
def all : List TestStatus :=
  [.pass, .fail, .ok, .error, .timeout, .crash, .assert, .skip, .notrun]

/-- The outcome of a name, in letters of either case. -/
def ofName? (s : String) : Option TestStatus :=
  all.find? fun t => s.toList.map Char.toUpper = t.name.toList

/-- The JSON of an outcome. -/
def toJson (t : TestStatus) : Json := .str t.name

/-- Reads an outcome. -/
def ofJson? (v : Json) : Option TestStatus := v.text?.bind ofName?

end TestStatus

/-- The level of a message. -/
inductive Level
  | critical | error | warning | info | debug
  deriving DecidableEq, Repr

namespace Level

/-- The name of a level. -/
def name : Level → String
  | .critical => "critical"
  | .error => "error"
  | .warning => "warning"
  | .info => "info"
  | .debug => "debug"

/-- All levels. -/
def all : List Level := [.critical, .error, .warning, .info, .debug]

/-- The level of a name, in letters of either case. -/
def ofName? (s : String) : Option Level :=
  all.find? fun l => s.toList.map Char.toLower = l.name.toList

/-- The JSON of a level. -/
def toJson (l : Level) : Json := .str l.name

/-- Reads a level. -/
def ofJson? (v : Json) : Option Level := v.text?.bind ofName?

end Level

/-- The message for a name that is none of a kind. -/
def unknownValueMessage (kind value : String) : String := s!"unknown {kind}: {value}"

/-- What a failure record reports. -/
inductive Action
  | testResult (test : String) (subtest? : Option String) (status : TestStatus)
    (expected? : Option TestStatus) (message? stack? : Option String)
  | log (level : Level) (message : String)
  | crash (signature? test? stack? stdout? stderr? : Option String)
  /-- More records were left out. -/
  | truncated
  | groupResult (group : String) (status : TestStatus) (duration? : Option Json)

namespace Action

/-- The names of the kinds, in order. -/
def names : List String := ["test_result", "log", "crash", "truncated", "group_result"]

/-- The name of the kind. -/
def name : Action → String
  | .testResult .. => "test_result"
  | .log .. => "log"
  | .crash .. => "crash"
  | .truncated => "truncated"
  | .groupResult .. => "group_result"

/-- The fields of a record, without those that all records have. -/
def fields : Action → Json.Fields
  | .testResult test subtest? status expected? message? stack? => [
    ("expected", (expected?.map TestStatus.toJson).getD .null),
    ("message", .ofString? message?),
    ("stack", .ofString? stack?),
    ("status", status.toJson),
    ("subtest", .ofString? subtest?),
    ("test", .str test)]
  | .log level message => [("level", level.toJson), ("message", .str message)]
  | .crash signature? test? stack? stdout? stderr? => [
    ("signature", .ofString? signature?),
    ("stack", .ofString? stack?),
    ("stackwalk_stderr", .ofString? stderr?),
    ("stackwalk_stdout", .ofString? stdout?),
    ("test", .ofString? test?)]
  | .truncated => []
  | .groupResult group status duration? => [
    ("duration", duration?.getD .null),
    ("group", .str group),
    ("status", status.toJson)]

/-- The fields of a record with its kind. -/
def tagged (a : Action) : Json.Fields := ("action", .str a.name) :: a.fields

/-- The JSON of an action. -/
def toJson (a : Action) : Json := .obj a.tagged

/-- Reads the fields of a test result. -/
def testResultOf? (v : Json) : Option Action := do
  let r ← v.record? ["test", "subtest", "status", "expected", "message", "stack"]
  let test ← r.required? "test" Json.text?
  let subtest? ← r.lenient? "subtest" Json.text?
  let status ← r.required? "status" TestStatus.ofJson?
  let expected? ← r.lenient? "expected" TestStatus.ofJson?
  let message? ← r.lenient? "message" Json.text?
  let stack? ← r.lenient? "stack" Json.text?
  some (.testResult test subtest? status expected? message? stack?)

/-- Reads the fields of a message. -/
def logOf? (v : Json) : Option Action := do
  let r ← v.record? ["level", "message"]
  let level ← r.required? "level" Level.ofJson?
  let message ← r.required? "message" Json.text?
  some (.log level message)

/-- Reads the fields of a crash. -/
def crashOf? (v : Json) : Option Action := do
  let r ← v.record? ["signature", "test", "stack", "stackwalk_stdout", "stackwalk_stderr"]
  let signature? ← r.lenient? "signature" Json.text?
  let test? ← r.lenient? "test" Json.text?
  let stack? ← r.lenient? "stack" Json.text?
  let stdout? ← r.lenient? "stackwalk_stdout" Json.text?
  let stderr? ← r.lenient? "stackwalk_stderr" Json.text?
  some (.crash signature? test? stack? stdout? stderr?)

/-- Reads the fields of a record that has none. -/
def truncatedOf? : Json → Option Action
  | .obj _ => some .truncated
  | .arr [] => some .truncated
  | _ => none

/-- Reads the fields of the result of a group. -/
def groupResultOf? (v : Json) : Option Action := do
  let r ← v.record? ["group", "status", "duration"]
  let group ← r.required? "group" Json.text?
  let status ← r.required? "status" TestStatus.ofJson?
  let duration? ← r.lenient? "duration" fun v => some v.canonical
  some (.groupResult group status duration?)

/-- Reads the fields of a kind. -/
def ofFields? (kind : String) (v : Json) : Option Action :=
  if kind = "test_result" then testResultOf? v
  else if kind = "log" then logOf? v
  else if kind = "crash" then crashOf? v
  else if kind = "truncated" then truncatedOf? v
  else if kind = "group_result" then groupResultOf? v
  else none

/-- Reads the name of a kind. -/
def kindByName? : Json → Option String
  | .str s => some s
  | _ => none

/-- Reads the name of a kind or its place among the kinds. -/
def kindByNameOrPlace? : Json → Option String
  | .num (.int n) => if 0 ≤ n then names[n.toNat]? else none
  | v => kindByName? v

/-- Reads an action from an object with one field for the kind, or from a list that starts with the
kind. -/
def ofTagged? (kind? : Json → Option String) : Json → Option Action
  | .obj fields =>
    match fields.filter (·.1 = "action") with
    | [(_, v)] => do
      let kind ← kind? v
      ofFields? kind (.obj (Json.Fields.erase "action" fields))
    | _ => none
  | .arr (v :: items) => do
    let kind ← kind? v
    ofFields? kind (.arr items)
  | _ => none

/-- Reads an action. -/
def ofJson? (v : Json) : Option Action := ofTagged? kindByName? v

/-- The greatest length of the path of a group, in characters. -/
def maxGroupLength : Nat := 255

/-- The record may be stored: the path of a group is short and has no backslash. -/
def isValid : Action → Bool
  | .groupResult group _ _ =>
    !group.toList.contains '\\' && group.toList.length ≤ maxGroupLength
  | _ => true

/-- The longest time that a group may take, in milliseconds. -/
def maxGroupMillis : Nat := 7200000

/-- The whole seconds of a number of milliseconds, zero where it is out of range. -/
def secondsOfMillis (ms : Double) : Nat :=
  if ms.negative || maxGroupMillis * ms.magnitude.den < ms.magnitude.num then 0
  else (((Double.ofInt? 1000).bind ms.div?).map Double.floor).getD 0

/-- The whole seconds that a group took, zero where they are unknown or out of range. -/
def durationSecs : Action → Nat
  | .groupResult _ _ (some (.num n)) => ((n.toDouble?).map secondsOfMillis).getD 0
  | _ => 0

end Action
end JobLog
