import JobLog.Json.Written
import JobLog.Performance.Schema
import JobLog.Text.Pattern

/-!
# Performance data of a log

Behind `PERFHERDER_DATA:` a line carries one payload, behind `TALOSDATA:` a list of them. The
payloads that follow the schema are kept as they are. A strict log reports what is wrong with a
`TALOSDATA:` line; everything else that is no payload is passed over.

* `Found` is what a line carries.
* `PerformanceLog` collects the payloads of a log.
-/

namespace JobLog

namespace Performance

/-- Why a line is refused. -/
inductive LineError
  /-- The data is not the JSON that its mark announces. -/
  | badJson {data : String}
  | schema (fault : Fault)

/-- The message of an error. What the reader of JSON says of the data is told by the data alone, so
the data stands for it. -/
def LineError.message : LineError → String
  | @badJson data => s!"invalid json: {data}"
  | .schema fault => s!"schema validation failure: {fault.message}"

/-- The text behind the first occurrence of a mark, without white space around it. -/
def behind? (mark : String) (line : List Char) : Option String :=
  ((Text.Pattern.text mark).cut? line).map fun (_, data) => String.ofList (Text.trim data)

/-- What a line carries. -/
inductive Found
  | nothing
  /-- One payload. -/
  | payload (data : String)
  /-- A list of payloads. -/
  | list (data : String)
  deriving DecidableEq, Repr

/-- What a line carries. -/
def Found.ofLine (line : String) : Found :=
  match behind? "PERFHERDER_DATA:" line.toList with
  | some data => .payload data
  | none =>
    match behind? "TALOSDATA:" line.toList with
    | some data => .list data
    | none => .nothing

/-- Reads one payload. -/
def payload? (data : String) : Except LineError Json :=
  match Json.ofText? data with
  | none => .error (@LineError.badJson data)
  | some v =>
    match fault? v with
    | some f => .error (.schema f)
    | none => .ok v

/-- The values of a list. -/
def list? (data : String) : Option (List Json) :=
  match Json.ofText? data with
  | some (.arr items) => some items
  | _ => none

/-- The values before the first one with a fault, and this fault. -/
def untilFault : List Json → List Json × Option LineError
  | [] => ([], none)
  | v :: vs =>
    match fault? v with
    | some f => ([], some (.schema f))
    | none => (v :: (untilFault vs).1, (untilFault vs).2)

end Performance

/-- The performance data of a log. -/
structure PerformanceData where
  logUrl : String
  payloads : List Json

namespace PerformanceData

/-- The JSON of the data. -/
def toJson (d : PerformanceData) : Json :=
  .obj [("logurl", .str d.logUrl), ("performance_data", .arr d.payloads)]

/-- Reads the data. -/
def ofJson? (v : Json) : Option PerformanceData := do
  let r ← v.record? ["logurl", "performance_data"]
  let logUrl ← r.required? "logurl" Json.text?
  let payloads ← r.required? "performance_data" (Json.list? fun v => some v.canonical)
  some ⟨logUrl, payloads⟩

end PerformanceData

open Performance (Found LineError)

/-- The payloads of a log, as far as it was read. -/
structure PerformanceLog where
  /-- Errors of lists are reported. -/
  strict : Bool
  payloads : List Json

namespace PerformanceLog

/-- Nothing was read yet. -/
def start (strict : Bool) : PerformanceLog := ⟨strict, []⟩

/-- The log with more payloads. -/
def add (l : PerformanceLog) (vs : List Json) : PerformanceLog :=
  { l with payloads := l.payloads ++ vs }

/-- The log behind a list of payloads. -/
def list (l : PerformanceLog) (data : String) : PerformanceLog × Option LineError :=
  match Performance.list? data with
  | none => (l, if l.strict then some (@LineError.badJson data) else none)
  | some vs =>
    if l.strict then (l.add (Performance.untilFault vs).1, (Performance.untilFault vs).2)
    else (l.add (vs.filter Performance.isValid), none)

/-- The log behind a line, and the error it reports. -/
def line (l : PerformanceLog) (text : String) : PerformanceLog × Option LineError :=
  match Found.ofLine text with
  | .nothing => (l, none)
  | .payload data => (l.add (Performance.payload? data).toOption.toList, none)
  | .list data => l.list data

/-- The data found so far. -/
def data (l : PerformanceLog) (logUrl : String) : PerformanceData := ⟨logUrl, l.payloads⟩

end PerformanceLog
end JobLog
