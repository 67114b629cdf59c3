import JobLog.Json.Record
import JobLog.Text.Quoted

/-!
# The schema of performance payloads

A payload is a record of a framework and of suites with subtests. It is checked in two steps: the
types first, then that names are not empty and values are there. Each step tells the first fault it
finds; the fields of an object are visited in the order of their keys.

* `Rule` says what a value of a type must be, `payloadRule` is the type of a payload.
* `Payload.ofJson?` reads a payload, `Payload.fault?` checks it.
* `Performance.fault?` is the first fault of a value.
-/

namespace JobLog.Performance

/-- What is wrong with a payload. -/
inductive Fault
  | wrongType (found : Json) (expected : String)
  | missingField (name : String)
  /-- A list of so many items is too short for a record. -/
  | tooShort (length : Nat) (type : String) (size : Nat)
  /-- A list of so many items is too long for a record. -/
  | tooLong (length : Nat)
  | emptyFrameworkName
  | noSuites
  | emptySuiteName
  | emptySubtestName (suite : String)
  | missingValue (suite subtest : String)

/-- The description of a value in a message. -/
def describe : Json → String
  | .null => "null"
  | .bool b => s!"boolean `{b}`"
  | .num (.int n) => s!"integer `{n}`"
  | .num (.float x) => "floating point `" ++ String.ofList x.write ++ "`"
  | .str s => "string " ++ Text.quoted s
  | .arr _ => "sequence"
  | .obj _ => "map"

/-- The message of a fault. -/
def Fault.message : Fault → String
  | .wrongType found expected => s!"invalid type: {describe found}, expected {expected}"
  | .missingField name => s!"missing field `{name}`"
  | .tooShort length type size =>
    let elements := if size = 1 then "element" else "elements"
    s!"invalid length {length}, expected struct {type} with {size} {elements}"
  | .tooLong length => s!"invalid length {length}, expected fewer elements in array"
  | .emptyFrameworkName => "empty framework name"
  | .noSuites => "no suites"
  | .emptySuiteName => "empty suite name"
  | .emptySubtestName suite => s!"{suite}: empty subtest name"
  | .missingValue suite subtest => s!"{suite}/{subtest}: missing value"

/-! ### Types -/

/-- The first fault in the type of a value. -/
abbrev Rule := Json → Option Fault

/-- A field of a record. -/
structure FieldRule where
  name : String
  required : Bool
  rule : Rule

namespace Rule

/-- A text. -/
def text : Rule
  | .str _ => none
  | v => some (.wrongType v "a string")

/-- A number. -/
def number : Rule
  | .num _ => none
  | v => some (.wrongType v "f64")

/-- A value or null. -/
def nullable (rule : Rule) : Rule
  | .null => none
  | v => rule v

/-- A list. -/
def list (item : Rule) : Rule
  | .arr items => items.findSome? item
  | v => some (.wrongType v "a sequence")

/-- The fault of a field of an object. -/
def ofField (fields : List FieldRule) (field : String × Json) : Option Fault :=
  (fields.find? (·.name = field.1)).bind (·.rule field.2)

/-- The fault of an object that lacks a field. -/
def missing (fields : List FieldRule) (present : Json.Fields) : Option Fault :=
  (fields.find? fun f => f.required && (present.get? f.name).isNone).map (.missingField ·.name)

/-- The fault of a list that is too short or too long for a record. -/
def length (type : String) (fields : List FieldRule) (count : Nat) : Option Fault :=
  match (fields.drop count).findIdx? (·.required) with
  | some i => some (.tooShort (count + i) type fields.length)
  | none => if fields.length < count then some (.tooLong count) else none

/-- A record, as an object or as the list of its fields. -/
def record (type : String) (fields : List FieldRule) : Rule
  | .obj present => (present.findSome? (ofField fields)).or (missing fields present)
  | .arr items =>
    ((fields.zip items).findSome? fun (f, v) => f.rule v).or (length type fields items.length)
  | v => some (.wrongType v s!"struct {type}")

end Rule

/-- The type of a framework. -/
def frameworkRule : Rule := .record "Framework" [⟨"name", true, .text⟩]

/-- The type of a subtest. -/
def subtestRule : Rule := .record "Subtest" [
  ⟨"name", true, .text⟩,
  ⟨"value", false, .nullable .number⟩,
  ⟨"replicates", false, .nullable (.list .number)⟩]

/-- The type of a suite. -/
def suiteRule : Rule :=
  .record "Suite" [⟨"name", true, .text⟩, ⟨"subtests", true, .list subtestRule⟩]

/-- The type of a payload. -/
def payloadRule : Rule := .record "PerfherderPayload" [
  ⟨"framework", true, frameworkRule⟩, ⟨"suites", true, .list suiteRule⟩]

/-! ### Contents -/

/-- A subtest. -/
structure Subtest where
  name : String
  value? : Option Number
  replicates? : Option (List Number)

/-- A suite. -/
structure Suite where
  name : String
  subtests : List Subtest

/-- A payload, as far as the schema goes. -/
structure Payload where
  framework : String
  suites : List Suite

/-- Reads a number. -/
def number? : Json → Option Number
  | .num n => some n
  | _ => none

/-- Reads a subtest. -/
def Subtest.ofJson? (v : Json) : Option Subtest := do
  let r ← v.record? ["name", "value", "replicates"]
  let name ← r.required? "name" Json.text?
  let value? ← r.lenient? "value" number?
  let replicates? ← r.lenient? "replicates" (Json.list? number?)
  some ⟨name, value?, replicates?⟩

/-- Reads a suite. -/
def Suite.ofJson? (v : Json) : Option Suite := do
  let r ← v.record? ["name", "subtests"]
  let name ← r.required? "name" Json.text?
  let subtests ← r.required? "subtests" (Json.list? Subtest.ofJson?)
  some ⟨name, subtests⟩

/-- Reads the name of a framework. -/
def frameworkOfJson? (v : Json) : Option String := do
  let r ← v.record? ["name"]
  r.required? "name" Json.text?

/-- Reads a payload. -/
def Payload.ofJson? (v : Json) : Option Payload := do
  let r ← v.record? ["framework", "suites"]
  let framework ← r.required? "framework" frameworkOfJson?
  let suites ← r.required? "suites" (Json.list? Suite.ofJson?)
  some ⟨framework, suites⟩

/-- The fault in the contents of a subtest. -/
def Subtest.fault? (suite : String) (t : Subtest) : Option Fault :=
  if t.name.isEmpty then some (.emptySubtestName suite)
  else if t.value?.isNone && t.replicates?.isNone then some (.missingValue suite t.name)
  else none

/-- The first fault in the contents of a suite. -/
def Suite.fault? (s : Suite) : Option Fault :=
  if s.name.isEmpty then some .emptySuiteName else s.subtests.findSome? (Subtest.fault? s.name)

/-- The first fault in the contents of a payload. -/
def Payload.fault? (p : Payload) : Option Fault :=
  if p.framework.isEmpty then some .emptyFrameworkName
  else if p.suites.isEmpty then some .noSuites
  else p.suites.findSome? Suite.fault?

/-- The first fault of a value. -/
def fault? (v : Json) : Option Fault := (payloadRule v).or ((Payload.ofJson? v).bind Payload.fault?)

/-- The value follows the schema. -/
def isValid (v : Json) : Bool := (fault? v).isNone

end JobLog.Performance
