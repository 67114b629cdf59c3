import JobLog.Failure.Action
import JobLog.Json.Written

/-!
# Failure records

A line of an error summary is a JSON object with an action. A record of a known action is decoded;
one of another action is kept as it is, apart from its line numbers.

* `FailureLine.ofLine?` reads a record from a line of a log.
* `FailureLine.ofJson?` reads a record from its own JSON.
-/

namespace JobLog

/-- A failure record, known or kept as it is. -/
inductive FailureRecord
  | known (action : Action)
  /-- The fields of a record of another action. -/
  | other (fields : Json.Fields)

/-- A failure record and the number of its line. -/
structure FailureLine where
  line : Nat
  record : FailureRecord

namespace FailureLine

/-- The fields of a record. -/
def recordFields : FailureRecord → Json.Fields
  | .known action => action.tagged
  | .other fields => fields

/-- The JSON of a record with the number of its line. -/
def toJson (l : FailureLine) : Json :=
  .obj (Json.Fields.insert "line_number" (.ofNat l.line) (recordFields l.record))

/-- The record that stands for those left out. -/
def truncated (line : Nat) : FailureLine := ⟨line, .known .truncated⟩

/-- The action, if it is a known one. -/
def action? (l : FailureLine) : Option Action :=
  match l.record with
  | .known action => some action
  | .other _ => none

/-- The line number that an object gives, or else the position of its line. -/
def lineOf (position : Nat) (fields : Json.Fields) : Nat :=
  ((fields.get? "line").bind Json.natural?).getD position

/-- The text in lower case, as far as it is ASCII. -/
def lower (s : String) : String := String.ofList (s.toList.map Char.toLower)

/-- The record of an object with the given action, if it is well formed and may be stored. -/
def recordOf? (action : String) (fields : Json.Fields) : Option FailureRecord :=
  if Action.names.contains (lower action) then
    match Action.ofFields? (lower action) (.obj (Json.Fields.erase "action" fields)) with
    | some a => if a.isValid then some (.known a) else none
    | none => none
  else some (.other (Json.Fields.erase "line" (Json.Fields.erase "line_number" fields)))

/-- The record of an object at a position. -/
def ofFields? (position : Nat) (fields : Json.Fields) : Option FailureLine := do
  let action ← (fields.get? "action").bind Json.text?
  let record ← recordOf? action fields
  some ⟨lineOf position fields, record⟩

/-- The record that a line of a log holds. -/
def ofLine? (line : String) (position : Nat) : Option FailureLine :=
  match Json.ofText? line with
  | some (.obj fields) => ofFields? position fields
  | _ => none

/-- Reads a record from its own JSON. -/
def ofJson? : Json → Option FailureLine
  | .obj fields =>
    match fields.filter (·.1 = "line_number") with
    | [(_, v)] => do
      let line ← v.natural?
      let rest := Json.Fields.erase "line_number" fields
      let record := match Action.ofTagged? Action.kindByNameOrPlace? (.obj rest) with
        | some action => .known action
        | none => .other (Json.Fields.ofList (Json.canonicalFields rest))
      some ⟨line, record⟩
    | _ => none
  | _ => none

end FailureLine
end JobLog
