import JobLog.Json.Basic

/-!
# Records in JSON

A record is written as an object or as the list of its fields in order. Fields of an object that
the record does not have are passed over; a field it has must not stand there twice. A list must
not be longer than the record.

* `Json.record?` gives the fields of a record by name.
* `Fields.required?`, `Fields.optional?` and `Fields.default?` read a field.
* The other readers are for the values of fields.
-/

namespace JobLog.Json

/-- The fields of a record that are present. -/
structure Record where
  fields : Fields
  /-- The record was written as a list. -/
  positional : Bool

/-- No key stands there twice. -/
def Fields.distinct : Fields → Bool
  | [] => true
  | (k, _) :: rest => !rest.any (·.1 == k) && Fields.distinct rest

/-- The record with the given names of fields, in order. -/
def record? (names : List String) : Json → Option Record
  | .obj fields =>
    let known := fields.filter fun f => names.contains f.1
    if Fields.distinct known then some ⟨known, false⟩ else none
  | .arr items => if items.length ≤ names.length then some ⟨names.zip items, true⟩ else none
  | _ => none

namespace Record

variable {α : Type}

/-- The value of a field that must be present. -/
def required? (r : Record) (name : String) (read? : Json → Option α) : Option α :=
  (r.fields.get? name).bind read?

/-- The value of a field that takes the given value where it is missing. -/
def default? (r : Record) (name : String) (missing : α) (read? : Json → Option α) : Option α :=
  match r.fields.get? name with
  | none => some missing
  | some v => read? v

end Record

/-! ### Values of fields -/

variable {α : Type}

/-- A value or null. -/
def nullable? (read? : Json → Option α) : Json → Option (Option α)
  | .null => some none
  | v => (read? v).map some

/-- The value of a field that may be null, and missing from an object. -/
def Record.optional? (r : Record) (name : String) (read? : Json → Option α) : Option (Option α) :=
  if r.positional then r.required? name (nullable? read?)
  else r.default? name none (nullable? read?)

/-- The value of a field that may be null or missing. -/
def Record.lenient? (r : Record) (name : String) (read? : Json → Option α) : Option (Option α) :=
  r.default? name none (nullable? read?)

/-- A text. -/
def text? : Json → Option String
  | .str s => some s
  | _ => none

/-- A truth value. -/
def bool? : Json → Option Bool
  | .bool b => some b
  | _ => none

/-- A natural number. -/
def natural? : Json → Option Nat
  | .num (.int n) => if 0 ≤ n then some n.toNat else none
  | _ => none

/-- A number as a double. -/
def double? : Json → Option Double
  | .num n => n.toDouble?
  | _ => none

/-- A list. -/
def list? (read? : Json → Option α) : Json → Option (List α)
  | .arr items => items.mapM read?
  | _ => none

/-- One of the named values: its name, or an object of the name and null. -/
def variant? (values : List (String × α)) : Json → Option α
  | .str name => values.lookup name
  | .obj [(name, .null)] => values.lookup name
  | _ => none

end JobLog.Json
