import JobLog.Json.Token

/-!
# Values as they are written

A JSON text is read in two steps. The first one checks the grammar and gives the `Written` value,
where numbers out of range and unsound strings stand without a value and objects keep the order
and the repeats of their keys. The second one takes what is used of it: `Written.value?` all,
`Written.shaped?` only the fields that a shape names.

* `Reading` is the state of a reader between two tokens.
* `Written.ofText?` is the first step.
* `Json.ofText?` is the whole value of a text.
-/

namespace JobLog.Json

/-- A value as it is written. -/
inductive Written
  | null
  | bool (b : Bool)
  /-- A number; one out of range has no value. -/
  | num (n : Option Number)
  /-- A string; an unsound one has no value. -/
  | str (s : Option String)
  | arr (items : List Written)
  | obj (fields : List (Option String × Written))

/-! ### The grammar -/

/-- A container that is not finished, around the value that is read; its parts so far stand in
reverse order. -/
inductive Frame
  | list (items : List Written)
  | object (fields : List (Option String × Written)) (key : Option String)

/-- What a reader expects between two tokens. -/
inductive Reading
  /-- A value. -/
  | value (frames : List Frame)
  /-- A value or the end of the empty list. -/
  | firstItem (frames : List Frame)
  /-- A key or the end of the empty object. -/
  | firstKey (frames : List Frame)
  /-- A key. -/
  | key (fields : List (Option String × Written)) (frames : List Frame)
  /-- A colon behind the key. -/
  | colon (fields : List (Option String × Written)) (key : Option String) (frames : List Frame)
  /-- What may stand behind the value. -/
  | behind (v : Written) (frames : List Frame)

namespace Reading

/-- The reader behind the first token of a value. -/
def ofValue? (frames : List Frame) : Token → Option Reading
  | .null => some (.behind .null frames)
  | .bool b => some (.behind (.bool b) frames)
  | .num n => some (.behind (.num n) frames)
  | .str s => some (.behind (.str s) frames)
  | .openList => some (.firstItem frames)
  | .openObject => some (.firstKey frames)
  | _ => none

/-- The reader behind the token that follows a value. -/
def ofBehind? (v : Written) : List Frame → Token → Option Reading
  | .list items :: frames, .comma => some (.value (.list (v :: items) :: frames))
  | .list items :: frames, .closeList => some (.behind (.arr (v :: items).reverse) frames)
  | .object fields k :: frames, .comma => some (.key ((k, v) :: fields) frames)
  | .object fields k :: frames, .closeObject =>
    some (.behind (.obj ((k, v) :: fields).reverse) frames)
  | _, _ => none

/-- The reader behind one more token. -/
def after? : Reading → Token → Option Reading
  | .value frames, t => ofValue? frames t
  | .firstItem frames, .closeList => some (.behind (.arr []) frames)
  | .firstItem frames, t => ofValue? (.list [] :: frames) t
  | .firstKey frames, .closeObject => some (.behind (.obj []) frames)
  | .firstKey frames, .str k => some (.colon [] k frames)
  | .key fields frames, .str k => some (.colon fields k frames)
  | .colon fields k frames, .colon => some (.value (.object fields k :: frames))
  | .behind v frames, t => ofBehind? v frames t
  | _, _ => none

/-- The value behind all tokens, if it is complete. -/
def value? : Reading → List Token → Option Written
  | .behind v [], [] => some v
  | _, [] => none
  | r, t :: ts => (r.after? t).bind (·.value? ts)

end Reading

/-- The value of a text, if the text follows the grammar. -/
def Written.ofText? (s : List Char) : Option Written :=
  (tokens? s).bind (Reading.value []).value?

/-! ### The value -/

/-- The number of containers that may stand inside each other. -/
def maxDepth : Nat := 127

mutual

/-- The whole value, at most `room` containers deep. -/
def Written.value? (room : Nat) : Written → Option Json
  | .null => some .null
  | .bool b => some (.bool b)
  | .num n => n.map .num
  | .str s => s.map .str
  | .arr items => if room = 0 then none else (itemValues? (room - 1) items).map .arr
  | .obj fields => if room = 0 then none else (fieldValues? (room - 1) fields).map .obj

/-- The values of the items. -/
def itemValues? (room : Nat) : List Written → Option (List Json)
  | [] => some []
  | w :: ws => do
    let v ← w.value? room
    let vs ← itemValues? room ws
    some (v :: vs)

/-- The fields, each with its value. -/
def fieldValues? (room : Nat) : List (Option String × Written) → Option Fields
  | [] => some []
  | (k, w) :: ws => do
    let k ← k
    let v ← w.value? room
    let vs ← fieldValues? room ws
    some ((k, v) :: vs)

end

/-- What is used of a value. -/
inductive Shape
  /-- Everything. -/
  | whole
  /-- Of each item of a list this much. -/
  | list (item : Shape)
  /-- These fields of an object, or the items of a list in their place. -/
  | record (fields : List (String × Shape))

mutual

/-- The value without the fields that the shape does not name; what is left out is not checked. -/
def Written.shaped? (room : Nat) (shape : Shape) : Written → Option Json
  | .null => some .null
  | .bool b => some (.bool b)
  | .num n => n.map .num
  | .str s => s.map .str
  | .arr items =>
    if room = 0 then none
    else
      match shape with
      | .whole => (itemValues? (room - 1) items).map .arr
      | .list item => (shapedItems? (room - 1) (List.replicate items.length item) items).map .arr
      | .record fields => (shapedItems? (room - 1) (fields.map (·.2)) items).map .arr
  | .obj fields =>
    if room = 0 then none
    else
      match shape with
      | .whole => (fieldValues? (room - 1) fields).map .obj
      | .list _ => none
      | .record named => (shapedFields? (room - 1) named fields).map .obj

/-- The items, each in its own shape. -/
def shapedItems? (room : Nat) (shapes : List Shape) : List Written → Option (List Json)
  | [] => some []
  | w :: ws =>
    match shapes with
    | [] => none
    | shape :: shapes => do
      let v ← w.shaped? room shape
      let vs ← shapedItems? room shapes ws
      some (v :: vs)

/-- The named fields, each in its own shape. -/
def shapedFields? (room : Nat) (named : List (String × Shape)) :
    List (Option String × Written) → Option Fields
  | [] => some []
  | (k, w) :: ws => do
    let k ← k
    match named.lookup k with
    | none => shapedFields? room named ws
    | some shape =>
      let v ← w.shaped? room shape
      let vs ← shapedFields? room named ws
      some ((k, v) :: vs)

end

end Json

/-- The value of a text; of repeated keys the last one stays. -/
def Json.ofText? (s : String) : Option Json :=
  ((Json.Written.ofText? s.toList).bind (·.value? Json.maxDepth)).map Json.canonical

/-- The part of a value that the shape names; repeated keys are kept. -/
def Json.ofTextIn? (shape : Json.Shape) (s : String) : Option Json :=
  (Json.Written.ofText? s.toList).bind (·.shaped? Json.maxDepth shape)

end JobLog
