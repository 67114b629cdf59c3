import JobLog.Decimal.Shortest

/-!
# JSON values

* `Number` keeps whole numbers apart from doubles, as the written form does.
* `Json` is a value. The fields of an object stand in the order of their keys, without repeats,
  once the value is `canonical`; a value just read from a text may still hold repeats.
* `Json.write` is the compact form, `Json.pretty` the indented one.
-/

namespace JobLog

/-- A JSON number. -/
inductive Number
  | int (n : Int)
  | float (x : Double)
  deriving DecidableEq

/-- The nearest double; an integer that is too large for any has none. -/
def Number.toDouble? : Number → Option Double
  | .int n => Double.ofInt? n
  | .float x => some x

/-- A JSON value. -/
inductive Json
  | null
  | bool (b : Bool)
  | num (n : Number)
  | str (s : String)
  | arr (items : List Json)
  | obj (fields : List (String × Json))

namespace Json

/-- The fields of an object. -/
abbrev Fields := List (String × Json)

/-- Sets a field, keeping the fields in the order of their keys. -/
def Fields.insert (key : String) (value : Json) : Fields → Fields
  | [] => [(key, value)]
  | (k, v) :: rest =>
    if key < k then (key, value) :: (k, v) :: rest
    else if key = k then (key, value) :: rest
    else (k, v) :: Fields.insert key value rest

/-- Sets the fields one after the other, so that of repeated keys the last one stays. -/
def Fields.ofList (fields : Fields) : Fields :=
  fields.foldl (fun done f => Fields.insert f.1 f.2 done) []

/-- Removes a field. -/
def Fields.erase (key : String) (fields : Fields) : Fields := fields.filter (·.1 ≠ key)

/-- The value of a field. -/
def Fields.get? (key : String) (fields : Fields) : Option Json := fields.lookup key

/-- The object with the given fields. -/
def ofFields (fields : Fields) : Json := .obj (Fields.ofList fields)

/-- A text or null. -/
def ofString? : Option String → Json
  | none => .null
  | some s => .str s

/-- A natural number. -/
def ofNat (n : Nat) : Json := .num (.int n)

mutual

/-- The value with the fields of all objects in order and without repeats. -/
def canonical : Json → Json
  | .arr items => .arr (canonicalItems items)
  | .obj fields => .obj (Fields.ofList (canonicalFields fields))
  | v => v

/-- The values, each with its objects in order. -/
def canonicalItems : List Json → List Json
  | [] => []
  | v :: vs => v.canonical :: canonicalItems vs

/-- The fields, the objects of each value in order. -/
def canonicalFields : List (String × Json) → List (String × Json)
  | [] => []
  | (k, v) :: fs => (k, v.canonical) :: canonicalFields fs

end

/-! ### Writing -/

/-- The decimal text of a number. -/
def writeNumber : Number → List Char
  | .int n => (if n < 0 then ['-'] else []) ++ Text.decimal n.natAbs
  | .float x => x.write

/-- A character inside a JSON string. -/
def writeChar (c : Char) : List Char :=
  match c with
  | '"' => ['\\', '"']
  | '\\' => ['\\', '\\']
  | '\n' => ['\\', 'n']
  | '\r' => ['\\', 'r']
  | '\t' => ['\\', 't']
  | '\x08' => ['\\', 'b']
  | '\x0c' => ['\\', 'f']
  | c =>
    if c.toNat < 0x20 then
      ['\\', 'u'] ++ Text.zeroPadded 4 (Nat.toDigits 16 c.toNat)
    else [c]

/-- A JSON string. -/
def writeString (s : String) : List Char := '"' :: s.toList.flatMap writeChar ++ ['"']

/-- How the parts of a value are set apart. -/
structure Layout where
  /-- The depth of the value. -/
  depth : Nat
  /-- Each part has a line of its own. -/
  pretty : Bool

/-- The layout inside a container. -/
def Layout.inner (l : Layout) : Layout := ⟨l.depth + 1, l.pretty⟩

/-- A new line with its indentation, in a pretty layout. -/
def Layout.newLine (l : Layout) : List Char :=
  if l.pretty then '\n' :: List.replicate (2 * l.depth) ' ' else []

/-- What stands between a key and its value. -/
def Layout.colon (l : Layout) : List Char := if l.pretty then [':', ' '] else [':']

mutual

/-- The written form in a layout. -/
def writeIn (l : Layout) : Json → List Char
  | .null => ['n', 'u', 'l', 'l']
  | .bool true => ['t', 'r', 'u', 'e']
  | .bool false => ['f', 'a', 'l', 's', 'e']
  | .num n => writeNumber n
  | .str s => writeString s
  | .arr [] => ['[', ']']
  | .arr (v :: vs) =>
    '[' :: l.inner.newLine ++ v.writeIn l.inner ++ writeItems l.inner vs ++ l.newLine ++ [']']
  | .obj [] => ['\x7b', '\x7d']
  | .obj ((k, v) :: fs) =>
    '\x7b' :: l.inner.newLine ++ writeString k ++ l.colon ++ v.writeIn l.inner
      ++ writeFields l.inner fs ++ l.newLine ++ ['\x7d']

/-- The items behind the first one. -/
def writeItems (l : Layout) : List Json → List Char
  | [] => []
  | v :: vs => ',' :: l.newLine ++ v.writeIn l ++ writeItems l vs

/-- The fields behind the first one. -/
def writeFields (l : Layout) : List (String × Json) → List Char
  | [] => []
  | (k, v) :: fs =>
    ',' :: l.newLine ++ writeString k ++ l.colon ++ v.writeIn l ++ writeFields l fs

end

/-- The form without white space. -/
def write (v : Json) : String := String.ofList (v.writeIn ⟨0, false⟩)

/-- The form with one part a line, two spaces for each level. -/
def pretty (v : Json) : String := String.ofList (v.writeIn ⟨0, true⟩)

end Json
end JobLog
