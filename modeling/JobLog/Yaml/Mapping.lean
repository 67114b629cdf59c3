import JobLog.Yaml.Scalar

/-!
# Flat YAML documents

A document that maps keys to scalars, in block or in flow style, with comments, anchors and
aliases, tags and markers of the document's start and end. Every other document is refused.

* `Yaml.mapping?` are the keys and values of a document, in order and with repeats.
-/

namespace JobLog.Yaml

/-- Keys with their values. -/
abbrev Entries := List (List Char × Scalar)

/-- The lines of a text; a carriage return ends a line as well. -/
def breakLines (line : List Char) : List Char → List (List Char)
  | [] => [line.reverse]
  | '\r' :: '\n' :: s => line.reverse :: breakLines [] s
  | '\r' :: s => line.reverse :: breakLines [] s
  | '\n' :: s => line.reverse :: breakLines [] s
  | c :: s => breakLines (c :: line) s

/-- The lines as one text. -/
def joinLines (lines : List (List Char)) : List Char := ['\n'].intercalate lines

/-- A character that may stand in a document. -/
def isPrintable (c : Char) : Bool :=
  let n := c.toNat
  n = 9 || n = 10 || n = 13 || (0x20 ≤ n && n ≤ 0x7E) || n = 0x85
    || (0xA0 ≤ n && n ≤ 0xFFFD && n ≠ 0xFEFF) || 0x10000 ≤ n

/-- The line is a marker of the document. -/
def isMarker (mark : List Char) (line : List Char) : Bool :=
  mark.isPrefixOf line && ((line.drop mark.length).head?.all isSpace)

/-- The line has nothing but white space and a comment. -/
def isIdle (line : List Char) : Bool := line.head? ≠ some '\t' && isRest line

/-! ### Values -/

/-- The properties in front of a value. -/
structure Properties where
  anchor? : Option (List Char)
  tag? : Option (List Char)

/-- Reads the properties in front of a value, at most `fuel` of them. -/
def properties (p : Properties) : Nat → List Char → Properties × List Char
  | 0, s => (p, s)
  | fuel + 1, s =>
    match dropSpaces s with
    | '&' :: r => properties { p with anchor? := some (word r) } fuel (r.drop (word r).length)
    | '!' :: r => properties { p with tag? := some (word r) } fuel (r.drop (word r).length)
    | r => (p, r)
where
  /-- The characters up to white space or a mark of a flow. -/
  word (s : List Char) : List Char := s.takeWhile fun c => !(isSpace c || ",[]{}".toList.contains c)

/-- A value that was read. -/
structure Value where
  scalar : Scalar
  anchor? : Option (List Char)
  /-- The lines behind the value. -/
  rest : List (List Char)

/-- Reads a value that starts in a line; the key stands at `column`. -/
def valueIn? (column : Nat) (anchors : Entries) (p : Properties) (first : List Char)
    (lines : List (List Char)) : Option Value :=
  match first with
  | '*' :: r => do
    let name := properties.word r
    let scalar ← anchors.lookup name
    if isRest (r.drop name.length) then some ⟨scalar, p.anchor?, lines⟩ else none
  | '|' :: r =>
    (block? true column r lines).map fun (t, rest) => ⟨⟨t, false, p.tag?⟩, p.anchor?, rest⟩
  | '>' :: r =>
    (block? false column r lines).map fun (t, rest) => ⟨⟨t, false, p.tag?⟩, p.anchor?, rest⟩
  | c :: _ =>
    if c = '"' ∨ c = '\'' then do
      let (t, behind) ← quoted? (joinLines (first :: lines))
      match breakLines [] behind with
      | [] => none
      | here :: rest => if isRest here then some ⟨⟨t, false, p.tag?⟩, p.anchor?, rest⟩ else none
    else
      (plain? column first lines).map fun (t, rest) => ⟨⟨t, true, p.tag?⟩, p.anchor?, rest⟩
  | [] => none

/-- Reads a value from behind a colon; it may start on a later line that stands deeper. -/
def value? (column : Nat) (anchors : Entries) (first : List Char) (lines : List (List Char)) :
    Option Value :=
  let (p, s) := properties ⟨none, none⟩ first.length first
  if !isRest s then valueIn? column anchors p s lines
  else
    match lines.dropWhile isIdle with
    | [] => some ⟨⟨[], true, p.tag?⟩, p.anchor?, []⟩
    | line :: rest =>
      if indentOf line ≤ column then some ⟨⟨[], true, p.tag?⟩, p.anchor?, line :: rest⟩
      else
        let (p, s) := properties p line.length line
        valueIn? column anchors p s rest

/-! ### Block style -/

/-- Reads the key of a line; gives what stands behind its colon. -/
def key? (s : List Char) : Option (List Char × List Char) :=
  match quoted? s with
  | some (k, r) => colon? k (dropSpaces r)
  | none =>
    let k := plainKey s
    colon? (dropSpacesEnd k) (s.drop k.length)
where
  /-- Takes a colon that white space or the end of the line follows. -/
  colon? (k : List Char) : List Char → Option (List Char × List Char)
    | ':' :: r => if r.head?.all isSpace then some (k, r) else none
    | _ => none
  /-- The text up to a colon that ends a key. -/
  plainKey : List Char → List Char
    | [] => []
    | [c] => if c = ':' then [] else [c]
    | c :: d :: s => if c = ':' && isSpace d then [] else c :: plainKey (d :: s)

/-- Reads the entries that stand at `column`, at most `fuel` of them. -/
def blockEntries? (column : Nat) (anchors done : Entries) :
    Nat → List (List Char) → Option Entries
  | 0, _ => none
  | fuel + 1, lines =>
    match lines.dropWhile isIdle with
    | [] => some done
    | line :: rest =>
      if isMarker "...".toList line then
        if rest.all isIdle then some done else none
      else if isMarker "---".toList line || indentOf line ≠ column then none
      else
        match key? (line.drop column) with
        | none => none
        | some (k, s) =>
          match value? column anchors s rest with
          | none => none
          | some v =>
            let anchors := match v.anchor? with
              | some name => (name, v.scalar) :: anchors
              | none => anchors
            blockEntries? column anchors (done ++ [(k, v.scalar)]) fuel v.rest

/-! ### Flow style -/

/-- Drops white space, line breaks and comments; `fuel` bounds their number. -/
def dropFlow : Nat → List Char → List Char
  | 0, s => s
  | fuel + 1, s =>
    match s with
    | '#' :: r => dropFlow fuel (r.dropWhile (· ≠ '\n'))
    | c :: r => if isSpace c || c = '\n' then dropFlow fuel r else s
    | [] => []

/-- A plain scalar in a flow, `done` being read already, in reverse order. -/
def flowPlain (done : List Char) : List Char → List Char × List Char
  | [] => (done.reverse, [])
  | c :: s =>
    let stops := ",[]{}\n".toList.contains c
      || (c = ':' && s.head?.all fun d => isSpace d || ",[]{}\n".toList.contains d)
      || (c = '#' && done.head?.any isSpace)
    if stops then (dropSpacesEnd done.reverse, c :: s) else flowPlain (c :: done) s

/-- Reads a scalar in a flow; it may be missing. -/
def flowScalar? (s : List Char) : Option (Scalar × List Char) :=
  let (p, s) := properties ⟨none, none⟩ s.length s
  match s with
  | [] => none
  | c :: _ =>
    if c = '"' ∨ c = '\'' then (quoted? s).map fun (t, r) => (⟨t, false, p.tag?⟩, r)
    else if c = ',' ∨ c = '}' ∨ c = ':' then some (⟨[], true, p.tag?⟩, s)
    else if startsPlain s then
      let (t, r) := flowPlain [] s
      some (⟨t, true, p.tag?⟩, r)
    else none

/-- Reads the entries of a flow, from behind its bracket or a comma; gives what stands behind it. -/
def flowEntries? (done : Entries) : Nat → List Char → Option (Entries × List Char)
  | 0, _ => none
  | fuel + 1, s =>
    match dropFlow s.length s with
    | '}' :: r => some (done, r)
    | s => do
      let (k, s) ← flowScalar? s
      match dropFlow s.length s with
      | ':' :: r => do
        let (v, s) ← flowScalar? (dropFlow r.length r)
        behind? (done ++ [(k.text, v)]) fuel (dropFlow s.length s)
      | s => behind? (done ++ [(k.text, .empty)]) fuel s
where
  /-- Goes on behind an entry. -/
  behind? (done : Entries) (fuel : Nat) : List Char → Option (Entries × List Char)
    | ',' :: r => flowEntries? done fuel r
    | '}' :: r => some (done, r)
    | _ => none

/-- Reads a flow from behind its bracket to the end of the document. -/
def flow? (s : List Char) : Option Entries := do
  let (entries, r) ← flowEntries? [] (s.length + 1) s
  match breakLines [] r with
  | [] => some entries
  | here :: lines =>
    let lines := lines.dropWhile isIdle
    let ends := match lines with
      | [] => true
      | line :: rest => isMarker "...".toList line && rest.all isIdle
    if isRest here && ends then some entries else none

/-! ### Documents -/

/-- Reads the content of a document. -/
def content? (lines : List (List Char)) : Option Entries :=
  match lines.dropWhile isIdle with
  | [] => some []
  | line :: rest =>
    match dropSpaces line with
    | '\x7b' :: r => flow? (joinLines (r :: rest))
    | _ => blockEntries? (indentOf line) [] [] (rest.length + 2) (line :: rest)

/-- Reads a document from its start marker. -/
def marked? (line : List Char) (rest : List (List Char)) : Option Entries :=
  let behind := dropSpaces (line.drop 3)
  if isRest behind then content? rest
  else
    match behind with
    | '\x7b' :: r => flow? (joinLines (r :: rest))
    | _ => none

/-- The line declares a version of the language that is known. -/
def isVersion (line : List Char) : Bool :=
  match "%YAML ".toList.isPrefixOf line, dropSpaces (line.drop 6) with
  | true, '1' :: '.' :: c :: r => (c = '1' || c = '2') && isRest r
  | _, _ => false

/-- The entries of a document, if it is a flat mapping. -/
def mapping? (s : List Char) : Option Entries :=
  let s := if s.head? = some '\uFEFF' then s.drop 1 else s
  if !s.all isPrintable then none
  else
    match (breakLines [] s).dropWhile isIdle with
    | [] => some []
    | line :: rest =>
      if isMarker "---".toList line then marked? line rest
      else if isVersion line then
        match rest.dropWhile isIdle with
        | line :: rest => if isMarker "---".toList line then marked? line rest else none
        | [] => none
      else content? (line :: rest)

end JobLog.Yaml
