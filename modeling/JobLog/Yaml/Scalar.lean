import JobLog.Text.Digit

/-!
# Scalars in YAML

A scalar is plain, quoted or a block of lines. Where a scalar goes on over several lines, a single
line break counts as a space and each empty line as a line break.

* `quoted?` reads a quoted scalar, `plain?` a plain one.
* `block?` reads a block.
-/

namespace JobLog.Yaml

/-- A scalar. -/
structure Scalar where
  text : List Char
  /-- It stands without quotes and is no block. -/
  plain : Bool
  tag? : Option (List Char)
  deriving DecidableEq

/-- A scalar that is not there. -/
def Scalar.empty : Scalar := ⟨[], true, none⟩

/-- White space inside a line. -/
def isSpace (c : Char) : Bool := c == ' ' || c == '\t'

/-- The text without white space in front. -/
def dropSpaces (s : List Char) : List Char := s.dropWhile isSpace

/-- The text without white space at its end. -/
def dropSpacesEnd (s : List Char) : List Char := (s.reverse.dropWhile isSpace).reverse

/-- Nothing but a comment is left of a line. -/
def isRest (s : List Char) : Bool :=
  match dropSpaces s with
  | [] => true
  | c :: _ => c == '#'

/-- The number of spaces in front of a line. -/
def indentOf (line : List Char) : Nat := (line.takeWhile (· == ' ')).length

/-- What stands between two parts of a scalar with so many empty lines between them. -/
def foldBreaks (empty : Nat) : List Char :=
  if empty = 0 then [' '] else List.replicate empty '\n'

/-! ### Quoted scalars -/

/-- The character of an escape sequence of one letter. -/
def escapeOf? : Char → Option Char
  | '0' => some '\x00'
  | 'a' => some '\x07'
  | 'b' => some '\x08'
  | 't' => some '\t'
  | '\t' => some '\t'
  | 'n' => some '\n'
  | 'v' => some '\x0b'
  | 'f' => some '\x0c'
  | 'r' => some '\r'
  | 'e' => some '\x1b'
  | ' ' => some ' '
  | '"' => some '"'
  | '/' => some '/'
  | '\\' => some '\\'
  | 'N' => some '\u0085'
  | '_' => some '\u00a0'
  | 'L' => some '\u2028'
  | 'P' => some '\u2029'
  | _ => none

/-- The number of hexadecimal digits behind the letter of an escape sequence. -/
def escapeWidth? : Char → Option Nat
  | 'x' => some 2
  | 'u' => some 4
  | 'U' => some 8
  | _ => none

/-- The character of a number. -/
def charOf? (n : Nat) : Option Char := if n.isValidChar then some (Char.ofNat n) else none

/-- What a quoted scalar is in. -/
inductive QuotedState
  /-- In the text, behind some white space, the last of it first. -/
  | text (spaces : List Char)
  /-- Behind line breaks; the first one does not count where it was escaped. -/
  | breaks (count : Nat)
  /-- Behind a backslash. -/
  | escape
  /-- In hexadecimal digits: how many are missing and those read, the last one first. -/
  | hex (missing : Nat) (digits : List Char)
  /-- Behind a quote that may be the first of two. -/
  | closed

/-- The text so far with what a state adds to it before the next character; the text stands in
reverse order. -/
def QuotedState.flush (done : List Char) : QuotedState → List Char
  | .text spaces => spaces ++ done
  | .breaks 0 => done
  | .breaks (n + 1) => foldBreaks n ++ done
  | _ => done

/-- Reads a scalar in quotes, from behind the opening quote; gives the text and what is behind it.
`done` is read already, in reverse order. -/
def quotedFrom? (double : Bool) (done : List Char) : QuotedState → List Char →
    Option (List Char × List Char)
  | .closed, [] => some (done.reverse, [])
  | _, [] => none
  | .closed, c :: s =>
    if c = '\'' && !double then quotedFrom? double ('\'' :: done) (.text []) s
    else some (done.reverse, c :: s)
  | .escape, c :: s =>
    if c = '\n' then quotedFrom? double done (.breaks 0) s
    else
      match escapeOf? c, escapeWidth? c with
      | some d, _ => quotedFrom? double (d :: done) (.text []) s
      | none, some width => quotedFrom? double done (.hex width []) s
      | none, none => none
  | .hex missing digits, c :: s =>
    if missing ≤ 1 then
      match (Text.numberIn? 16 (c :: digits).reverse).bind charOf? with
      | some d => quotedFrom? double (d :: done) (.text []) s
      | none => none
    else quotedFrom? double done (.hex (missing - 1) (c :: digits)) s
  | .breaks n, c :: s =>
    if c = '\n' then quotedFrom? double done (.breaks (n + 1)) s
    else if isSpace c then quotedFrom? double done (.breaks n) s
    else quotedChar? double ((QuotedState.breaks n).flush done) c s
  | .text spaces, c :: s =>
    if c = '\n' then quotedFrom? double done (.breaks 1) s
    else if isSpace c then quotedFrom? double done (.text (c :: spaces)) s
    else quotedChar? double ((QuotedState.text spaces).flush done) c s
where
  /-- Goes on behind a character that is no white space. -/
  quotedChar? (double : Bool) (done : List Char) (c : Char) (s : List Char) :
      Option (List Char × List Char) :=
    if c = '"' && double then some (done.reverse, s)
    else if c = '\'' && !double then quotedFrom? double done .closed s
    else if c = '\\' && double then quotedFrom? double done .escape s
    else quotedFrom? double (c :: done) (.text []) s

/-- Reads a quoted scalar; gives the text and what is behind it. -/
def quoted? : List Char → Option (List Char × List Char)
  | '"' :: s => quotedFrom? true [] (.text []) s
  | '\'' :: s => quotedFrom? false [] (.text []) s
  | _ => none

/-! ### Plain scalars -/

/-- A text starts like a plain scalar. -/
def startsPlain : List Char → Bool
  | [] => false
  | c :: s =>
    if c = '-' || c = '?' || c = ':' then
      match s with
      | [] => false
      | d :: _ => !isSpace d
    else !",[]{}#&*!|>'\"%@`".toList.contains c

/-- A line of a plain scalar up to a comment, and whether there is one. -/
def plainCut (before : List Char) : List Char → List Char × Bool
  | [] => (dropSpacesEnd before.reverse, false)
  | c :: s =>
    if c = '#' && before.head?.any isSpace then (dropSpacesEnd before.reverse, true)
    else plainCut (c :: before) s

/-- A colon in the text makes a key of what stands before it. -/
def hasKey : List Char → Bool
  | [] => false
  | [c] => c == ':'
  | c :: d :: s => (c == ':' && isSpace d) || hasKey (d :: s)

/-- Goes on with a plain scalar over the lines that stand deeper than `column`; gives the text and
the lines behind it. -/
def plainMore? (column empty : Nat) (done : List Char) :
    List (List Char) → Option (List Char × List (List Char))
  | [] => some (done, [])
  | line :: lines =>
    if line.all isSpace then plainMore? column (empty + 1) done lines
    else if indentOf line ≤ column || (dropSpaces line).head? = some '#' then
      some (done, line :: lines)
    else
      let (part, comment) := plainCut [] (dropSpaces line)
      if hasKey part then none
      else if comment then some (done ++ foldBreaks empty ++ part, lines)
      else plainMore? column 0 (done ++ foldBreaks empty ++ part) lines

/-- Reads a plain scalar from its first line; gives the text and the lines behind it. -/
def plain? (column : Nat) (first : List Char) (lines : List (List Char)) :
    Option (List Char × List (List Char)) :=
  let (part, comment) := plainCut [] first
  if !startsPlain first || hasKey part then none
  else if comment then some (part, lines)
  else plainMore? column 0 part lines

/-! ### Blocks -/

/-- How a block ends: line breaks at its end are dropped, one is kept, or all are. -/
inductive Chomp
  | strip
  | clip
  | keep

/-- The header of a block: how it ends and the indentation it names. -/
def blockHeader? (chomp : Chomp) (indent? : Option Nat) : List Char → Option (Chomp × Option Nat)
  | [] => some (chomp, indent?)
  | '+' :: s => blockHeader? .keep indent? s
  | '-' :: s => blockHeader? .strip indent? s
  | c :: s =>
    if '1' ≤ c ∧ c ≤ '9' ∧ indent?.isNone then blockHeader? chomp (some (Text.digitValue c)) s
    else if isSpace c && isRest s then some (chomp, indent?)
    else none

/-- The indentation of the lines of a block behind a key at `column`. -/
def blockIndent (column : Nat) (indent? : Option Nat) (lines : List (List Char)) : Nat :=
  match indent? with
  | some n => column + n
  | none =>
    let empty := lines.takeWhile fun l => l.all (· == ' ')
    let first := ((lines.drop empty.length).head?.map indentOf).getD 0
    max (column + 1) ((first :: empty.map List.length).foldl max 0)

/-- A block as far as it was read. -/
structure Block where
  text : List Char
  /-- A line was read and its break was not added yet. -/
  pending : Bool
  /-- The number of empty lines behind it. -/
  empty : Nat
  /-- The line started with white space. -/
  deeper : Bool

/-- The block behind a line of it. -/
def Block.add (literal : Bool) (b : Block) (line : List Char) : Block :=
  let deeper := line.head?.any isSpace
  let break? : List Char :=
    if !b.pending then []
    else if literal || b.deeper || deeper then ['\n']
    else if b.empty = 0 then [' '] else []
  ⟨b.text ++ break? ++ List.replicate b.empty '\n' ++ line, true, 0, deeper⟩

/-- Reads the lines of a block; gives the block and the lines behind it. -/
def Block.lines (literal : Bool) (indent : Nat) (b : Block) :
    List (List Char) → Block × List (List Char)
  | [] => (b, [])
  | line :: rest =>
    if line.all (· == ' ') && line.length ≤ indent then
      Block.lines literal indent { b with empty := b.empty + 1 } rest
    else if indentOf line < indent then (b, line :: rest)
    else Block.lines literal indent (b.add literal (line.drop indent)) rest

/-- The text of a block. -/
def Block.finish (chomp : Chomp) (b : Block) : List Char :=
  let last := if b.pending then ['\n'] else []
  match chomp with
  | .strip => b.text
  | .clip => b.text ++ last
  | .keep => b.text ++ last ++ List.replicate b.empty '\n'

/-- Reads a block from what stands behind its mark; gives the text and the lines behind it. -/
def block? (literal : Bool) (column : Nat) (header : List Char) (lines : List (List Char)) :
    Option (List Char × List (List Char)) := do
  let (chomp, indent?) ← blockHeader? .clip none header
  let indent := blockIndent column indent? lines
  let (b, rest) := Block.lines literal indent ⟨[], false, 0, false⟩ lines
  some (b.finish chomp, rest)

end JobLog.Yaml
