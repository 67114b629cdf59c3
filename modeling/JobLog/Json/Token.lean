import JobLog.Json.Numeral

/-!
# Tokens of JSON texts

A text is cut into tokens character by character. A numeral that is out of range and a string with
a surrogate that has no partner are tokens without a value: they matter only where the value is
used.

* `Mode` is what the scanner stands in.
* `tokens?` are the tokens of a text; a text with a character that no token may have has none.
-/

namespace JobLog.Json

/-- A token of a JSON text. -/
inductive Token
  | openList | closeList | openObject | closeObject | comma | colon
  | null
  | bool (b : Bool)
  | num (n : Option Number)
  | str (s : Option String)

namespace Token

/-- White space between tokens. -/
def isBlank (c : Char) : Bool := c == ' ' || c == '\n' || c == '\t' || c == '\r'

/-- A token of one character. -/
def ofMark? : Char → Option Token
  | '[' => some .openList
  | ']' => some .closeList
  | '\x7b' => some .openObject
  | '\x7d' => some .closeObject
  | ',' => some .comma
  | ':' => some .colon
  | _ => none

/-- A name or a numeral. -/
def ofWord? (w : List Char) : Option Token :=
  if w = ['n', 'u', 'l', 'l'] then some .null
  else if w = ['t', 'r', 'u', 'e'] then some (.bool true)
  else if w = ['f', 'a', 'l', 's', 'e'] then some (.bool false)
  else (Numeral.ofChars? w).map fun u => .num u.value?

end Token

/-! ### Strings -/

/-- The part of an escape sequence that was read. -/
inductive Escape
  | none
  | begun
  /-- So many hexadecimal digits are missing, and the value of those read. -/
  | hex (missing value : Nat)

/-- A string that was not closed yet. -/
structure OpenString where
  /-- The characters, the last one first. -/
  chars : List Char
  /-- A high surrogate that needs a low one next. -/
  high? : Option Nat
  /-- No surrogate was left without its partner. -/
  sound : Bool
  escape : Escape

namespace OpenString

/-- Behind the opening quote. -/
def start : OpenString := ⟨[], none, true, .none⟩

/-- Adds a character. -/
def push (t : OpenString) (c : Char) : OpenString :=
  ⟨c :: t.chars, none, t.sound && t.high?.isNone, .none⟩

/-- The string has no value. -/
def spoilt (t : OpenString) : OpenString := ⟨t.chars, none, false, .none⟩

/-- Adds a unit of UTF-16. -/
def pushUnit (t : OpenString) (u : Nat) : OpenString :=
  match t.high? with
  | some h =>
    if 0xDC00 ≤ u ∧ u < 0xE000 then
      ⟨Char.ofNat (0x10000 + (h - 0xD800) * 0x400 + (u - 0xDC00)) :: t.chars, none, t.sound, .none⟩
    else t.spoilt
  | none =>
    if 0xD800 ≤ u ∧ u < 0xDC00 then ⟨t.chars, some u, t.sound, .none⟩
    else if 0xDC00 ≤ u ∧ u < 0xE000 then t.spoilt
    else t.push (Char.ofNat u)

/-- The string behind a character of an escape sequence of one character. -/
def escaped? (t : OpenString) : Char → Option OpenString
  | '"' => some (t.push '"')
  | '\\' => some (t.push '\\')
  | '/' => some (t.push '/')
  | 'b' => some (t.push '\x08')
  | 'f' => some (t.push '\x0c')
  | 'n' => some (t.push '\n')
  | 'r' => some (t.push '\r')
  | 't' => some (t.push '\t')
  | 'u' => some { t with escape := .hex 4 0 }
  | _ => none

/-- The string behind one more character, a closing quote apart. -/
def after? (t : OpenString) (c : Char) : Option OpenString :=
  match t.escape with
  | .begun => t.escaped? c
  | .hex missing value =>
    (Text.hexDigit? c).map fun d =>
      if missing ≤ 1 then t.pushUnit (16 * value + d)
      else { t with escape := .hex (missing - 1) (16 * value + d) }
  | .none =>
    if c = '\\' then some { t with escape := .begun }
    else if c.toNat < 0x20 then none
    else some (t.push c)

/-- The character closes the string. -/
def closedBy (t : OpenString) (c : Char) : Bool :=
  match t.escape with
  | .none => c == '"'
  | _ => false

/-- The token of the closed string. -/
def token (t : OpenString) : Token :=
  .str (if t.sound && t.high?.isNone then some (String.ofList t.chars.reverse) else none)

end OpenString

/-! ### The scanner -/

/-- What the scanner stands in. -/
inductive Mode
  | between
  /-- A name or a numeral, its last character first. -/
  | word (w : List Char)
  | string (t : OpenString)

namespace Mode

/-- The mode behind a character that stands between tokens, and the tokens it makes. -/
def begin? (c : Char) : Option (List Token × Mode) :=
  if Token.isBlank c then some ([], .between)
  else if c = '"' then some ([], .string .start)
  else
    match Token.ofMark? c with
    | some t => some ([t], .between)
    | none => some ([], .word [c])

/-- The character may stand in a name or a numeral. -/
def inWord (c : Char) : Bool :=
  !(Token.isBlank c || c == '"' || (Token.ofMark? c).isSome)

/-- The mode behind one more character, and the tokens it completes. -/
def after? : Mode → Char → Option (List Token × Mode)
  | .between, c => begin? c
  | .word w, c =>
    if inWord c then some ([], .word (c :: w))
    else do
      let t ← Token.ofWord? w.reverse
      let (ts, m) ← begin? c
      some (t :: ts, m)
  | .string t, c =>
    if t.closedBy c then some ([t.token], .between)
    else (t.after? c).map fun t => ([], .string t)

/-- The tokens that the end of the text completes. -/
def finish? : Mode → Option (List Token)
  | .between => some []
  | .word w => (Token.ofWord? w.reverse).map ([·])
  | .string _ => none

/-- The tokens of the characters that follow. -/
def tokens? : Mode → List Char → Option (List Token)
  | m, [] => m.finish?
  | m, c :: s => do
    let (ts, m) ← m.after? c
    let rest ← m.tokens? s
    some (ts ++ rest)

end Mode

/-- The tokens of a text. -/
def tokens? (s : List Char) : Option (List Token) := Mode.between.tokens? s

end JobLog.Json
