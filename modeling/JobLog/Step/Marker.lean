import JobLog.Step.Basic
import JobLog.Text.Pattern

/-!
# Markers of steps

A step starts and finishes with a line of the form

`========= Started name (results: 0, elapsed: 1 mins, 2 secs) (at 2016-07-13 16:09:31.5) =========`

The name is not empty and stays on the line. Where the line allows several names the shortest one
counts, but the tail behind the name reaches to the end of the line and has only one form, so there
is at most one.

* `Marker.read?` reads a marker of a kind.
* `Marker.tail?` reads what stands behind the name.
-/

namespace JobLog

/-- The kinds of markers. -/
inductive MarkerKind
  | started
  | finished
  deriving DecidableEq, Repr

/-- The word that tells the kind of a marker. -/
def MarkerKind.word : MarkerKind → String
  | .started => "Started"
  | .finished => "Finished"

/-- The parts of a marker. -/
structure Marker where
  name : List Char
  code : List Char
  time : List Char
  deriving DecidableEq, Repr

namespace Marker

open Text (isDigit)
open Text.Pattern (dropLit?)

/-- The bar at both ends of a marker. -/
def bar : List Char := List.replicate 9 '='

/-- Takes the digits at the start of a text; there must be one. -/
def digits? (s : List Char) : Option (List Char × List Char) :=
  match s.takeWhile isDigit with
  | [] => none
  | ds => some (ds, s.dropWhile isDigit)

/-- Takes so many digits from the start of a text. -/
def field? : Nat → List Char → Option (List Char × List Char)
  | 0, s => some ([], s)
  | _ + 1, [] => none
  | n + 1, c :: s =>
    if isDigit c then (field? n s).map fun (ds, r) => (c :: ds, r) else none

/-- Takes a character. -/
def mark? (c : Char) (s : List Char) : Option (List Char × List Char) :=
  match s with
  | [] => none
  | d :: r => if d = c then some ([c], r) else none

/-- Takes the fraction of a second; it may be missing. -/
def fraction? : List Char → Option (List Char × List Char)
  | '.' :: s => (digits? s).map fun (ds, r) => ('.' :: ds, r)
  | s => some ([], s)

/-- Takes one part after the other. -/
def chain? : List (List Char → Option (List Char × List Char)) → List Char →
    Option (List Char × List Char)
  | [], s => some ([], s)
  | part? :: parts, s => do
    let (taken, s) ← part? s
    let (more, s) ← chain? parts s
    some (taken ++ more, s)

/-- Takes a date and a time of day with an optional fraction. -/
def time? : List Char → Option (List Char × List Char) :=
  chain? [field? 4, mark? '-', field? 2, mark? '-', field? 2, mark? ' ', field? 2, mark? ':',
    field? 2, mark? ':', field? 2, fraction?]

/-- The text behind the minutes of an elapsed time; they may be missing. -/
def dropMinutes (s : List Char) : List Char :=
  match digits? s with
  | none => s
  | some (_, r) => (dropLit? " mins, ".toList r).getD s

/-- Reads what stands behind the name of a marker: the code and the time. -/
def tail? (s : List Char) : Option (List Char × List Char) := do
  let s ← dropLit? " (results: ".toList s
  let (code, s) ← digits? s
  let s ← dropLit? ", elapsed: ".toList s
  let (_, s) ← digits? (dropMinutes s)
  let s ← dropLit? " secs) (at ".toList s
  let (time, s) ← time? s
  if s = ") ".toList ++ bar then some (code, time) else none

/-- Reads the name and the tail; the characters before the text belong to the name. -/
def named? (before : List Char) : List Char → Option Marker
  | [] => none
  | c :: s =>
    if c = '\n' then none
    else
      match tail? s with
      | some (code, time) => some ⟨(c :: before).reverse, code, time⟩
      | none => named? (c :: before) s

/-- Reads a marker from the characters of a line. -/
def ofChars? (kind : MarkerKind) (line : List Char) : Option Marker :=
  (dropLit? (bar ++ ' ' :: kind.word.toList ++ [' ']) line).bind (named? [])

/-- Reads a marker. -/
def read? (kind : MarkerKind) (line : String) : Option Marker := ofChars? kind line.toList

/-- The result that the code stands for; a code that is no number of a word is unknown. -/
def result (m : Marker) : StepResult :=
  match Text.readDigits? m.code with
  | some n => .ofCode n
  | none => .unknown

/-- The time of the marker, if it is a valid one. -/
def timestamp? (m : Marker) : Option Timestamp := Timestamp.ofChars? m.time

end Marker
end JobLog
