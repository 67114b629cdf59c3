import JobLog.Text.Pattern
import JobLog.Text.Utf8

/-!
# Search terms

An error line of the harness reads `failure | path | message`. The most useful term to search for
is the last part of the path, or what leaked if the message reports a leak; otherwise it is the
whole line. A crash has a signature besides.

* `cleanLine` removes the time and the level in front of a line.
* `SearchTerms.ofLine` are the terms of a cleaned line.
* `crashSignature?` is the signature of a cleaned line.
-/

namespace JobLog

open Text (Pattern)
open Text.Pattern (dropLit? anyOf digits spaces)

/-- Terms that match too many bugs. -/
def commonTerms : List String := [
  "automation.py",
  "remoteautomation.py",
  "Shutdown",
  "undefined",
  "Main app process exited normally",
  "Traceback (most recent call last):",
  "Return code: 0",
  "Return code: 1",
  "Return code: 2",
  "Return code: 9",
  "Return code: 10",
  "mozalloc_abort(char const*)",
  "mozalloc_abort",
  "Exiting 1",
  "Exiting 9",
  "CrashingThread(void *)",
  "libSystem.B.dylib + 0xd7a",
  "linux-gate.so + 0x424",
  "TypeError: content is null",
  "leakcheck",
  "ImportError: No module named pygtk",
  "# TBPL FAILURE #",
  "Return code:"]

/-- The term is specific enough to be searched for: without white space around it, it is longer
than four bytes and not a common one. -/
def isHelpful (term : List Char) : Bool :=
  4 < Text.Utf8.byteLength (Text.trim term)
    && !commonTerms.contains (String.ofList (Text.trim term))

/-! ### Cleaning -/

/-- The time and the level that the harness writes in front of a line. -/
def levelPrefix : Pattern :=
  digits ++ .text ":" ++ digits ++ .text ":" ++ digits ++ spaces
    ++ anyOf "DEBUG" ["INFO", "WARNING", "ERROR", "CRITICAL", "FATAL"] ++ .text " - "
    ++ .opt (.text " ")

/-- The line without the time and the level in front and without white space around it. -/
def cleanLine (line : List Char) : List Char := Text.trim (levelPrefix.strip line)

/-! ### Terms -/

/-- The terms to search for, and the path they come from. -/
structure SearchTerms where
  terms : List (List Char)
  pathEnd? : Option (List Char)
  deriving DecidableEq, Repr

namespace SearchTerms

/-- The parts of a line between bars; `part` is read already, its last character first. -/
def splitBars (part : List Char) : List Char → List (List Char)
  | [] => [part.reverse]
  | ' ' :: '|' :: ' ' :: s => part.reverse :: splitBars [] s
  | c :: s => splitBars (c :: part) s

/-- The name of a process, which may stand before the other parts. -/
def processId : Pattern :=
  .star Text.isBlank ++ (.text "GECKO(" ++ digits ++ .text ")" ||| .text "PID " ++ digits)
    ++ .star Text.isBlank

/-- The parts of a line, without the name of a process in front. -/
def parts (line : List Char) : List (List Char) :=
  match splitBars [] line with
  | [] => []
  | part :: rest => if processId.covers part then rest else part :: rest

/-- What leaked, where the number of bytes starts the text. -/
def leakedBytes? (s : List Char) : Option (List Char) := do
  let s ← match s.takeWhile Text.isDigit with
    | [] => none
    | _ => dropLit? " bytes leaked (".toList (s.dropWhile Text.isDigit)
  match s.reverse with
  | ')' :: c :: leaked => if '\n' ∈ s then none else some (c :: leaked).reverse
  | _ => none

/-- Where the leak is, where `leak at` starts the text. -/
def leakPlace? (s : List Char) : Option (List Char) :=
  match dropLit? "leak at ".toList s with
  | some (c :: place) => if '\n' ∈ c :: place then none else some (c :: place)
  | _ => none

/-- What leaked or where, from the first report of a leak on. -/
def leak? : List Char → Option (List Char)
  | [] => none
  | c :: s => (leakedBytes? (c :: s)).or ((leakPlace? (c :: s)).or (leak? s))

/-- The comparison that a layout test adds to its path. -/
def comparison : Pattern :=
  .plus Text.isBlank ++ .one (fun c => c == '=' || c == '!') ++ .text "=" ++ .plus Text.isBlank
    ++ .star Pattern.inLine

/-- The path without a comparison, with slashes alone. -/
def plainPath (path : List Char) : List Char :=
  let path := match comparison.cut? path with
    | some (before, behind) => before ++ behind
    | none => path
  path.map fun c => if c = '\\' then '/' else c

/-- What stands behind the last slash. -/
def lastSegment (path : List Char) : List Char := (path.reverse.takeWhile (· ≠ '/')).reverse

/-- The term of the parts of a line and the path it comes from. -/
def ofParts : List (List Char) → Option (List Char) × Option (List Char)
  | _ :: path :: message :: _ =>
    match leak? message with
    | some leaked => (some leaked, none)
    | none => (some (lastSegment (plainPath path)), some (plainPath path))
  | _ => (none, none)

/-- The kind of failure in front of a term. -/
def failurePrefix : Pattern :=
  (.text "TEST-UNEXPECTED-" ++ .plus (fun c => !Text.isBlank c) ||| .text "PROCESS-CRASH")
    ++ .plus Text.isBlank ++ .text "|" ++ .plus Text.isBlank

/-- The greatest length of a term. -/
def maxLength : Nat := 100

/-- A term without the kind of failure and cut to its length, and its part before a question mark
if there is one. -/
def ofTerm (term : List Char) : List (List Char) :=
  let term := (failurePrefix.strip term).take maxLength
  let name := term.takeWhile (· ≠ '?')
  if name ≠ [] ∧ name.length < term.length then [term, name] else [term]

/-- The terms of a cleaned line. -/
def ofLine (line : List Char) : SearchTerms :=
  let (term?, pathEnd?) := ofParts (parts line)
  if term?.any isHelpful then ⟨ofTerm (term?.getD []), pathEnd?⟩
  else if isHelpful line then ⟨ofTerm line, pathEnd?⟩
  else ⟨[], pathEnd?.filter (·.contains '/')⟩

end SearchTerms

/-! ### Crashes -/

/-- What stands in front of a crash signature. -/
def crashMark : List Char := " application crashed [@ ".toList

/-- The shortest text, longer than `sig` read so far, that a bracket closes before the end or a
bar. -/
def closedSignature? (sig : List Char) : List Char → Option (List Char)
  | [] => none
  | c :: s =>
    match s with
    | [']'] => some (c :: sig).reverse
    | ']' :: ' ' :: '|' :: _ => some (c :: sig).reverse
    | _ => closedSignature? (c :: sig) s

/-- The signature behind the last mark that has one. -/
def lastSignature? : List Char → Option (List Char)
  | [] => none
  | c :: s =>
    (lastSignature? s).or ((dropLit? crashMark (c :: s)).bind (closedSignature? []))

/-- The last line of a text. -/
def lastLine (s : List Char) : List Char := (s.reverse.takeWhile (· ≠ '\n')).reverse

/-- The signature of a crash, if it is helpful; something must stand before the mark. -/
def crashSignature? (line : List Char) : Option (List Char) :=
  (lastSignature? (lastLine line).tail).filter isHelpful

end JobLog
