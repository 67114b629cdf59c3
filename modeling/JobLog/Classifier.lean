import JobLog.Text.Pattern
import JobLog.Text.Word

/-!
# Error lines

A line of a job log reports an error or it does not. The grammar of error lines consists of a
guard, an optional prefix written by the harness, a bank of exclusions and two banks of patterns.

* `isErrorLine` decides a line on its own.
* `Classifier` remembers whether the log comes from a Taskcluster worker; from then on one
  bracketed prefix is removed in front of each line (`Classifier.normalize`).
* `Classifier.error?` is both: the text of the error that a line reports, if it reports one.
-/

namespace JobLog

open Text (Pattern)
open Text.Pattern (text anyOf digits spaces inLine)

namespace ErrorGrammar

/-- Hours, minutes and seconds, as digits with colons between. -/
def clock : Pattern := digits ++ text ":" ++ digits ++ text ":" ++ digits

/-- An informational line about a test; it is never an error. -/
def infoGuard : Pattern :=
  clock ++ spaces ++ text "INFO -" ++ spaces ++ anyOf "TEST-" ["INFO TEST-"]
    ++ anyOf "INFO" ["PASS", "START", "END"] ++ text " "

/-- The time and the level that the harness writes in front of a line that is no error by itself. -/
def harnessPrefix : Pattern :=
  clock ++ spaces ++ anyOf "DEBUG" ["INFO", "WARNING"] ++ text " -" ++ spaces

/-- The starts of lines that are no errors. -/
def excludedStart : Pattern := text "non-fatal error"

/-- A whole line that is no error. -/
def excludedLine : Pattern :=
  text "ImportError: No module named pygtk" ++ .opt (text "\r") ++ .opt (text "\n")

/-- What must not occur in an error line. -/
def excludedAnywhere : Pattern :=
  text "TEST-UNEXPECTED-WARNING"
    ||| text "I" ++ .one (fun c => c == ' ' || c == '/') ++ anyOf "Gecko" ["Robocop", "TestRunner"]
      ++ .star inLine ++ text "TEST-UNEXPECTED-"

/-- A job number in brackets. -/
def jobNumber : Pattern := text "[" ++ digits ++ text "]"

/-- Letters and dots, as in the name of a class. -/
def inClassName (c : Char) : Bool := c.isAlpha || c == '.'

/-- Word characters, dots and hyphens, as in the name of a worker. -/
def inWorkerName (c : Char) : Bool := Text.isWord c || c == '.' || c == '_' || c == '-'

/-- The starts of error lines. -/
def atStart : List Pattern := [
  text "error: TEST FAILED",
  .opt (text "g") ++ text "make" ++ .opt jobNumber ++ text ": ***",
  text "mozmake." ++ anyOf "exe" ["EXE"] ++ .opt jobNumber ++ text ": ***",
  clock ++ spaces ++ anyOf "ERROR" ["CRITICAL", "FATAL"] ++ text " - ",
  .plus inClassName ++ text "Error:",
  .star inClassName ++ text "Exception:",
  text "remoteFailed:",
  text "rm: cannot",
  text "abort:",
  text "Output exceeded " ++ digits ++ text " bytes",
  text "The web-page 'stop build' button was pressed",
  text "[" ++ .plus inWorkerName ++ text ":" ++ anyOf "error" ["exception"] ++ text "]",
  text "[taskcluster] Error:"]

/-- What makes a line an error wherever it stands. -/
def anywhere : List Pattern := [
  text "TEST-UNEXPECTED-" ++ anyOf "PASS" ["FAIL"] ++ text " ",
  text "TEST-TIMEOUT",
  text "fatal error",
  text "FATAL ERROR",
  text "PROCESS-CRASH",
  text "Assertion fail" ++ anyOf "ure" ["ed"],
  text "###!!! ABORT:",
  text " error(" ++ .star Text.isDigit ++ text "):",
  text ":" ++ digits ++ text ": error:",
  text " error " ++ .opt (text "R") ++ text "C" ++ .star Text.isDigit ++ text ":",
  text "Automation Error:",
  text "Remote Device Error:",
  text "command timed out:",
  text "ERROR " ++ .one (fun c => c == '4' || c == '5') ++ .one Text.isDigit ++ .one Text.isDigit
    ++ text ":",
  text "wget: unable ",
  text "REFTEST ERROR",
  text "[ FAILED ] ",
  text "bash.exe: *** ",
  text "Hit MOZ_CRASH",
  text "SUMMARY: "
    ++ anyOf "AddressSanitizer" ["ThreadSanitizer", "UndefinedBehaviorSanitizer"],
  text "ThreadSanitizer: nested bug",
  text "YOU ARE LEAKING THE WORLD"]

/-- The line without the prefix of the harness. -/
def withoutHarness (line : List Char) : List Char := harnessPrefix.strip line

/-- The line, already without the prefix of the harness, is excluded. -/
def excluded (line : List Char) : Bool :=
  excludedStart.begins line || excludedLine.covers line || excludedAnywhere.occurs line

/-- Some pattern of the bank stands at the start of the line. -/
def reportedAtStart (line : List Char) : Bool := atStart.any (·.begins line)

/-- Some pattern of the bank stands in the line. -/
def reportedAnywhere (line : List Char) : Bool := anywhere.any (·.occurs line)

/-- The line reports an error. -/
def accepts (line : List Char) : Bool :=
  !infoGuard.begins line && !excluded (withoutHarness line) &&
    (reportedAtStart line || reportedAtStart (withoutHarness line)
      || reportedAnywhere (withoutHarness line))

end ErrorGrammar

/-- The line reports an error, whatever stood before it in the log. -/
def isErrorLine (line : String) : Bool := ErrorGrammar.accepts line.toList

/-- What the lines read so far say about the worker that wrote the log. -/
structure Classifier where
  /-- A line of a Taskcluster worker was seen. -/
  taskcluster : Bool
  deriving DecidableEq, Repr

namespace Classifier

/-- Nothing was read yet. -/
def start : Classifier := ⟨false⟩

/-- The first line of a Taskcluster log starts with this. -/
def marker : List Char := "[taskcluster ".toList

/-- The name in brackets at the start of a line and the text behind the brackets and one space. -/
def workerPrefix? : List Char → Option (List Char × List Char)
  | '[' :: s =>
    match s.takeWhile (· != ']'), s.dropWhile (· != ']') with
    | c :: name, ']' :: ' ' :: rest => some (c :: name, rest)
    | _, _ => none
  | _ => none

/-- The name marks an error of the worker itself, and the brackets belong to the error. -/
def reportsError (name : List Char) : Bool :=
  name == "taskcluster".toList || ":error".toList.isSuffixOf name
    || ":exception".toList.isSuffixOf name

/-- The line without one prefix of the worker. -/
def withoutWorker (line : List Char) : List Char :=
  match workerPrefix? line with
  | some (name, rest) => if reportsError name then line else rest
  | none => line

/-- The classifier after a line. -/
def after (k : Classifier) (line : String) : Classifier :=
  ⟨k.taskcluster || marker.isPrefixOf line.toList⟩

/-- The line without the prefix of the worker, once the log is known to carry it. -/
def normalize (k : Classifier) (line : String) : String :=
  if (k.after line).taskcluster then String.ofList (withoutWorker line.toList) else line

/-- The error that the line reports, without the prefix of the worker. -/
def error? (k : Classifier) (line : String) : Option String :=
  if isErrorLine (k.normalize line) then some (k.normalize line) else none

end Classifier
end JobLog
