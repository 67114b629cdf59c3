import JobLog.Failure.Line
import JobLog.RunError
import JobLog.Source.Lines
import JobLog.Text.Blank
import JobLog.Text.Utf8

/-!
# Failure streams

An error summary has one record a line. Lines that hold none are passed over. Up to a cutoff the
records are kept; if there are more, one record that says so stands in the place of the next one,
and the rest is not read.
-/

namespace JobLog.FailureStream

/-- The record of a line given in bytes; a blank line has none. -/
def recordOf? (bytes : List UInt8) (number : Nat) : Option FailureLine :=
  let text := Text.Utf8.decode bytes
  if Text.allBlank text then none else FailureLine.ofLine? (String.ofList text) number

/-- The records of deliveries behind those already found. -/
def collect (cutoff : Nat) (found : List FailureLine) :
    List Delivery → Except RunError (List FailureLine)
  | [] => .ok found
  | d :: ds =>
    if d.cancelled then .error .cancelled
    else
      match d.item with
      | .failed e => .error (.ofRead e)
      | .line bytes number =>
        match recordOf? bytes number with
        | none => collect cutoff found ds
        | some r =>
          if found.length = cutoff then .ok (found ++ [.truncated r.line])
          else collect cutoff (found ++ [r]) ds

/-- The records of a source. -/
def read (cutoff : Nat) (cancelled : Bool) (s : Source) : Except RunError (List FailureLine) :=
  collect cutoff [] (s.deliveries cancelled)

end JobLog.FailureStream
