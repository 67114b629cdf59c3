import JobLog.Failure.Stream
import JobLog.Run
import JobLog.Source.Open
import JobLog.Web

/-!
# Inputs

A log is read from a file or from the web. Opening it gives a source that is inflated and limited
in size, or an error; a log from the web that is announced to be too large is not read.

* `World` is what a run can reach.
* `Input.open?` opens an input, `Input.parse` and `Input.failureLines` read it.
-/

namespace JobLog

/-- What a run can reach: files by their paths, and the web. -/
structure World where
  file : String → Except IoKind (List UInt8)
  web : Web

/-- Where a log comes from. -/
inductive Input
  | url (url : String)
  | path (path : String)
  deriving DecidableEq, Repr

namespace Input

/-- The input that a text names. -/
def ofString (s : String) : Input :=
  if "http://".toList.isPrefixOf s.toList || "https://".toList.isPrefixOf s.toList then .url s
  else .path s

/-- The name of the log in what is made from it. -/
def logUrl : Input → String
  | .url u => u
  | .path p => p

/-- Opens the body of a response to a request for a url. -/
def openResponse (limit : Nat) (url : String) (r : Response) : Except RunError Opened :=
  if r.isError then .error (.fetch url (some r.status) s!"HTTP {r.status} {r.reason}")
  else if r.length?.any (limit < ·) then .error (.logSize limit)
  else (Source.open? limit r.body).mapError .ofRead

/-- Opens a log from the web; nothing where the client crashes. -/
def openUrl (web : Web) (limit : Nat) (url : String) : Option (Except RunError Opened) :=
  match Url.parse url with
  | .error e => some (.error (.invalidUrl s!"{url}: {e.message}"))
  | .ok u =>
    if !u.isWeb then some (.error (.invalidUrl url))
    else
      match web u with
      | .crash => none
      | .unreachable => some (.error (.fetch url none "no answer"))
      | .reply r =>
        match Response.ofReply? r with
        | none => some (.error (.fetch url none "no status"))
        | some r => some (openResponse limit url r)

/-- Opens a log from a file. -/
def openPath (w : World) (limit : Nat) (path : String) : Except RunError Opened :=
  match w.file path with
  | .error kind => .error (.io kind)
  | .ok bytes => (Source.open? limit (.ofBytes bytes)).mapError .ofRead

/-- Opens an input; nothing where the client crashes. -/
def open? (w : World) (settings : Settings) : Input → Option (Except RunError Opened)
  | .url u => openUrl w.web settings.maxLogSize u
  | .path p => some (openPath w settings.maxLogSize p)

/-- The whole text of an input. -/
def text? (w : World) (settings : Settings) (i : Input) : Option (Except RunError String) :=
  (i.open? w settings).map fun opened => do
    let o ← opened
    let bytes ← o.source.content.mapError .ofRead
    .ok (String.ofList (Text.Utf8.decode bytes))

/-- What a run with builders of the given kinds makes from an input. -/
def parse? (w : World) (settings : Settings) (kinds : List BuilderKind) (cancelled : Bool)
    (i : Input) : Option (Except RunError ParsedLog) :=
  (i.open? w settings).map fun opened => do
    let o ← opened
    (Run.ofKinds i.logUrl kinds settings).overSource (cancelled || o.cancelled) o.source

/-- The failure records of an input. -/
def failureLines? (w : World) (settings : Settings) (cancelled : Bool) (i : Input) :
    Option (Except RunError (List FailureLine)) :=
  (i.open? w settings).map fun opened => do
    let o ← opened
    FailureStream.read settings.failureLinesCutoff (cancelled || o.cancelled) o.source

end Input
end JobLog
