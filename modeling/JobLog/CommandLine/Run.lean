import JobLog.Bug.Web
import JobLog.CommandLine.Options
import JobLog.Pool
import JobLog.Proxy
import JobLog.Settings.Load

/-!
# The command

The command parses the logs it is given and writes what is made from them as JSON: for one log the
artifacts, for several logs an object with an entry for each log that could be parsed. The first
error decides the exit code; what the other logs give is written all the same.

* `Machine` is what the command runs on, `Outcome` is what it does.
* `Command.run` runs the command with its options, `Command.execute` with its arguments.
-/

namespace JobLog

/-- What the command runs on. -/
structure Machine where
  world : World
  env : String → Option String
  /-- Why a file can't be written, if it can't. -/
  writeFailure? : String → Option String

/-- What the command does. -/
structure Outcome where
  exitCode : Nat
  /-- What it says about its failure. -/
  message? : Option String
  /-- What it writes to its output. -/
  stdout? : Option Json
  /-- The file it writes, and its content. -/
  file? : Option (String × String)

namespace Command

/-- An outcome without output. -/
def fail (exitCode : Nat) (message : String) : Outcome := ⟨exitCode, some message, none, none⟩

/-- The settings, or a message. -/
def settings (m : Machine) (o : Options) : Except String Settings := do
  let s ← match o.config? with
    | none => .ok .default
    | some path =>
      (Settings.ofFile path (m.world.file path).toOption).mapError fun e =>
        "Can't load " ++ Text.quoted path ++ ": " ++ e.message
  let s ← (s.withEnv m.env).mapError (·.message)
  .ok { s with
    maxLogSize := o.maxSize?.getD s.maxLogSize
    maxErrorLines := o.errorCap?.getD s.maxErrorLines
    bugsCacheUrl? := o.bugsCacheUrl?.or s.bugsCacheUrl? }

/-- The inputs, first those from the web. -/
def inputs (o : Options) : List Input := o.urls.map .url ++ o.paths.map .path

/-- The builders that run where none are named. -/
def defaultBuilders : String := "text,jobinfo,perf"

/-- The parsed log with bug suggestions, if there is a place to search. -/
def suggest (m : Machine) (s : Settings) (p : ParsedLog) : ParsedLog :=
  match s.bugsCacheUrl? with
  | none => p
  | some url => (p.suggest (.onWeb m.world.web url) s.maxSummaryLines (.start ())).1

/-- The JSON that each input gives. -/
def results (m : Machine) (s : Settings) (kinds : List BuilderKind) (failureLines : Bool)
    (is : List Input) : List (Except RunError Json) :=
  if failureLines then
    is.map fun i =>
      ((i.failureLines? m.world s false).getD (.error (.io .other))).map fun ls =>
        .arr (ls.map FailureLine.toJson)
  else
    (Pool.parseMany m.world s kinds false is).map fun r =>
      r.map fun p => (suggest m s p).artifacts.toJson

/-- The JSON of all inputs by their names; of repeated names the last one stays. -/
def outputs (is : List Input) (rs : List (Except RunError Json)) : Json.Fields :=
  Json.Fields.ofList <| (is.zip rs).filterMap fun (i, r) => r.toOption.map fun v => (i.logUrl, v)

/-- What is written: for one input its JSON, for several an object. -/
def output? (is : List Input) (fields : Json.Fields) : Option Json :=
  if is.length = 1 then fields.head?.map (·.2) else some (.obj fields)

/-- The first error. -/
def firstError? (rs : List (Except RunError Json)) : Option RunError :=
  rs.findSome? fun
    | .error e => some e
    | .ok _ => none

/-- The outcome of a run that wrote something, or nothing. -/
def outcome (e? : Option RunError) (stdout? : Option Json) (file? : Option (String × String)) :
    Outcome :=
  match e? with
  | none => ⟨0, none, stdout?, file?⟩
  | some e => ⟨e.exitCode, some e.message, stdout?, file?⟩

/-- The outcome where the output can't be written. -/
def unwritable (out reason : String) : Outcome := fail 1 s!"Can't write {out}: {reason}"

/-- Writes the output. -/
def write (m : Machine) (out : String) (e? : Option RunError) : Option Json → Outcome
  | none => outcome e? none none
  | some v =>
    if out = "-" then outcome e? (some v) none
    else
      match m.writeFailure? out with
      | some reason => unwritable out reason
      | none => outcome e? none (some (out, v.pretty ++ "\n"))

/-- The message for a run without inputs. -/
def noInput : String := "An input is required, please add a `--url URL` or `--path FILE` argument"

/-- Runs the command with settings. -/
def runWith (m : Machine) (o : Options) (s : Settings) : Outcome :=
  match BuilderKind.readList (o.builders?.getD defaultBuilders) with
  | .error name => fail 2 (BuilderKind.unknownMessage name)
  | .ok kinds =>
    let is := inputs o
    if is.isEmpty then fail 2 noInput
    else if !Proxy.isUsable m.env then fail 1 "Can't create the http client: Malformed proxy"
    else
      let rs := results m s kinds o.failureLines is
      write m (o.out?.getD "-") (firstError? rs) (output? is (outputs is rs))

/-- Runs the command with its options. -/
def run (m : Machine) (o : Options) : Outcome :=
  match settings m o with
  | .error message => fail 2 message
  | .ok s => runWith m o s

/-- Runs the command with its arguments. -/
def execute (m : Machine) (args : List String) : Outcome :=
  match Options.read args with
  | .error .usage => ⟨2, none, none, none⟩
  | .error .help => ⟨0, none, none, none⟩
  | .ok o => run m o

end Command
end JobLog
