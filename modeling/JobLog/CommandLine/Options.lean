import JobLog.Text.Digit

/-!
# Options of the command

Options have long names; a value stands behind an equals sign or in the next argument, where it
must not look like an option. Only the inputs may be given more than once.

* `Options.read` reads the arguments.
-/

namespace JobLog

/-- The options of the command. -/
structure Options where
  config? : Option String
  urls : List String
  paths : List String
  builders? : Option String
  maxSize? : Option Nat
  errorCap? : Option Nat
  failureLines : Bool
  bugsCacheUrl? : Option String
  jobs? : Option Nat
  timeout? : Option Nat
  out? : Option String
  deriving DecidableEq, Repr

/-- Why the arguments are no options to run with. -/
inductive OptionsError
  /-- The arguments make no sense. -/
  | usage
  /-- The command was asked what it is. -/
  | help
  deriving DecidableEq, Repr

namespace Options

/-- No options were given. -/
def none : Options :=
  ⟨.none, [], [], .none, .none, .none, false, .none, .none, .none, .none⟩

/-- The option of a name with its value; nothing where there is no such option, where it was given
before, or where the value is wrong. -/
def set? (o : Options) (name value : String) : Option Options :=
  let once {α : Type} (old : Option α) (new : Option α) (put : Option α → Options) :
      Option Options :=
    if old.isSome || new.isNone then .none else some (put new)
  let path := if value = "" then .none else some value
  let number := Text.readNumber? value.toList
  if name = "config" then once o.config? path fun v => { o with config? := v }
  else if name = "url" then some { o with urls := o.urls ++ [value] }
  else if name = "path" then path.map fun p => { o with paths := o.paths ++ [p] }
  else if name = "builders" then once o.builders? (some value) fun v => { o with builders? := v }
  else if name = "max-size" then once o.maxSize? number fun v => { o with maxSize? := v }
  else if name = "error-cap" then once o.errorCap? number fun v => { o with errorCap? := v }
  else if name = "bugscache-url" then
    once o.bugsCacheUrl? (some value) fun v => { o with bugsCacheUrl? := v }
  else if name = "jobs" then once o.jobs? number fun v => { o with jobs? := v }
  else if name = "timeout" then once o.timeout? number fun v => { o with timeout? := v }
  else if name = "out" then once o.out? (some value) fun v => { o with out? := v }
  else .none

/-- What an argument is. -/
inductive Argument
  /-- The end of the options. -/
  | dashes
  /-- A question about the command. -/
  | question
  /-- An option, and its value if it stands behind an equals sign. -/
  | option (name : String) (value? : Option String)
  | other
  deriving DecidableEq, Repr

/-- What an argument is. -/
def Argument.of (s : String) : Argument :=
  match s.toList with
  | ['-', '-'] => .dashes
  | '-' :: '-' :: r =>
    let name := String.ofList (r.takeWhile (· ≠ '='))
    match r.dropWhile (· ≠ '=') with
    | [] => if name = "help" || name = "version" then .question else .option name .none
    | _ :: v => .option name (some (String.ofList v))
  | '-' :: 'h' :: _ => .question
  | '-' :: 'V' :: _ => .question
  | _ => .other

/-- The argument may be the value of an option. -/
def isValue (s : String) : Bool := s.toList.head? ≠ some '-' || s = "-"

/-- Reads arguments behind those read already. -/
def readFrom (o : Options) : List String → Except OptionsError Options
  | [] => .ok o
  | arg :: rest =>
    match Argument.of arg with
    | .dashes => if rest.isEmpty then .ok o else .error .usage
    | .question => .error .help
    | .other => .error .usage
    | .option "failure-lines" .none =>
      if o.failureLines then .error .usage else readFrom { o with failureLines := true } rest
    | .option name (some value) =>
      match o.set? name value with
      | some o => readFrom o rest
      | .none => .error .usage
    | .option name .none =>
      match rest with
      | [] => .error .usage
      | value :: rest =>
        if isValue value then
          match o.set? name value with
          | some o => readFrom o rest
          | .none => .error .usage
        else .error .usage

/-- Reads the arguments. -/
def read (args : List String) : Except OptionsError Options := readFrom none args

end Options
end JobLog
