import JobLog.Json.Written
import JobLog.Settings.Basic
import JobLog.Text.Blank
import JobLog.Text.Quoted
import JobLog.Text.Utf8
import JobLog.Yaml.Mapping

/-!
# Loading settings

Settings are read from a JSON or a YAML file, which the name of the file tells, and then changed by
environment variables. What is not said keeps its default.

* `Settings.ofFile` reads the content of a file.
* `Settings.withEnv` applies environment variables.
-/

namespace JobLog

/-- Why settings could not be loaded. -/
inductive SettingsError
  | badFile
  | badJson
  | badYaml
  | unknownFormat (extension : String)
  | badValue (name value : String)
  deriving DecidableEq, Repr

/-- The message of an error. -/
def SettingsError.message : SettingsError → String
  | .badFile => "invalid file: can't be read as text"
  | .badJson => "invalid json: no settings"
  | .badYaml => "invalid yaml: no settings"
  | .unknownFormat extension => s!"unknown format: {extension}"
  | .badValue name value => s!"invalid value for {name}: {value}"

namespace Settings

/-- The names of the fields, in order. -/
def fieldNames : List String := [
  "max_log_size", "max_line_length", "max_error_lines", "max_summary_lines",
  "failure_lines_cutoff", "bugscache_url"]

/-! ### JSON -/

/-- Reads settings from a record. -/
def ofRecord? (r : Json.Record) : Option Settings := do
  let d := default
  let maxLogSize ← r.default? "max_log_size" d.maxLogSize Json.natural?
  let maxLineLength ← r.default? "max_line_length" d.maxLineLength Json.natural?
  let maxErrorLines ← r.default? "max_error_lines" d.maxErrorLines Json.natural?
  let maxSummaryLines ← r.default? "max_summary_lines" d.maxSummaryLines Json.natural?
  let failureLinesCutoff ← r.default? "failure_lines_cutoff" d.failureLinesCutoff Json.natural?
  let bugsCacheUrl? ← r.lenient? "bugscache_url" Json.text?
  some ⟨maxLogSize, maxLineLength, maxErrorLines, maxSummaryLines, failureLinesCutoff,
    bugsCacheUrl?⟩

/-- All fields of an object are fields of settings. -/
def allKnown : Json → Bool
  | .obj fields => fields.all fun f => fieldNames.contains f.1
  | _ => true

/-- Reads settings from JSON; other fields are refused. -/
def ofJson? (v : Json) : Option Settings :=
  if allKnown v then (v.record? fieldNames).bind ofRecord? else none

/-- Reads settings from a JSON text. -/
def ofJsonText? (s : String) : Option Settings := (Json.ofTextIn? .whole s).bind ofJson?

/-! ### YAML -/

/-- Reads a number below `Text.wordBound` from a non-empty row of digits in a base. -/
def wordIn? (base : Nat) (ds : List Char) : Option Nat :=
  if ds.isEmpty then none else (Text.numberIn? base ds).filter (· < Text.wordBound)

/-- Reads a number of a plain scalar: in decimal without leading zeros, or with a prefix in base
sixteen, eight or two. -/
def yamlNumber? (s : List Char) : Option Nat :=
  let digits := match s with
    | '+' :: r => r
    | r => r
  match digits with
  | '0' :: 'x' :: r => wordIn? 16 r
  | '0' :: 'o' :: r => wordIn? 8 r
  | '0' :: 'b' :: r => wordIn? 2 r
  | ['0'] => some 0
  | '0' :: _ => none
  | ds => Text.readDigits? ds

/-- A number in YAML as JSON. -/
def yamlNumberJson? (v : Yaml.Scalar) : Option Json :=
  if v.plain then (yamlNumber? v.text).map .ofNat else none

/-- The scalar stands for no value. -/
def isYamlNull (v : Yaml.Scalar) : Bool :=
  let written := ["", "~", "null", "Null", "NULL"].any fun s => s.toList = v.text
  v.plain && written && (v.tag?.isNone || v.tag? = some "!null".toList)

/-- A value in YAML as the JSON that its field has. -/
def yamlValue? (key : String) (v : Yaml.Scalar) : Option Json :=
  if key = "bugscache_url" then
    some (if isYamlNull v then .null else .str (String.ofList v.text))
  else yamlNumberJson? v

/-- Reads settings from a YAML text. -/
def ofYamlText? (s : String) : Option Settings := do
  let entries ← Yaml.mapping? s.toList
  let fields ← entries.mapM fun (k, v) =>
    (yamlValue? (String.ofList k) v).map fun x => (String.ofList k, x)
  ofJson? (.obj fields)

/-! ### Files -/

/-- The last part of a path that names something; `part` is read already, in reverse order, behind
parts of which `last` is the last one. -/
def fileNameFrom (part last : List Char) : List Char → List Char
  | [] => if part = [] ∨ part = ['.'] then last else part.reverse
  | '/' :: s => fileNameFrom [] (if part = [] ∨ part = ['.'] then last else part.reverse) s
  | c :: s => fileNameFrom (c :: part) last s

/-- What stands behind the last dot of a file's name, unless the name starts with it. -/
def extension? (path : String) : Option String :=
  let name := fileNameFrom [] [] path.toList
  let behind := (name.reverse.takeWhile (· ≠ '.')).reverse
  if '.' ∈ name ∧ name ≠ ['.', '.'] ∧ behind.length + 1 < name.length then
    some (String.ofList behind)
  else none

/-- Reads settings from the text of a file; a blank text says nothing. -/
def ofText (path text : String) : Except SettingsError Settings :=
  if Text.allBlank text.toList then .ok default
  else
    match extension? path with
    | some "yaml" | some "yml" => (ofYamlText? text).elim (.error .badYaml) .ok
    | some "json" => (ofJsonText? text).elim (.error .badJson) .ok
    | e? => .error (.unknownFormat (e?.getD ""))

/-- Reads settings from the content of a file, if there is one. -/
def ofFile (path : String) (content? : Option (List UInt8)) : Except SettingsError Settings :=
  match content?.bind Text.Utf8.decode? with
  | none => .error .badFile
  | some text => ofText path (String.ofList text)

/-! ### Environment -/

/-- The variables that change settings. -/
def variableNames : List String := [
  "PARSER_MAX_LOG_SIZE", "PARSER_MAX_STEP_ERROR_LINES", "PARSER_MAX_SUMMARY_LINES",
  "FAILURE_LINES_CUTOFF", "TREEHERDER_BUGSCACHE_URL"]

/-- The number that a variable gives, or else the one that holds already. -/
def envNumber (env : String → Option String) (name : String) (old : Nat) :
    Except SettingsError Nat :=
  match env name with
  | none => .ok old
  | some value =>
    (Text.readNumber? (Text.trim value.toList)).elim (.error (.badValue name value)) .ok

/-- The settings changed by environment variables. -/
def withEnv (s : Settings) (env : String → Option String) : Except SettingsError Settings := do
  let maxLogSize ← envNumber env "PARSER_MAX_LOG_SIZE" s.maxLogSize
  let maxErrorLines ← envNumber env "PARSER_MAX_STEP_ERROR_LINES" s.maxErrorLines
  let maxSummaryLines ← envNumber env "PARSER_MAX_SUMMARY_LINES" s.maxSummaryLines
  let failureLinesCutoff ← envNumber env "FAILURE_LINES_CUTOFF" s.failureLinesCutoff
  .ok { s with
    maxLogSize, maxErrorLines, maxSummaryLines, failureLinesCutoff
    bugsCacheUrl? := (env "TREEHERDER_BUGSCACHE_URL").or s.bugsCacheUrl? }

end Settings
end JobLog
