import JobLog.CommandLine.Run

/-!
# The program

The environment and the files that the arguments name are read before the command runs; what it
says is written behind it. There is no network, so requests find no server.
-/

namespace JobLog.Command

/-- Reads a file. -/
def fileContent (path : String) : IO (Except IoKind (List UInt8)) := do
  try
    return .ok (← IO.FS.readBinFile path).toList
  catch
    | .noFileOrDirectory .. => return .error .notFound
    | _ => return .error .other

/-- The files that arguments name. -/
def filesOf (args : List String) : List String :=
  match Options.read args with
  | .ok o => o.config?.toList ++ o.paths
  | .error _ => []

/-- The machine that the program runs on, as far as the arguments need it. -/
def machineFor (args : List String) : IO Machine := do
  let files ← (filesOf args).mapM fun path => return (path, ← fileContent path)
  let env ← (Settings.variableNames ++ Proxy.variableNames).mapM fun name =>
    return (name, ← IO.getEnv name)
  let file path := (files.lookup path).getD (.error .notFound)
  return ⟨⟨file, fun _ => .unreachable⟩, fun name => (env.lookup name).join, fun _ => none⟩

/-- Why writing failed. -/
def describeFailure : IO.Error → String
  | .noFileOrDirectory _ code _ => s!"No such file or directory (os error {code})"
  | e => toString e

/-- Writes what an outcome says; the outcome is another one where its file can't be written. -/
def Outcome.perform (o : Outcome) : IO Outcome := do
  if let some v := o.stdout? then IO.println v.write
  match o.file? with
  | none => return o
  | some (path, content) =>
    try
      IO.FS.writeFile path content
      return o
    catch e => return unwritable path (describeFailure e)

end JobLog.Command

/-- Runs the command with its arguments. -/
def main (args : List String) : IO UInt32 := do
  let m ← JobLog.Command.machineFor args
  let o ← JobLog.Command.Outcome.perform (JobLog.Command.execute m args)
  if let some message := o.message? then IO.eprintln s!"parselog: {message}"
  return o.exitCode.toUInt32
