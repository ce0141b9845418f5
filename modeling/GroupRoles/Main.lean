import GroupRoles.Command.Run

/-!
# The command line program

Reads the settings file and the variables it names, and prints what the command prints. There
is no network to send requests over.
-/

namespace GroupRoles.Main

/-- The bytes of a file. -/
def readFile (path : String) : IO FileContent := do
  try
    let bytes ← IO.FS.readBinFile path
    pure (.ok bytes.toList)
  catch e =>
    pure <| .error <|
      match e with
      | .noFileOrDirectory .. => .missing
      | .inappropriateType _ code _ => if code = 21 then .isFolder else .noFolder
      | .invalidArgument _ code _ => if code = 22 then .zeroByte else .tooLong
      | .permissionDenied .. => .other "Permission denied (os error 13)"
      | e => .other (toString e)

/-- The variables that settings name, with their values. -/
def readVariables (content : FileContent) : IO Environment := do
  match Settings.ofFile content with
  | .error _ => pure []
  | .ok settings =>
    let names := [settings.connection.tokenVariable, settings.connection.passwordVariable]
    let pairs ← (names.filterMap id).mapM fun name => do
      let value ← IO.getEnv name
      pure (value.map fun s => (name, Text.Utf8.encode s))
    pure (pairs.filterMap id)

/-- Runs what the arguments ask for. -/
def run (args : List String) : IO UInt32 := do
  let invocation := Invocation.ofArgs? args
  let content ←
    match invocation with
    | some (.command c) => readFile c.path
    | _ => pure (.error .missing)
  let env ← readVariables content
  let (finish, _) := Invocation.finish Http.Network.unreachable (fun _ => content) env invocation ()
  (← IO.getStdout).putStr finish.stdout
  (← IO.getStderr).putStr finish.stderr
  pure (UInt32.ofNat finish.exit)

end GroupRoles.Main

/-- Starts the program. -/
def main (args : List String) : IO UInt32 :=
  GroupRoles.Main.run args
