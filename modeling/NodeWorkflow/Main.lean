import NodeWorkflow.Json.Writer
import NodeWorkflow.Service.Launch

/-!
# The command

Reads the settings from the environment and prints what the service is launched with, or says which
settings cannot be used.
-/

namespace NodeWorkflow.Service

/-- The settings that the environment holds, under their usual names. -/
def environment : IO (List (String × String)) :=
  Settings.names.filterMapM fun name => do
    let key := (Settings.envBeginning ++ name).toUpper
    return (← IO.getEnv key).map (key, ·)

end NodeWorkflow.Service

open NodeWorkflow.Service in
/-- Prints the launch; without settings there is none. -/
def main : IO UInt32 := do
  match Settings.load (← environment) [] with
  | .ok settings =>
    IO.println (Launch.ofSettings settings).toJson.write
    return 0
  | .error fault =>
    IO.eprintln fault.message
    return 1
