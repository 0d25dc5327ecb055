import CompletionCache.CommandLine

/-!
# The program

Reads the files and the variables that the command line asks for, runs it, and writes what it
answers.
-/

set_option autoImplicit false

namespace CompletionCache.CommandLine

/-- The content of a file on disk. -/
def readContent (path : String) : IO FileContent := do
  try
    return .ok (← IO.FS.readBinFile path)
  catch
    | .permissionDenied .. => return .error .permissionDenied
    | .inappropriateType _ code _ =>
      return .error (if code = 21 then .isDirectory else .notADirectory)
    | _ => return .error .notFound

/-- The variables that are set among those that settings know. -/
def readVariables : IO (List (String × String)) :=
  Settings.variableNames.filterMapM fun name => do
    return (← IO.getEnv name).map fun value => (name, value)

end CompletionCache.CommandLine

/-- Runs the command line. -/
def main (arguments : List String) : IO UInt32 := do
  let files ← (CompletionCache.CommandLine.paths arguments).mapM fun path => do
    return (path, ← CompletionCache.CommandLine.readContent path)
  let set ← CompletionCache.CommandLine.readVariables
  let outcome := CompletionCache.CommandLine.run
    ⟨fun path => (files.lookup path).getD (.error .notFound), fun name => set.lookup name⟩
    arguments
  IO.print outcome.output
  IO.eprint outcome.errors
  return outcome.code
