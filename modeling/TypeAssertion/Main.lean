import TypeAssertion.CommandLine

/-!
The program: it gathers what a run asks for, runs, and writes the outcome.
-/

set_option autoImplicit false

namespace TypeAssertion.CommandLine

def readFile? (path : String) : IO (Option String) := do
  try
    return some (← IO.FS.readFile path)
  catch _ => return none

end TypeAssertion.CommandLine

open TypeAssertion.CommandLine

def main (arguments : List String) : IO UInt32 := do
  let texts ← (wantedPaths arguments).mapM fun path => do return (path, ← readFile? path)
  let input ← if wantsInput arguments then (← IO.getStdin).readToEnd else pure ""
  let setting? ← IO.getEnv "ENSURE_ENFORCE"
  let outcome := run ⟨setting?, input, fun path => (texts.lookup path).join⟩ arguments
  IO.print outcome.output
  for note in outcome.notes do
    IO.eprintln note
  return outcome.code.toUInt32
