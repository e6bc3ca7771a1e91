import Questline.CommandLine

/-!
# The program

Reads the files that the arguments name, runs the analysis and writes what it
gives.
-/

/-- The contents of a file, if it can be read as text. -/
def readFile? (path : String) : IO (Option String) := do
  try
    pure (some (← IO.FS.readFile path))
  catch _ =>
    pure none

/-- Write the report, if there is one; the outcome says whether that went well. -/
def writeReport (o : Questline.Outcome) : IO Questline.Outcome := do
  match o.file with
  | none => pure o
  | some (path, text) =>
    try
      IO.FS.writeFile path text
      pure o
    catch _ =>
      pure o.notWritten

def main (args : List String) : IO UInt32 := do
  let i := Questline.Invocation.ofArguments args
  let paths := i.records.toList ++ i.config.toList
  let files ← paths.mapM fun path => do pure (path, ← readFile? path)
  let o := Questline.execute (fun path => (files.lookup path).join) args
  for line in o.output do
    IO.println line
  let o ← writeReport o
  for line in o.errors do
    IO.eprintln line
  pure o.code
