import Questline.Records.Validation
import Questline.Ron.Records
import Questline.Ron.Report
import Questline.Toml.Settings

/-!
# The command line

The program reads records from a file, prints a summary of what it found, and
writes the report to a file if it is asked to.

## Main definitions

* `Invocation`: what the arguments ask for
* `Invocation.ofArguments`: the meaning of the arguments
* `Report.summary`: the lines printed for a report
* `execute`: what the program does, given the files it reads
-/

namespace Questline

def programName : String := "questgraph"

def programVersion : String := "0.3.0"

def usage : String :=
  "Usage: questgraph <records.ron> [--config <file.toml>] [--out <file.ron>]"

/-- What the arguments ask for, and the lines to print about them. -/
structure Invocation where
  records : Option String := none
  config : Option String := none
  out : Option String := none
  remarks : List String := []
deriving Repr, DecidableEq

namespace Invocation

/-- The meaning of the remaining arguments; `false` if they cannot be understood. -/
def read (i : Invocation) : List String → Invocation × Bool
  | [] => (i, true)
  | "--config" :: path :: rest => read { i with config := some path } rest
  | "--out" :: path :: rest => read { i with out := some path } rest
  | "--config" :: [] =>
    ({ i with remarks := i.remarks ++ ["--config requires a filepath"] }, false)
  | "--out" :: [] => ({ i with remarks := i.remarks ++ ["--out requires a filepath"] }, false)
  | "--" :: rest => read i rest
  | arg :: rest =>
    if i.records.isNone then read { i with records := some arg } rest
    else
      read { i with remarks := i.remarks ++ ["ignoring extra argument '" ++ arg ++ "'"] } rest

/-- The meaning of the arguments: what to read, or nothing, and the remarks. -/
def ofArguments (args : List String) : Invocation :=
  let (i, understood) := read {} args
  if understood then i else { i with records := none }

end Invocation

/-- A text with blanks after it, up to a width. -/
def padRight (width : Nat) (s : String) : String :=
  s ++ String.ofList (List.replicate (width - s.length) ' ')

/-- A number with blanks before it, up to a width. -/
def padLeft (width : Nat) (n : Nat) : String :=
  String.ofList (List.replicate (width - (toString n).length) ' ') ++ toString n

def Quest.summary (q : Quest) : String :=
  "  " ++ padRight 32 q.id ++ " " ++ padLeft 3 q.stages.size ++ " stages " ++
    padLeft 3 q.linkCount ++ " links " ++ padLeft 2 q.givers.size ++ " givers  " ++ q.name.getD ""

def Report.summary (r : Report) : List String :=
  let broken := r.findings.brokenReferences
  let notes := r.findings.items.length - broken
  [programName ++ " " ++ programVersion] ++ r.quests.values.map (·.summary) ++
    [toString r.quests.size ++ " quests, " ++ toString r.objects.size ++ " objects"] ++
    (if broken > 0 then [toString broken ++ " broken references"] else []) ++
    (if notes > 0 then [toString notes ++ " conditions not fully understood"] else [])

/-- What a run of the program prints, and the file that it writes at the end with
its contents. -/
structure Outcome where
  code : UInt32 := 0
  output : List String := []
  errors : List String := []
  file : Option (String × String) := none

namespace Outcome

/-- The outcome when the file at the end cannot be written. -/
def notWritten (o : Outcome) : Outcome :=
  match o.file with
  | some (path, _) =>
    { o with
      code := 1, file := none
      errors := o.errors ++ ["Error: writing analysis output to '" ++ path ++ "'"] }
  | none => o

end Outcome

/-- What the program does with the given arguments; `files` gives the contents of
the files that can be read. -/
def execute (files : String → Option String) (args : List String) : Outcome :=
  let i := Invocation.ofArguments args
  match i.records with
  | none => { code := 2, errors := i.remarks ++ [usage] }
  | some path =>
    match (files path).bind Records.ofRon? with
    | none => { code := 1, errors := i.remarks ++ ["Error: while loading game records"] }
    | some records =>
      let settings := Settings.load (i.config.bind files)
      let defects := records.defects
      let report := records.analyze settings
      { output := report.summary
        errors := i.remarks ++
          (if defects.isEmpty then []
            else [toString defects.length ++ " record problems found (see log)"])
        file := i.out.map fun path => (path, report.render) }

end Questline
