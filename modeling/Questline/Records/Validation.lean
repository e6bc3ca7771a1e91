import Questline.Records.Basic

/-!
# Defects of records

Ids have to be unique among records of a kind, up to letter case, and scripts
that are referred to have to exist. Some values make no sense.

## Main definitions

* `Defect`: what can be wrong
* `Records.defects`: all that is wrong, in the order of the records
-/

namespace Questline

inductive Defect where
  | duplicateId (kind id : String)
  | missingReference (kind id context : String)
  | invalidValue (context : String)
deriving Repr, DecidableEq

def Defect.message : Defect → String
  | duplicateId kind id => "duplicate " ++ kind ++ " id '" ++ id ++ "'"
  | missingReference kind id context =>
    "missing " ++ kind ++ " '" ++ id ++ "' (" ++ context ++ ")"
  | invalidValue context => "invalid value (" ++ context ++ ")"

/-- The ids that equal one of `seen` or an earlier one up to letter case. -/
def reused (seen : List String) : List String → List String
  | [] => []
  | id :: ids =>
    if seen.contains id.toLower then id :: reused seen ids
    else reused (id.toLower :: seen) ids

def duplicates (kind : String) (ids : List String) : List Defect :=
  (reused [] ids).map (.duplicateId kind)

namespace Records

variable (r : Records)

/-- Whether there is a script with an id, in any letter case. -/
def hasScript (id : String) : Bool :=
  r.scripts.any fun s => s.id.toLower == id.toLower

/-- The defect of a reference to a script, if there is no such script. -/
def scriptDefect (context id : String) : List Defect :=
  if r.hasScript id then [] else [.missingReference "script" id context]

def actorDefects (a : Actor) : List Defect :=
  a.script.elim [] (r.scriptDefect ("actor '" ++ a.id ++ "'")) ++
    (a.inventory.toList.filter (·.2 == 0)).map fun (item, _) =>
      .invalidValue ("actor '" ++ a.id ++ "' carries zero of '" ++ item ++ "'")

end Records

/-- The entries of a journal that are neither stages nor the quest's name. -/
def Topic.defects (t : Topic) : List Defect :=
  if t.kind = .journal then
    (t.responses.filter fun e => e.index.isNone && !e.namesQuest).map fun e =>
      .invalidValue ("journal '" ++ t.id ++ "' entry '" ++ e.id ++ "' has no index")
  else
    []

def LeveledList.defects (l : LeveledList) : List Defect :=
  if l.members.any (·.toLower == l.id.toLower) then
    [.invalidValue ("leveled list '" ++ l.id ++ "' contains itself")]
  else
    []

def Records.defects (r : Records) : List Defect :=
  duplicates "dialogue" (r.topics.map (·.id)) ++
    duplicates "script" (r.scripts.map (·.id)) ++
    duplicates "actor" (r.actors.map (·.id)) ++
    duplicates "leveled list" (r.leveledLists.map (·.id)) ++
    r.actors.flatMap r.actorDefects ++
    r.startScripts.flatMap (r.scriptDefect "start scripts") ++
    r.topics.flatMap Topic.defects ++
    r.leveledLists.flatMap LeveledList.defects

end Questline
