import Questline.Quest.Basic
import Questline.Records.Basic
import Questline.Script.Tree
import Questline.World.Leveled
import Questline.World.Registry

/-!
# Surveying the world

The registry is filled from the quests, the leveled lists, the actors, the
scripts and the cells.

## Main definitions

* `Survey`: the registry with what is needed to fill it
* `Survey.addQuests`, `addLeveledLists`, `addActors`, `addScripts`, `addCells`
* `Survey.finish`: the objects with their totals
-/

namespace Questline

structure Survey where
  registry : Registry := {}
  leveled : LeveledLists := {}
  player : String := Questline.player

/-- The id of a local variable of a script. -/
def localId (script name : String) : String :=
  script ++ "." ++ name

namespace Registry

variable (w : Registry)

/-- Register an object and say that a stage mentions it. -/
def mention (id : String) (kind : ObjectKind) (m : Mention) : Registry :=
  (w.register id kind).involve id m.quest m.index

/-- The objects that a requirement of a stage mentions. -/
def addRequirement (player : String) (m : Mention) (r : Requirement) : Registry :=
  let w := match r.subject?.filter (!sameName · player) with
    | some o => w.mention o (if r.kind = .actor then .dialogue else .object) m
    | none => w
  match r.kind, r.script, r.operand with
  | .item, _, some item => w.mention item .object m
  | .actorItem, _, some item => w.mention item .object m
  | .localVariable, some script, some name => w.mention (localId script name) .localVariable m
  | _, _, _ => w

/-- The scripts that lead to a stage, and the objects that it mentions. -/
def addStage (player quest : String) (s : Stage) : Registry :=
  let m : Mention := ⟨quest, s.index⟩
  let w := s.origins.foldl
    (fun w o => match o with
      | .script id => w.mention id .script m
      | .dialogue .. => w) w
  s.requirements.foldl (·.addRequirement player m ·) w

/-- The objects that a quest mentions, and those that can start it. -/
def addQuest (player : String) (q : Quest) : Registry :=
  q.givers.toList.foldl (·.addGiver · q.id) (q.stages.values.foldl (·.addStage player q.id ·) w)

def addTree (t : Tree) : Registry :=
  match t.script with
  | none => w
  | some script =>
    (t.blocks.toList.flatMap (·.locals.keys)).foldl
      (fun w name =>
        (w.register (localId script name) .localVariable).link script (localId script name) 1 1.0)
      (w.register script .script)

/-- The objects placed in a cell, without the deleted ones. -/
def addCell (c : Cell) : Registry :=
  (c.placements.filter (!·.deleted)).foldl (fun w p => w.place p.object 1) w

end Registry

namespace Survey

/-- A survey that knows the leveled lists and the id of the player. -/
def start (lists : List LeveledList) (player : String) : Survey where
  leveled := .ofRecords lists
  player := player.toLower

variable (s : Survey)

def addQuests (qs : List Quest) : Survey :=
  { s with registry := qs.foldl (·.addQuest s.player ·) s.registry }

/-- Say that `owner` contains one of each flat member of a list. -/
def linkFlat (owner list : String) : Survey :=
  let (flat, leveled) := s.leveled.flatten list
  { s with leveled, registry := flat.toList.foldl (fun w m => w.link owner m 1 1.0) s.registry }

/-- Leveled lists contain their flat members. -/
def addLeveledLists : Survey :=
  s.leveled.lists.keys.foldl
    (fun s id => { s with registry := s.registry.register id .owner }.linkFlat id id) s

/-- An item that an actor carries, which may be a leveled list. -/
def addItem (actor : String) (item : String × Int) : Survey :=
  if s.leveled.isList item.1 then s.linkFlat actor item.1
  else
    { s with
      registry := (s.registry.register item.1 .object).link actor item.1 item.2.natAbs 1.0 }

/-- An actor with the script it runs and the items it carries. -/
def addActor (a : Actor) : Survey :=
  let w := s.registry.register a.id .owner
  let w := a.script.elim w fun script => (w.register script .script).link a.id script 1 1.0
  a.inventory.toList.foldl (·.addItem a.id ·) { s with registry := w }

def addActors (as : List Actor) : Survey :=
  as.foldl addActor s

def addScripts (ts : List Tree) : Survey :=
  { s with registry := ts.foldl Registry.addTree s.registry }

def addCells (cs : List Cell) : Survey :=
  { s with registry := cs.foldl Registry.addCell s.registry }

def finish : Std.ExtTreeMap String WorldObject :=
  s.registry.withTotals.objects

end Survey

end Questline
