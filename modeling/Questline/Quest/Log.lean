import Questline.Findings
import Questline.Quest.Transitions
import Questline.Records.Basic
import Questline.Script.Guard
import Questline.Script.Journal

/-!
# The quest log

Journals give the quests and their stages; journal updates found in scripts and
dialogue give the ways to reach the stages. Only when all are known can it be said
how the stages follow each other.

## Main definitions

* `QuestLog`: the quests known so far
* `QuestLog.addTopic`, `QuestLog.addHit`, `QuestLog.collect`: what is known grows
* `QuestLog.build`: the finished quests
-/

namespace Questline

namespace Quest

/-- Enter a journal entry, and count the stage if it is a new one. -/
def enter (q : Quest) (added : Nat) (e : Response) : Quest × Nat :=
  if e.namesQuest then ({ q with name := some e.text }, added)
  else match e.index with
    | none => (q, added)
    | some i =>
      let s := (q.stages[i]?).getD { quest := q.id, index := i }
      let s := { s with text := e.text, finished := e.finished, restart := e.restart }
      ({ q with stages := q.stages.insert i s }, if i ∈ q.stages then added else added + 1)

/-- Enter journal entries in order, and count the new stages. -/
def enterAll (q : Quest) (es : List Response) : Quest × Nat :=
  es.foldl (fun (q, added) e => q.enter added e) (q, 0)

end Quest

/-- The quests known so far, and who is the player. -/
structure QuestLog where
  quests : Std.ExtTreeMap String Quest := ∅
  findings : Findings := {}
  player : String := Questline.player

namespace QuestLog

variable (l : QuestLog)

def withPlayer (player : String) : QuestLog :=
  { player := player.toLower }

def quest? (id : String) : Option Quest :=
  l.quests[id.toLower]?

/-- Enter a topic, and count the new stages. Only journals have stages. -/
def addTopic (t : Topic) : QuestLog × Nat :=
  if t.kind = .journal then
    let id := t.id.toLower
    let (q, added) := ((l.quests[id]?).getD { id }).enterAll t.responses
    ({ l with quests := l.quests.insert id q }, added)
  else
    (l, 0)

/-- Add a way to reach a stage; the answer says whether it is a new one. A stage
that does not exist is reported. -/
def addHit (quest : String) (index : Int) (g : Gate) (o : Origin) : QuestLog × Bool :=
  let quest := quest.toLower
  match (l.quests[quest]?).bind fun q => (q.stages[index]?).map fun s => (q, s) with
  | none => ({ l with findings := l.findings.push (.missingStage quest index o.describe) }, false)
  | some (q, s) =>
    match s.addBranch? g o with
    | none => (l, false)
    | some s =>
      ({ l with quests := l.quests.insert quest { q with stages := q.stages.insert index s } }, true)

/-- Add the ways given by the journal updates of a tree, and count the new ones. -/
def collect (t : Tree) (o : Origin) : QuestLog × Nat :=
  let as := t.assignments
  t.journalUpdates.foldl
    (fun (l, added) u =>
      let (l, new) := l.addHit u.quest u.index (u.call.gate.resolve as) o
      (l, if new then added + 1 else added))
    (l, 0)

def build : Std.ExtTreeMap String Quest :=
  l.quests.map fun _ q => q.linkStages.inferGivers l.player

end QuestLog

end Questline
