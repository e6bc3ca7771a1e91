import Questline.Analysis.Settings
import Questline.Quest.Log
import Questline.Records.Dialogue
import Questline.Script.Inlining
import Questline.Script.Layout
import Questline.World.Survey

/-!
# The analysis

Scripts are parsed and the scripts they start are put into them; the journals
give the quests; the journal updates in scripts and in dialogue give the ways to
reach the stages; and the quests and the records give the objects of the world.

## Main definitions

* `parseScripts`, `inlineScripts`, `inlinedTrees`: the trees of the scripts
* `Report`: what an analysis gives
* `Records.analyze`: the analysis
-/

namespace Questline

/-- The trees of scripts by their ids in lower case. -/
abbrev Trees := Std.ExtTreeMap String Tree

/-- The trees of scripts; of two with one id the later counts. -/
def parseScripts (scripts : List ScriptRecord) (t : Translator) : Trees × Translator :=
  scripts.foldl
    (fun (trees, t) s =>
      let (tree, t) := Tree.parse s.text t
      (trees.insert s.id.toLower tree, t))
    (∅, t)

/-- The trees with the scripts they start put into them. What is put in comes from
the trees as they were. -/
def inlineScripts (parsed : Trees) (depth : Nat) : Std.ExtTreeMap String Inlined :=
  parsed.map fun _ t => t.inline (parsed[·]?) depth

/-- The trees of all scripts, each with the scripts it starts. -/
def inlinedTrees (parsed : Trees) (depth : Nat) : Trees :=
  (inlineScripts parsed depth).map fun _ x => x.tree

structure Report where
  quests : Std.ExtTreeMap String Quest
  objects : Std.ExtTreeMap String WorldObject
  findings : Findings

/-- The finding for a reference to a script that does not exist. -/
def missingScript (trees : Trees) (referrer id : String) : List Finding :=
  if id.toLower ∈ trees then [] else [.missingScript id.toLower referrer]

namespace Records

variable (r : Records)

/-- The references to scripts that do not exist. -/
def missingScripts (settings : Settings) (trees : Trees) : List Finding :=
  (r.actors.flatMap fun a =>
      a.script.elim [] (missingScript trees ("actor '" ++ a.id ++ "'"))) ++
    (r.startScripts ++ settings.startScripts).flatMap (missingScript trees "start scripts")

/-- The quest log with the journals entered. -/
def journalLog (settings : Settings) : QuestLog :=
  r.topics.foldl (fun l t => (l.addTopic t).1) (.withPlayer settings.playerId)

/-- The responses that run a script, with their topics and scripts. -/
def results : List (Topic × Response × String) :=
  r.topics.flatMap fun t => t.responses.filterMap fun e =>
    (e.result.filter fun s => !(trim s.toList).isEmpty).map fun s => (t, e, s)

end Records

/-- The quest log with the updates of all scripts. -/
def collectScripts (trees : Trees) (l : QuestLog) : QuestLog :=
  trees.toList.foldl (fun l (id, t) => (l.collect t (.script id)).1) l

/-- The quest log with the updates of a dialogue result. -/
def collectResult (settings : Settings) (parsed : Trees) (l : QuestLog) (t : Translator)
    (topic : Topic) (e : Response) (source : String) : QuestLog × Translator :=
  let (tree, t) := Tree.parseResult e.id source (e.gate topic) t
  let tree := (tree.inline (parsed[·]?) settings.inlineDepth).tree
  ((l.collect tree (.dialogue topic.id.toLower e.id)).1, t)

/-- Everything the analysis learns about the quests from the inlined trees of the
scripts and from dialogue. The scripts that dialogue starts come from the trees as
they were parsed. -/
def collectAll (r : Records) (settings : Settings) (parsed trees : Trees) (t : Translator) :
    QuestLog × Translator :=
  let l := collectScripts trees (r.journalLog settings)
  if settings.dialogueResults then
    r.results.foldl
      (fun (l, t) (topic, e, source) => collectResult settings parsed l t topic e source) (l, t)
  else
    (l, t)

/-- What the translator could not understand. -/
def Translator.findings (t : Translator) : List Finding :=
  t.unrecognized.toList.map .unrecognizedCommand ++ t.failed.map .untranslatedCondition

def surveyWorld (r : Records) (settings : Settings) (quests : Std.ExtTreeMap String Quest)
    (parsed : Trees) : Std.ExtTreeMap String WorldObject :=
  (Survey.start r.leveledLists settings.playerId).addQuests quests.values
    |>.addLeveledLists
    |>.addActors r.actors
    |>.addScripts parsed.values
    |>.addCells r.cells
    |>.finish

def Records.analyze (r : Records) (settings : Settings) : Report :=
  let (parsed, t) := parseScripts r.scripts (.withGlobals settings.globals)
  let trees := inlinedTrees parsed settings.inlineDepth
  let (l, t) := collectAll r settings parsed trees t
  let quests := l.build
  { quests
    objects := surveyWorld r settings quests parsed
    findings :=
      ((Findings.pushAll {} (r.missingScripts settings trees)).extend l.findings).pushAll
        t.findings }

end Questline
