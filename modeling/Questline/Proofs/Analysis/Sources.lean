import Questline.Analysis.Report
import Questline.Proofs.Quest.Log
import Questline.Proofs.Script.Readings
import Questline.Proofs.World.Flattening

/-!
# What an analysis enters into its log

The quests of an analysis come from one log: the topics are entered first, then the journal
updates in the trees of the scripts and of the dialogue results, all with the scripts that they
start put into them. What the translator has noted on the way makes no difference to the trees;
it shows in the findings only.

## Main definitions

* `Records.scriptTrees`, `Records.resultTree`: the trees as they are read
* `Records.sources`: the trees that are searched for journal updates
* `Records.entries`: all that is entered into the log
* `Records.readings`: the conditions that the translator reads

## Main results

* `parseScripts_eq`: the trees of some scripts, each by itself
* `Records.collectAll_fst`, `Records.collectAll_snd`: the log of the scripts and dialogue results,
  and what the translator has read
* `Records.quests_analyze`, `Records.findings_analyze`: the quests and findings of an analysis
-/

namespace Questline

/-! ### What a translator has noted -/

namespace Tree

variable {t u : Translator}

theorem parse_fst_congr (h : t.globals = u.globals) (source : String) :
    (parse source t).1 = (parse source u).1 := by
  rw [parse_fst, parse_fst, h]

/-- The notes of a translator make no difference to a tree. -/
theorem parse_fst_eq (source : String) (t : Translator) :
    (parse source t).1 = (parse source { globals := t.globals }).1 :=
  parse_fst_congr (t := t) (u := { globals := t.globals }) rfl source

theorem parseResult_fst_congr (h : t.globals = u.globals) (info result : String) (gate : Gate) :
    (parseResult info result gate t).1 = (parseResult info result gate u).1 := by
  rw [parseResult, parseResult]
  dsimp only
  rw [parse_fst_congr h]

end Tree

/-- The trees are those of some of the scripts, and the translator knows the same global variables
as `t`. -/
structure AreParsed (scripts : List ScriptRecord) (t : Translator) (trees : Trees)
    (u : Translator) : Prop where
  globals_eq : u.globals = t.globals
  exists_script : ∀ (id : String) (tree : Tree), trees[id]? = some tree →
    ∃ s ∈ scripts, (Tree.parse s.text t).1 = tree

/-- One more script. -/
def parseNext (p : Trees × Translator) (s : ScriptRecord) : Trees × Translator :=
  (p.1.insert s.id.toLower (Tree.parse s.text p.2).1, (Tree.parse s.text p.2).2)

/-- The trees of scripts by their ids in lower case, as a translator reads them that knows the given
global variables. -/
def treesOf (globals : Names) (scripts : List ScriptRecord) : List (String × Tree) :=
  scripts.map fun s => (s.id.toLower, (Tree.parse s.text { globals }).1)

/-- Every script is read by itself, and its conditions are noted. -/
theorem foldl_parseNext (scripts : List ScriptRecord) (trees : Trees) (t : Translator) :
    scripts.foldl parseNext (trees, t) =
      (trees.insertMany (treesOf t.globals scripts),
        t.readAll (scripts.flatMap fun s => readingsOf t.globals s.text)) := by
  induction scripts generalizing trees t with
  | nil => rfl
  | cons s scripts ih =>
    rw [List.foldl_cons, parseNext, ih, Tree.parse_snd, Translator.globals_readAll,
      Tree.parse_fst_eq, treesOf, treesOf, List.map_cons, Std.ExtTreeMap.insertMany_cons,
      List.flatMap_cons, Translator.readAll_append]

theorem parseScripts_eq (scripts : List ScriptRecord) (t : Translator) :
    parseScripts scripts t =
      (Std.ExtTreeMap.ofList (treesOf t.globals scripts),
        t.readAll (scripts.flatMap fun s => readingsOf t.globals s.text)) := by
  rw [Std.ExtTreeMap.ofList_eq_insertMany_empty]
  exact foldl_parseNext scripts ∅ t

theorem AreParsed.parseScripts (scripts : List ScriptRecord) (t : Translator) :
    AreParsed scripts t (parseScripts scripts t).1 (parseScripts scripts t).2 where
  globals_eq := by rw [parseScripts_eq, Translator.globals_readAll]
  exists_script id tree htree := by
    rw [parseScripts_eq, Std.ExtTreeMap.ofList_eq_insertMany_empty, getElem?_insertMany,
      Std.ExtTreeMap.getElem?_empty, Option.or_none] at htree
    obtain ⟨e, he, rfl⟩ := Option.map_eq_some_iff.1 htree
    obtain ⟨s, hs, rfl⟩ := List.mem_map.1 (List.mem_reverse.1 (List.mem_of_find?_eq_some he))
    exact ⟨s, hs, Tree.parse_fst_eq s.text t⟩

/-! ### Sources -/

namespace Records

variable (r : Records) (settings : Settings)

/-- The trees of the scripts, before any script is put into another one. -/
def scriptTrees : Trees :=
  (parseScripts r.scripts (.withGlobals settings.globals)).1

/-- The tree of a dialogue result, before any script is put into it. -/
def resultTree (topic : Topic) (e : Response) (source : String) : Tree :=
  (Tree.parseResult e.id source (e.gate topic) (.withGlobals settings.globals)).1

/-- A tree with the scripts that it starts. -/
def inlined (t : Tree) : Tree :=
  (t.inline ((r.scriptTrees settings)[·]?) settings.inlineDepth).tree

def scriptSources : List (Origin × Tree) :=
  (r.scriptTrees settings).toList.map fun (id, t) => (.script id, r.inlined settings t)

def resultSource (topic : Topic) (e : Response) (source : String) : Origin × Tree :=
  (.dialogue topic.id.toLower e.id, r.inlined settings (resultTree settings topic e source))

def resultSources : List (Origin × Tree) :=
  r.results.map fun (topic, e, source) => r.resultSource settings topic e source

/-- The trees that are searched for journal updates: those of the scripts and, unless the settings
say otherwise, those of the dialogue results. -/
def sources : List (Origin × Tree) :=
  r.scriptSources settings ++ if settings.dialogueResults then r.resultSources settings else []

/-- The journal updates in all these trees. -/
def hits : List Hit :=
  (r.sources settings).flatMap fun (o, t) => t.hits o

/-- All that is entered into the log, in order. -/
def entries : List LogEntry :=
  r.topics.map .topic ++ (r.hits settings).map .hit

/-- The conditions of the dialogue results. -/
def resultReadings (globals : Names) : List Reading :=
  r.results.flatMap fun x => readingsOf globals (Tree.resultSource x.2.1.id x.2.2)

/-- The conditions that the translator reads, in order. -/
def readings : List Reading :=
  let globals := (Translator.withGlobals settings.globals).globals
  (r.scripts.flatMap fun s => readingsOf globals s.text) ++
    if settings.dialogueResults then r.resultReadings globals else []

variable {settings}

theorem collectScripts_scriptTrees (l : QuestLog) :
    collectScripts (inlinedTrees (r.scriptTrees settings) settings.inlineDepth) l =
      ((r.scriptSources settings).flatMap fun (o, t) => t.hits o).foldl QuestLog.add l := by
  rw [collectScripts, inlinedTrees, inlineScripts, Std.ExtTreeMap.toList_map, Std.ExtTreeMap.toList_map,
    List.map_map, List.foldl_map, List.foldl_flatMap, scriptSources, List.foldl_map]
  simp only [QuestLog.collect_fst]
  rfl

theorem collectResult_fst {t : Translator}
    (ht : t.globals = (Translator.withGlobals settings.globals).globals) (l : QuestLog)
    (topic : Topic) (e : Response) (source : String) :
    (collectResult settings (r.scriptTrees settings) l t topic e source).1 =
      ((r.inlined settings (resultTree settings topic e source)).hits
        (.dialogue topic.id.toLower e.id)).foldl QuestLog.add l := by
  rw [collectResult]
  dsimp only
  rw [QuestLog.collect_fst, Tree.parseResult_fst_congr ht]
  rfl

/-- One more dialogue result. -/
def collectNext (settings : Settings) (parsed : Trees) (p : QuestLog × Translator)
    (x : Topic × Response × String) : QuestLog × Translator :=
  collectResult settings parsed p.1 p.2 x.1 x.2.1 x.2.2

theorem collectNext_snd (parsed : Trees) (p : QuestLog × Translator)
    (x : Topic × Response × String) : (collectNext settings parsed p x).2 =
      p.2.readAll (readingsOf p.2.globals (Tree.resultSource x.2.1.id x.2.2)) :=
  Tree.parseResult_snd p.2 x.2.1.id x.2.2 (x.2.1.gate x.1)

theorem foldl_collectNext_fst (results : List (Topic × Response × String))
    {p : QuestLog × Translator}
    (hp : p.2.globals = (Translator.withGlobals settings.globals).globals) :
    (results.foldl (collectNext settings (r.scriptTrees settings)) p).1 =
      ((results.map fun (topic, e, source) => r.resultSource settings topic e source).flatMap
          fun (o, t) => t.hits o).foldl QuestLog.add p.1 := by
  induction results generalizing p with
  | nil => rfl
  | cons x results ih =>
    have hglobals : (collectNext settings (r.scriptTrees settings) p x).2.globals =
        (Translator.withGlobals settings.globals).globals := by
      rw [collectNext_snd, Translator.globals_readAll, hp]
    have hfst := r.collectResult_fst hp p.1 x.1 x.2.1 x.2.2
    rw [List.foldl_cons, List.map_cons, List.flatMap_cons, List.foldl_append]
    exact (ih hglobals).trans (congrArg (List.foldl QuestLog.add · _) hfst)

theorem foldl_collectNext_snd (parsed : Trees) (results : List (Topic × Response × String))
    (p : QuestLog × Translator) :
    (results.foldl (collectNext settings parsed) p).2 =
      p.2.readAll (results.flatMap fun x =>
        readingsOf p.2.globals (Tree.resultSource x.2.1.id x.2.2)) := by
  induction results generalizing p with
  | nil => rfl
  | cons x results ih =>
    rw [List.foldl_cons, List.flatMap_cons, Translator.readAll_append, ih, collectNext_snd,
      Translator.globals_readAll]

/-- From scripts and dialogue the log gets the hits of all sources. -/
theorem collectAll_fst {t : Translator}
    (ht : t.globals = (Translator.withGlobals settings.globals).globals) :
    (collectAll r settings (r.scriptTrees settings)
      (inlinedTrees (r.scriptTrees settings) settings.inlineDepth) t).1 =
      (r.hits settings).foldl QuestLog.add (r.journalLog settings) := by
  rw [collectAll, hits, sources, List.flatMap_append, List.foldl_append,
    ← collectScripts_scriptTrees]
  dsimp only
  split
  · exact r.foldl_collectNext_fst r.results ht
  · rfl

/-- The translator reads the conditions of the scripts, then those of the dialogue results. -/
theorem collectAll_snd :
    (collectAll r settings (r.scriptTrees settings)
      (inlinedTrees (r.scriptTrees settings) settings.inlineDepth)
      (parseScripts r.scripts (.withGlobals settings.globals)).2).2 =
      (Translator.withGlobals settings.globals).readAll (r.readings settings) := by
  rw [parseScripts_eq, collectAll, readings, Translator.readAll_append]
  dsimp only
  split
  · refine (foldl_collectNext_snd _ r.results _).trans ?_
    rw [Translator.globals_readAll]
    rfl
  · rfl

theorem journalLog_eq_recordAll : r.journalLog settings =
    (QuestLog.withPlayer settings.playerId).recordAll (r.topics.map .topic) :=
  (List.foldl_map (f := LogEntry.topic) (g := QuestLog.record)).symm

theorem recordAll_entries : (QuestLog.withPlayer settings.playerId).recordAll (r.entries settings) =
    (r.hits settings).foldl QuestLog.add (r.journalLog settings) := by
  rw [entries, QuestLog.recordAll_append, QuestLog.recordAll_hits, ← journalLog_eq_recordAll]

/-- The quests of an analysis are built from one log. -/
theorem quests_analyze (settings : Settings) : (r.analyze settings).quests =
    ((QuestLog.withPlayer settings.playerId).recordAll (r.entries settings)).build := by
  have hglobals := (AreParsed.parseScripts r.scripts (.withGlobals settings.globals)).globals_eq
  rw [recordAll_entries, ← r.collectAll_fst hglobals]
  rfl

/-- With the scripts that it starts a tree keeps its id, so that no other references are broken. -/
theorem missingScripts_inlinedTrees (parsed : Trees) (depth : Nat) :
    r.missingScripts settings (inlinedTrees parsed depth) = r.missingScripts settings parsed := by
  have hmissing : missingScript (inlinedTrees parsed depth) = missingScript parsed := by
    funext referrer id
    simp only [missingScript, inlinedTrees, inlineScripts, Std.ExtTreeMap.mem_map]
  rw [missingScripts, missingScripts, hmissing]

/-- An analysis finds references to scripts that do not exist, what the log reports, and what the
translator has noted. -/
theorem findings_analyze (settings : Settings) : (r.analyze settings).findings =
    let l := (QuestLog.withPlayer settings.playerId).recordAll (r.entries settings)
    let t := (Translator.withGlobals settings.globals).readAll (r.readings settings)
    ((Findings.pushAll {} (r.missingScripts settings (r.scriptTrees settings))).pushAll
      l.findings.items).pushAll t.findings := by
  have hglobals := (AreParsed.parseScripts r.scripts (.withGlobals settings.globals)).globals_eq
  rw [recordAll_entries, ← r.collectAll_fst hglobals, ← r.collectAll_snd,
    ← r.missingScripts_inlinedTrees _ settings.inlineDepth]
  rfl

end Records

end Questline
