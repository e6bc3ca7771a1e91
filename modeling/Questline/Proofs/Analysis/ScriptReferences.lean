import Questline.Proofs.Analysis.Sources
import Questline.Proofs.Quest.Branches
import Questline.Records.Validation

/-!
# References to scripts that do not exist

Both the check of the records and the analysis look at the scripts that actors run and at those
that run from the start. One asks the records for a script of that id, the other the trees that
were read of the scripts; the trees are kept by the ids of the records, whatever the scripts call
themselves, so that both find the same references broken.

## Main definitions

* `Records.RefersTo`: the scripts that records refer to, and where they do

## Main results

* `Records.mem_scriptTrees_iff`: the trees are there for the scripts of the records
* `Records.mem_defects_iff`, `Records.mem_findings_analyze_iff`: the broken references of both
* `Records.missingScript_iff_missingReference`: they are the same
-/

namespace Questline

/-! ### What else an analysis finds -/

/-- The journal updates of a log make no findings about scripts. -/
theorem QuestLog.missingScript_mem_recordAll_iff {id referrer : String} (l : QuestLog)
    (es : List LogEntry) : .missingScript id referrer ∈ (l.recordAll es).findings.items ↔
      .missingScript id referrer ∈ l.findings.items := by
  induction es generalizing l with
  | nil => rfl
  | cons e es ih =>
    refine (ih (l.record e)).trans ?_
    cases e with
    | topic t =>
      rw [record, addTopic]
      split <;> rfl
    | hit h =>
      rw [record, add, (l.addHit_eq h.quest h.index h.gate h.origin).2]
      cases stageOf? l.quests h.quest.toLower h.index with
      | none => simp
      | some s => rfl

/-- Neither do the notes of a translator. -/
theorem Translator.missingScript_not_mem_findings (t : Translator) (id referrer : String) :
    .missingScript id referrer ∉ t.findings := by
  simp [findings]

/-! ### Trees of scripts -/

namespace Records

variable {r : Records} {settings : Settings} {id s context kind : String}

/-- There is a tree for each id that a script has, whatever the script calls itself. -/
theorem mem_scriptTrees_iff : id.toLower ∈ r.scriptTrees settings ↔ r.hasScript id = true := by
  rw [scriptTrees, parseScripts_eq, Std.ExtTreeMap.mem_ofList]
  simp [hasScript, treesOf]

/-! ### References -/

variable (r) in
/-- In `context` the records refer to the script `id`, as it is written there. -/
inductive RefersTo : String → String → Prop
  | actor {a : Actor} {id : String} (ha : a ∈ r.actors) (hid : a.script = some id) :
      RefersTo ("actor '" ++ a.id ++ "'") id
  | start {id : String} (hid : id ∈ r.startScripts) : RefersTo "start scripts" id

/-- What is said of the scripts of actors and of those that run from the start is said of all
references. -/
theorem exists_refersTo_iff {P : String → String → Prop} :
    (∃ context id, r.RefersTo context id ∧ P context id) ↔
      (∃ a ∈ r.actors, ∃ id, a.script = some id ∧ P ("actor '" ++ a.id ++ "'") id) ∨
        ∃ id ∈ r.startScripts, P "start scripts" id := by
  constructor
  · rintro ⟨context, id, ⟨ha, hid⟩ | hid, hP⟩
    · exact .inl ⟨_, ha, id, hid, hP⟩
    · exact .inr ⟨id, hid, hP⟩
  · rintro (⟨a, ha, id, hid, hP⟩ | ⟨id, hid, hP⟩)
    · exact ⟨_, id, .actor ha hid, hP⟩
    · exact ⟨_, id, .start hid, hP⟩

theorem mem_elim_nil_iff {α β : Type} {x : Option α} {f : α → List β} {b : β} :
    b ∈ x.elim [] f ↔ ∃ a, x = some a ∧ b ∈ f a := by
  cases x <;> simp

/-- The references to scripts that the check of the records finds broken. -/
theorem mem_defects_iff : .missingReference kind id context ∈ r.defects ↔
    kind = "script" ∧ r.RefersTo context id ∧ r.hasScript id = false := by
  have hscript (context' id' : String) :
      .missingReference kind id context ∈ r.scriptDefect context' id' ↔
        r.hasScript id' = false ∧ kind = "script" ∧ id = id' ∧ context = context' := by
    unfold scriptDefect
    split <;> simp_all
  have hbroken : .missingReference kind id context ∈ r.defects ↔
      ∃ context' id', r.RefersTo context' id' ∧
        .missingReference kind id context ∈ r.scriptDefect context' id' := by
    rw [exists_refersTo_iff]
    simp [defects, duplicates, actorDefects, Topic.defects, LeveledList.defects, mem_elim_nil_iff]
  simp only [hbroken, hscript]
  constructor
  · rintro ⟨_, _, hrefers, hnone, rfl, rfl, rfl⟩
    exact ⟨rfl, hrefers, hnone⟩
  · rintro ⟨rfl, hrefers, hnone⟩
    exact ⟨context, id, hrefers, hnone, rfl, rfl, rfl⟩

/-- The references to scripts that an analysis finds broken. -/
theorem mem_findings_analyze_iff (h : settings.startScripts = []) :
    .missingScript s context ∈ (r.analyze settings).findings.items ↔
      ∃ id, id.toLower = s ∧ r.RefersTo context id ∧ r.hasScript id = false := by
  have hlog : Finding.missingScript s context ∉ ((QuestLog.withPlayer settings.playerId).recordAll
      (r.entries settings)).findings.items := by
    rw [QuestLog.missingScript_mem_recordAll_iff]
    exact List.not_mem_nil
  have hnotes := ((Translator.withGlobals settings.globals).readAll
    (r.readings settings)).missingScript_not_mem_findings s context
  have htree (context' id' : String) :
      .missingScript s context ∈ missingScript (r.scriptTrees settings) context' id' ↔
        r.hasScript id' = false ∧ id'.toLower = s ∧ context' = context := by
    by_cases hid : id'.toLower ∈ r.scriptTrees settings
    · simp [missingScript, hid, mem_scriptTrees_iff.1 hid]
    · have hnone : r.hasScript id' = false := Bool.eq_false_iff.2 (mt mem_scriptTrees_iff.2 hid)
      simp [missingScript, hid, hnone, eq_comm]
  have hbroken : .missingScript s context ∈ r.missingScripts settings (r.scriptTrees settings) ↔
      ∃ context' id', r.RefersTo context' id' ∧
        .missingScript s context ∈ missingScript (r.scriptTrees settings) context' id' := by
    rw [exists_refersTo_iff]
    simp only [missingScripts, h, List.append_nil, List.mem_append, List.mem_flatMap,
      mem_elim_nil_iff]
  simp only [findings_analyze, Findings.mem_items_pushAll, or_iff_left hlog, or_iff_left hnotes,
    List.not_mem_nil, false_or, hbroken, htree]
  constructor
  · rintro ⟨_, id, hrefers, hnone, hid, rfl⟩
    exact ⟨id, hid, hrefers, hnone⟩
  · rintro ⟨id, hid, hrefers, hnone⟩
    exact ⟨context, id, hrefers, hnone, hid, rfl⟩

/-- Without further scripts that run from the start, an analysis finds a script missing in a
context exactly when the check of the records finds a reference to it broken there, in some letter
case. All broken references are to scripts, by an actor or among those that run from the start. So
the analysis finds no script missing exactly when the check finds no reference broken. -/
theorem missingScript_iff_missingReference (r : Records) (settings : Settings)
    (h : settings.startScripts = []) :
    let found := (r.analyze settings).findings.items
    (∀ s context, .missingScript s context ∈ found ↔
      ∃ id, id.toLower = s ∧ .missingReference "script" id context ∈ r.defects) ∧
    (∀ kind id context, .missingReference kind id context ∈ r.defects →
      kind = "script" ∧ r.RefersTo context id) ∧
    ((∀ s context, .missingScript s context ∉ found) ↔
      ∀ kind id context, .missingReference kind id context ∉ r.defects) := by
  intro found
  have hfound (s context : String) : .missingScript s context ∈ found ↔
      ∃ id, id.toLower = s ∧ .missingReference "script" id context ∈ r.defects := by
    rw [mem_findings_analyze_iff h]
    simp only [mem_defects_iff, true_and]
  have hreference (kind id context : String)
      (hmem : .missingReference kind id context ∈ r.defects) :
      kind = "script" ∧ r.RefersTo context id := by
    obtain ⟨hkind, hrefers, -⟩ := mem_defects_iff.1 hmem
    exact ⟨hkind, hrefers⟩
  refine ⟨hfound, hreference, ?_, ?_⟩
  · intro hnone kind id context hmem
    obtain ⟨rfl, -⟩ := hreference kind id context hmem
    exact hnone id.toLower context ((hfound _ _).2 ⟨id, rfl, hmem⟩)
  · intro hnone s context hmem
    obtain ⟨id, -, hmem⟩ := (hfound s context).1 hmem
    exact hnone _ id context hmem

/-- A guard runs a script that does not exist and that is to run from the start too, a smith one
that calls itself by another name. -/
def garrison : Records where
  scripts := [{ id := "Patrol", text := "begin watch\nend" }]
  actors := [{ id := "Guard", script := some "Ghost" }, { id := "Smith", script := some "PATROL" }]
  startScripts := ["ghost", "patrol"]

theorem garrison_missingScript_iff_missingReference :
    let settings : Settings := {}
    let found := (garrison.analyze settings).findings.items
    settings.startScripts = [] ∧ .missingScript "ghost" "actor 'Guard'" ∈ found ∧
      .missingReference "script" "Ghost" "actor 'Guard'" ∈ garrison.defects ∧
      ∀ context, .missingScript "patrol" context ∉ found := by
  intro settings found
  have hsettings : settings.startScripts = [] := rfl
  obtain ⟨hiff, -⟩ := missingScript_iff_missingReference garrison settings hsettings
  have hguard : garrison.RefersTo "actor 'Guard'" "Ghost" :=
    .actor (a := { id := "Guard", script := some "Ghost" }) List.mem_cons_self rfl
  have hghost : garrison.hasScript "Ghost" = false := by decide +kernel
  have hbroken : .missingReference "script" "Ghost" "actor 'Guard'" ∈ garrison.defects :=
    mem_defects_iff.2 ⟨rfl, hguard, hghost⟩
  refine ⟨hsettings, (hiff _ _).2 ⟨"Ghost", by decide +kernel, hbroken⟩, hbroken, ?_⟩
  intro context hmem
  obtain ⟨id, hid, hmem⟩ := (hiff _ _).1 hmem
  have hpatrol : garrison.hasScript id = true := by
    rw [hasScript, hid]
    decide +kernel
  obtain ⟨-, -, hnone⟩ := mem_defects_iff.1 hmem
  rw [hpatrol] at hnone
  contradiction

end Records

end Questline
