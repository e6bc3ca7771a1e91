import Questline.Proofs.Analysis.Sources
import Questline.Proofs.Script.Reachable
import Questline.Proofs.Script.Resolution

/-!
# Journal gates become links

A journal update that can only be reached when the journal has got to an earlier stage links that
stage to its own. The requirement is no guard, so that folding leaves it in the gate; of two equal
gates only one becomes a branch, which asks for the same; and later hits take no branch away.

## Main definitions

* `Records.NaNFree`: records whose conditions compare with numbers only
* `QuestLog.Asks`: a stage of a log that asks for another one

## Main results

* `Tree.NaNFree.inline`: scripts that are put into a tree bring nothing else to compare with
* `QuestLog.asks_foldl_add`: a hit whose gate asks for a stage leaves a branch that does
* `Records.isSome_stageOf?_analyze`: the stages of an analysis are those of its journals
* `Records.isLink_analyze`: a journal gate becomes a link
-/

namespace Questline

theorem Requirement.AsksFor.isGuard_eq_false {r : Requirement} {quest : String} {index : Int}
    (h : r.AsksFor quest index) : r.isGuard = false := by
  rw [isGuard, h.kind_eq]
  rfl

/-! ### Trees that compare with numbers only -/

namespace Tree

variable {t u : Tree} {lookup : String → Option Tree} {site : Nat} {g : Gate} {r : Requirement}

theorem nanFree_iff : t.NaNFree ↔ ∀ n b, t.block? n = some b → b.gate.NaNFree := by
  constructor
  · exact fun h n b hb => h b (Array.mem_of_getElem? hb)
  · intro h b hb
    obtain ⟨n, hn⟩ := Array.getElem?_of_mem hb
    exact h n b hn

instance : Decidable t.NaNFree :=
  inferInstanceAs (Decidable (∀ b ∈ t.blocks, b.gate.NaNFree))

theorem NaNFree.graft (ht : t.NaNFree) (hu : u.NaNFree) (hs : site < t.size) :
    (t.graft site u).NaNFree := by
  rw [nanFree_iff] at *
  intro n b hb
  obtain ⟨-, b', hb', rfl⟩ | ⟨k, b', -, hb', rfl⟩ := block?_graft_cases hs hb
  · exact ht n b' hb'
  · exact hu k b' hb'

/-- Scripts that are put into a tree bring nothing else to compare with. -/
theorem NaNFree.inline (harena : t.IsArena) (ht : t.NaNFree)
    (hl : ∀ id u, lookup id = some u → u.IsArena ∧ u.NaNFree) (depth : Nat) :
    (t.inline lookup depth).tree.NaNFree := by
  have hkeep := inline_induction (P := fun t => t.IsArena ∧ t.NaNFree) (fun _ h => h.1.numbered)
    (fun _ _ _ h h' hs => ⟨h.1.graft h'.1 hs, h.2.graft h'.2 hs⟩) ⟨harena, ht⟩ hl depth
  exact hkeep.2

/-- What is no guard stays in a gate when its guards are folded. -/
theorem NaNFree.mem_resolve (ht : t.NaNFree) (hg : g.NaNFree) (hr : r ∈ g.requirements)
    (hguard : r.isGuard = false) : r ∈ (t.resolve g).requirements := by
  obtain ⟨folded, hf⟩ := ht.exists_folds hg
  have hothers : r ∈ g.requirements.filter (!·.isGuard) := List.mem_filter.2 ⟨hr, by simp [hguard]⟩
  exact (List.mem_filter.1 (hf.others_sublist.subset hothers)).1

end Tree

/-! ### Branches that ask for a stage -/

/-- What one of two equal lists has, the other one has too. -/
theorem exists_beq_of_mem {α : Type} [BEq α] {l m : List α} {a : α} (h : (l == m) = true)
    (ha : a ∈ m) : ∃ b ∈ l, (b == a) = true := by
  induction l generalizing m with
  | nil =>
    cases m with
    | nil => exact absurd ha List.not_mem_nil
    | cons y m => contradiction
  | cons x l ih =>
    cases m with
    | nil => contradiction
    | cons y m =>
      rw [List.cons_beq_cons, Bool.and_eq_true] at h
      obtain rfl | ha := List.mem_cons.1 ha
      · exact ⟨x, List.mem_cons_self, h.1⟩
      · obtain ⟨b, hb, hba⟩ := ih h.2 ha
        exact ⟨b, List.mem_cons_of_mem x hb, hba⟩

namespace Stage

variable {s : Stage} {g : Gate} {r : Requirement} {quest : String} {index : Int}

/-- A branch more takes nothing away. -/
theorem AsksFor.addBranch (hs : s.AsksFor quest index) (g : Gate) (o : Origin) :
    ((s.addBranch? g o).getD s).AsksFor quest index := by
  cases h : s.addBranch? g o with
  | none => exact hs
  | some t =>
    obtain ⟨b, hb, r, hr, hask⟩ := hs
    rw [Option.getD_some, addBranch?_cases h]
    exact ⟨b, List.mem_append_left _ hb, r, hr, hask⟩

/-- A stage with the branch `g` has it, or another one that requires the same. -/
theorem asksFor_addBranch (hr : r ∈ g.requirements) (hask : r.AsksFor quest index) (s : Stage)
    (o : Origin) : ((s.addBranch? g o).getD s).AsksFor quest index := by
  cases h : s.addBranch? g o with
  | none =>
    obtain ⟨b, hb, hbg⟩ := addBranch?_eq_none_iff.1 h
    obtain ⟨r', hr', heq⟩ := exists_beq_of_mem (l := b.requirements) hbg hr
    exact ⟨b, hb, r', hr', hask.congr heq⟩
  | some t =>
    rw [Option.getD_some, addBranch?_cases h]
    exact ⟨g, List.mem_append_right _ List.mem_cons_self, r, hr, hask⟩

end Stage

namespace QuestLog

variable {l : QuestLog} {id : String} {i j : Int} {h : Hit} {hs : List Hit} {r : Requirement}

/-- Of the stages of a quest, `j` asks for `i`. -/
def Asks (l : QuestLog) (id : String) (i j : Int) : Prop :=
  ∃ s, stageOf? l.quests id j = some s ∧ s.AsksFor id i

/-- Hits make no stages, nor do they take any away. -/
theorem isSome_stageOf?_foldl_add (l : QuestLog) (hs : List Hit) (id : String) (i : Int) :
    (stageOf? (hs.foldl add l).quests id i).isSome = (stageOf? l.quests id i).isSome := by
  induction hs generalizing l with
  | nil => rfl
  | cons h hs ih =>
    rw [List.foldl_cons, ih, add, stageOf?_addHit]
    split
    · exact Option.isSome_map
    · rfl

theorem Asks.add (hask : l.Asks id i j) (h : Hit) : (l.add h).Asks id i j := by
  obtain ⟨s, hs, hask⟩ := hask
  rw [Asks, QuestLog.add, stageOf?_addHit, hs]
  split
  · exact ⟨_, rfl, hask.addBranch h.gate h.origin⟩
  · exact ⟨s, rfl, hask⟩

theorem Asks.foldl_add (hask : l.Asks id i j) (hs : List Hit) :
    (hs.foldl QuestLog.add l).Asks id i j := by
  induction hs generalizing l with
  | nil => exact hask
  | cons h hs ih => exact ih (hask.add h)

theorem asks_add (hr : r ∈ h.gate.requirements) (hask : r.AsksFor h.quest.toLower i)
    (hstage : (stageOf? l.quests h.quest.toLower h.index).isSome) :
    (l.add h).Asks h.quest.toLower i h.index := by
  obtain ⟨s, hs⟩ := Option.isSome_iff_exists.1 hstage
  rw [Asks, QuestLog.add, stageOf?_addHit, if_pos ⟨rfl, rfl⟩, hs]
  exact ⟨_, rfl, Stage.asksFor_addBranch hr hask s h.origin⟩

/-- A hit whose gate asks for a stage leaves a branch that does, whatever hits come before and
after it. -/
theorem asks_foldl_add (hmem : h ∈ hs) (hr : r ∈ h.gate.requirements)
    (hask : r.AsksFor h.quest.toLower i)
    (hstage : (stageOf? l.quests h.quest.toLower h.index).isSome) :
    (hs.foldl QuestLog.add l).Asks h.quest.toLower i h.index := by
  -- the hits before it keep the stage, those after it keep its branches
  obtain ⟨before, after, rfl⟩ := List.append_of_mem hmem
  rw [List.foldl_append, List.foldl_cons]
  refine Asks.foldl_add (asks_add hr hask ?_) after
  rwa [isSome_stageOf?_foldl_add]

theorem isSome_stageOf?_build (l : QuestLog) (id : String) (i : Int) :
    (stageOf? l.build id i).isSome = (stageOf? l.quests id i).isSome := by
  rw [stageOf?_build, stageOf?]
  cases l.quests[id]? with
  | none => rfl
  | some q => exact Option.isSome_map

end QuestLog

/-! ### Records -/

/-- No condition of a script, of a dialogue result or of a response with one compares with what is
not a number. -/
structure Records.NaNFree (r : Records) (settings : Settings) : Prop where
  scripts : ∀ s ∈ r.scripts, (Tree.parse s.text (.withGlobals settings.globals)).1.NaNFree
  results : ∀ x ∈ r.results, (resultTree settings x.1 x.2.1 x.2.2).NaNFree

namespace Records

variable {r : Records} {settings : Settings} {o : Origin} {t : Tree}

theorem NaNFree.inlined (h : r.NaNFree settings) (harena : t.IsArena) (ht : t.NaNFree) :
    (r.inlined settings t).NaNFree := by
  refine ht.inline harena (fun id u hu => ?_) settings.inlineDepth
  obtain ⟨s, hs, rfl⟩ := (AreParsed.parseScripts r.scripts _).exists_script id u hu
  exact ⟨Tree.isArena_parse _ _, h.scripts s hs⟩

theorem NaNFree.sources (h : r.NaNFree settings) (ht : (o, t) ∈ r.sources settings) :
    t.NaNFree := by
  obtain ht | ht := List.mem_append.1 ht
  · obtain ⟨⟨id, u⟩, hu, heq⟩ := List.mem_map.1 ht
    obtain ⟨rfl, rfl⟩ := Prod.mk.inj heq
    have hu := Std.ExtTreeMap.mem_toList_iff_getElem?_eq_some.1 hu
    obtain ⟨s, hs, rfl⟩ := (AreParsed.parseScripts r.scripts _).exists_script id u hu
    exact h.inlined (Tree.isArena_parse _ _) (h.scripts s hs)
  · split at ht
    · obtain ⟨⟨topic, e, source⟩, hx, heq⟩ := List.mem_map.1 ht
      obtain ⟨rfl, rfl⟩ := Prod.mk.inj heq
      exact h.inlined (Tree.isArena_parseResult ..) (h.results (topic, e, source) hx)
    · exact absurd ht List.not_mem_nil

/-- The stages of an analysis are those of its journals. -/
theorem isSome_stageOf?_analyze (r : Records) (settings : Settings) (id : String) (i : Int) :
    (stageOf? (r.analyze settings).quests id i).isSome =
      (stageOf? (r.journalLog settings).quests id i).isSome := by
  rw [quests_analyze, QuestLog.isSome_stageOf?_build, recordAll_entries,
    QuestLog.isSome_stageOf?_foldl_add]

/-- A stage of an analysis that some hit asks for, at an earlier stage, follows that one. -/
theorem isLink_analyze_of_asks {id : String} {i j : Int}
    (hasks : ((r.hits settings).foldl QuestLog.add (r.journalLog settings)).Asks id i j)
    (hi : (stageOf? (r.journalLog settings).quests id i).isSome) (hij : i < j) :
    IsLink (r.analyze settings).quests id i j := by
  have hunlinked : ((QuestLog.withPlayer settings.playerId).recordAll
      (r.entries settings)).IsUnlinked := (QuestLog.isUnlinked_new _).recordAll _
  rw [← QuestLog.isSome_stageOf?_foldl_add _ (r.hits settings), Option.isSome_iff_exists] at hi
  obtain ⟨s, hs⟩ := hi
  obtain ⟨u, hu, hask⟩ := hasks
  rw [quests_analyze, hunlinked.isLink_build_iff, recordAll_entries]
  exact ⟨s, u, hs, hu, hij, .inl hask⟩

/-- Where a journal update can only be reached when the journal of its quest stands at an earlier
stage, or has got that far, an analysis lets its stage follow that one. -/
theorem isLink_analyze (hnan : r.NaNFree settings) (ht : (o, t) ∈ r.sources settings)
    {x : JournalUpdate} (hx : x ∈ t.journalUpdates) {p : Requirement}
    (hp : p ∈ x.call.gate.requirements) {i : Int} (hask : p.AsksFor x.quest i)
    (hi : (stageOf? (r.analyze settings).quests x.quest i).isSome)
    (hj : (stageOf? (r.analyze settings).quests x.quest x.index).isSome) (hij : i < x.index) :
    IsLink (r.analyze settings).quests x.quest i x.index := by
  obtain ⟨hlower, n, hgate⟩ := Tree.exists_gate_of_mem_journalUpdates hx
  rw [isSome_stageOf?_analyze] at hi hj
  -- without `NaNFree` the folding of guards need not stop
  have hfree : t.NaNFree := hnan.sources ht
  have hresolve : p ∈ (t.resolve x.call.gate).requirements :=
    hfree.mem_resolve (hgate ▸ hfree.gate n) hp hask.isGuard_eq_false
  have hmem : (⟨x.quest, x.index, t.resolve x.call.gate, o⟩ : Hit) ∈ r.hits settings :=
    List.mem_flatMap.2 ⟨(o, t), ht, List.mem_map.2 ⟨x, hx, rfl⟩⟩
  have hasks := QuestLog.asks_foldl_add (l := r.journalLog settings) (i := i) hmem hresolve
  rw [hlower] at hasks
  exact isLink_analyze_of_asks (hasks hask hj) hi hij

/-- A journal with two stages, and a script that reaches the second one through another script that
is started once the first one is reached. -/
def startedUpdate : Records where
  topics := [{ id := "Q", kind := .journal,
               responses := [{ id := "1", index := some 10 }, { id := "2", index := some 20 }] },
    { id := "hello", responses := [{ id := "3", result := some "Journal Q 10" }] }]
  scripts := [
    { id := "a", text := "begin a\nif ( GetJournalIndex Q >= 10 )\nStartScript b\nendif\nend" },
    { id := "b", text :=
      "begin b\nshort done\nif ( done == 0 )\nJournal Q 20\nset done to 1\nendif\nend" }]

theorem startedUpdate_isLink : startedUpdate.NaNFree {} ∧
    ∃ o t x p, (o, t) ∈ startedUpdate.sources {} ∧ x ∈ t.journalUpdates ∧ x.quest = "q" ∧
      x.index = 20 ∧ p ∈ x.call.gate.requirements ∧ p.AsksFor "q" 10 ∧
      IsLink (startedUpdate.analyze {}).quests "q" 10 20 := by
  have hnan : startedUpdate.NaNFree {} := ⟨by decide +kernel, by decide +kernel⟩
  obtain ⟨⟨o, t⟩, ht, x, hx, hquest, hindex, p, hp, hask⟩ :
      ∃ s ∈ startedUpdate.sources {}, ∃ x ∈ s.2.journalUpdates, x.quest = "q" ∧ x.index = 20 ∧
        ∃ p ∈ x.call.gate.requirements, p.AsksFor "q" 10 := by
    decide +kernel
  have hlink := isLink_analyze hnan ht hx hp (i := 10) (hquest ▸ hask)
  rw [hquest, hindex, isSome_stageOf?_analyze, isSome_stageOf?_analyze] at hlink
  exact ⟨hnan, o, t, x, p, ht, hx, hquest, hindex, hp, hask,
    hlink (by decide +kernel) (by decide +kernel) (by decide)⟩

end Records

end Questline
