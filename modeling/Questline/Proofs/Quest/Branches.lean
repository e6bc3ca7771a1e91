import Questline.Proofs.Quest.Log
import Questline.Proofs.Script.Resolution

/-!
# No journal update is lost

The branches of a stage are the gates of the hits on it since it exists, each once, with the origin
of the first hit that brought it. A hit on a stage that does not exist yet is reported, and that is
all that it does.

## Main definitions

* `Merges`: branches and origins are those of some hits, without repetitions
* `LogStep`, `QuestLog.performAll`: topics, hits and whole trees, entered into a log in any order
* `QuestLog.hitsOn`: the hits on a stage from when it exists

## Main results

* `Merges.addBranch`: one more hit on a stage
* `QuestLog.paths_recordAll`: what each hit keeps of a stage, any entries keep
* `QuestLog.IsMerged.recordAll`: the branches of a stage after any entries
* `QuestLog.performAll_keeps_hits`: stages and answers after any steps
-/

namespace Questline

/-! ### Equal gates -/

namespace Gate

variable {g h i : Gate}

theorem beq_self (hg : g.NaNFree) : (g == g) = true := by
  have hlist (rs : List Requirement) (hrs : ∀ r ∈ rs, r.hasNaN = false) : (rs == rs) = true := by
    induction rs with
    | nil => rfl
    | cons r rs ih =>
      rw [List.forall_mem_cons] at hrs
      rw [List.cons_beq_cons, Requirement.beq_self_iff.2 hrs.1, ih hrs.2]
      rfl
  exact hlist g.requirements hg

theorem beq_trans (hgh : (g == h) = true) (hhi : (h == i) = true) : (g == i) = true := by
  have hlist (rs ss ts : List Requirement) (hrs : (rs == ss) = true) (hss : (ss == ts) = true) :
      (rs == ts) = true := by
    induction rs generalizing ss ts with
    | nil =>
      cases ss with
      | nil => exact hss
      | cons s ss => contradiction
    | cons r rs ih =>
      cases ss with
      | nil => contradiction
      | cons s ss =>
        cases ts with
        | nil => contradiction
        | cons t ts =>
          rw [List.cons_beq_cons, Bool.and_eq_true] at hrs hss ⊢
          exact ⟨Requirement.beq_trans hrs.1 hss.1, ih ss ts hrs.2 hss.2⟩
  exact hlist _ _ _ hgh hhi

end Gate

/-! ### The branches of one stage -/

/-- The branches `bs` with the origins `os` are those of the hits `hs`: no two are equal, each comes
from the first hit with an equal gate, and none is missing. -/
structure Merges (bs : List Gate) (os : List Origin) (hs : List Hit) : Prop where
  length_eq : bs.length = os.length
  pairwise : bs.Pairwise fun b c => (b == c) = false
  first : ∀ p ∈ bs.zip os, ∃ h, hs.find? (·.gate == p.1) = some h ∧ h.gate = p.1 ∧ h.origin = p.2
  complete : ∀ h ∈ hs, ∃ b ∈ bs, (b == h.gate) = true

namespace Merges

variable {bs : List Gate} {os : List Origin} {hs : List Hit}

theorem nil : Merges [] [] [] where
  length_eq := rfl
  pairwise := .nil
  first := by simp
  complete := by simp

/-- A hit with a gate that is there already. -/
theorem repeated (h : Merges bs os hs) {hit : Hit} (hb : ∃ b ∈ bs, (b == hit.gate) = true) :
    Merges bs os (hs ++ [hit]) where
  length_eq := h.length_eq
  pairwise := h.pairwise
  first p hp := by
    obtain ⟨x, hx, hxp⟩ := h.first p hp
    exact ⟨x, by rw [List.find?_append, hx, Option.some_or], hxp⟩
  complete := List.forall_mem_append.2 ⟨h.complete, List.forall_mem_singleton.2 hb⟩

/-- A hit with a new gate. -/
theorem new (h : Merges bs os hs) {hit : Hit} (hgate : hit.gate.NaNFree)
    (hnew : ∀ b ∈ bs, (b == hit.gate) = false) :
    Merges (bs ++ [hit.gate]) (os ++ [hit.origin]) (hs ++ [hit]) where
  length_eq := by
    rw [List.length_append, List.length_append, h.length_eq]
    rfl
  pairwise := by
    refine List.pairwise_append.2 ⟨h.pairwise, List.pairwise_singleton _ _, fun b hb c hc => ?_⟩
    obtain rfl := List.mem_singleton.1 hc
    exact hnew b hb
  first p hp := by
    rw [List.zip_append h.length_eq, List.mem_append] at hp
    obtain hp | hp := hp
    · obtain ⟨x, hx, hxp⟩ := h.first p hp
      exact ⟨x, by rw [List.find?_append, hx, Option.some_or], hxp⟩
    · -- an earlier hit with an equal gate would have made a branch that equals this one
      obtain rfl := List.mem_singleton.1 hp
      have hnone : hs.find? (·.gate == hit.gate) = none := by
        rw [List.find?_eq_none]
        intro x hx hxg
        obtain ⟨b, hb, hbx⟩ := h.complete x hx
        exact Bool.false_ne_true ((hnew b hb).symm.trans (Gate.beq_trans hbx hxg))
      refine ⟨hit, ?_, rfl, rfl⟩
      rw [List.find?_append, hnone, Option.none_or]
      exact List.find?_cons_of_pos (Gate.beq_self hgate)
  complete := by
    refine List.forall_mem_append.2 ⟨fun x hx => ?_, List.forall_mem_singleton.2 ?_⟩
    · obtain ⟨b, hb, hbx⟩ := h.complete x hx
      exact ⟨b, List.mem_append_left _ hb, hbx⟩
    · exact ⟨hit.gate, List.mem_append_right _ List.mem_cons_self, Gate.beq_self hgate⟩

end Merges

/-- The branches of a stage with their origins; a stage that does not exist has none. -/
def Stage.paths (s : Option Stage) : List Gate × List Origin :=
  s.elim ([], []) fun s => (s.branches, s.origins)

/-- One more hit on a stage. -/
theorem Merges.addBranch {s : Stage} {hs : List Hit} (h : Merges s.branches s.origins hs)
    {hit : Hit} (hgate : hit.gate.NaNFree) :
    Merges ((s.addBranch? hit.gate hit.origin).getD s).branches
      ((s.addBranch? hit.gate hit.origin).getD s).origins (hs ++ [hit]) := by
  cases ht : s.addBranch? hit.gate hit.origin with
  | none => exact h.repeated (Stage.addBranch?_eq_none_iff.1 ht)
  | some t =>
    rw [Option.getD_some, Stage.addBranch?_cases ht]
    exact h.new hgate (Stage.forall_of_addBranch?_eq_some ht)

/-- An entry whose gate, if it has one, compares with nothing that is not a number. -/
def LogEntry.NaNFree : LogEntry → Prop
  | topic _ => True
  | hit h => h.gate.NaNFree

/-! ### What a topic does -/

namespace Quest

variable (q : Quest) (i : Int)

/-- A journal entry changes the branches of no stage, and takes no stage away. -/
theorem paths_enter (n : Nat) (e : Response) :
    Stage.paths (q.enter n e).1.stages[i]? = Stage.paths q.stages[i]? := by
  unfold enter
  split
  · rfl
  · split
    · rfl
    · next j hj =>
      dsimp only
      rw [Std.ExtTreeMap.getElem?_insert]
      split
      · next heq =>
        obtain rfl := Std.LawfulEqCmp.eq_of_compare heq
        cases q.stages[j]? <;> rfl
      · rfl

theorem paths_enterAll (es : List Response) :
    Stage.paths (q.enterAll es).1.stages[i]? = Stage.paths q.stages[i]? := by
  unfold enterAll
  generalize 0 = n
  induction es generalizing q n with
  | nil => rfl
  | cons e es ih => exact (ih _ _).trans (q.paths_enter i n e)

end Quest

namespace QuestLog

variable {l : QuestLog} {id : String} {i : Int} {e : LogEntry} {es : List LogEntry}

/-- The branches of a stage of a log with their origins. -/
def pathsTo (l : QuestLog) (id : String) (i : Int) : List Gate × List Origin :=
  Stage.paths (stageOf? l.quests id i)

/-- A topic makes stages without branches, and changes the branches of no other. -/
theorem pathsTo_addTopic (l : QuestLog) (t : Topic) (id : String) (i : Int) :
    (l.addTopic t).1.pathsTo id i = l.pathsTo id i := by
  unfold addTopic
  split
  · dsimp only
    rw [pathsTo, stageOf?_insert]
    split
    · next heq =>
      obtain rfl := heq
      rw [Quest.paths_enterAll, pathsTo, stageOf?]
      cases l.quests[t.id.toLower]? with
      | none => simp
      | some q => rfl
    · rfl
  · rfl

/-! ### Any entries -/

/-- The hit on a stage that exists, if an entry is one. -/
def hitOn? (l : QuestLog) (id : String) (i : Int) : LogEntry → Option Hit
  | .topic _ => none
  | .hit h =>
    if h.quest.toLower = id ∧ h.index = i ∧ (stageOf? l.quests id i).isSome then some h else none

/-- The hits on a stage among some entries, from when the stage exists. -/
def hitsOn (l : QuestLog) (id : String) (i : Int) : List LogEntry → List Hit
  | [] => []
  | e :: es => (l.hitOn? id i e).toList ++ (l.record e).hitsOn id i es

/-- The branches of each stage are those of the hits that `past` gives for it. -/
def IsMerged (l : QuestLog) (past : String → Int → List Hit) : Prop :=
  ∀ (id : String) (i : Int), Merges (l.pathsTo id i).1 (l.pathsTo id i).2 (past id i)

theorem pathsTo_new (player id : String) (i : Int) : pathsTo { player } id i = ([], []) := by
  simp [pathsTo, stageOf?, Stage.paths]

theorem isMerged_new (player : String) : IsMerged { player } fun _ _ => [] := by
  intro id i
  rw [pathsTo_new]
  exact Merges.nil

section

variable {R : List Gate → List Origin → List Hit → Prop}

/-- What one more hit keeps of the branches of a stage, an entry keeps: a topic makes stages without
branches, and a hit is one more on the stage that it names, if that exists. -/
theorem paths_record {past : List Hit}
    (hadd : ∀ (s : Stage) (hit : Hit), e = .hit hit → R s.branches s.origins past →
      R ((s.addBranch? hit.gate hit.origin).getD s).branches
        ((s.addBranch? hit.gate hit.origin).getD s).origins (past ++ [hit]))
    (h : R (l.pathsTo id i).1 (l.pathsTo id i).2 past) :
    R ((l.record e).pathsTo id i).1 ((l.record e).pathsTo id i).2
      (past ++ (l.hitOn? id i e).toList) := by
  cases e with
  | topic t =>
    rw [record, pathsTo_addTopic, hitOn?, Option.toList_none, List.append_nil]
    exact h
  | hit hit =>
    rw [pathsTo] at h ⊢
    rw [record, QuestLog.add, stageOf?_addHit]
    by_cases hon : hit.quest.toLower = id ∧ hit.index = i
    · rw [if_pos hon]
      cases hs : stageOf? l.quests id i with
      | none =>
        have hhit : l.hitOn? id i (.hit hit) = none := by simp [hitOn?, hs]
        rw [hs] at h
        rw [hhit, Option.toList_none, List.append_nil]
        exact h
      | some s =>
        have hhit : l.hitOn? id i (.hit hit) = some hit := by simp [hitOn?, hs, hon]
        rw [hs] at h
        rw [hhit]
        exact hadd s hit rfl h
    · have hhit : l.hitOn? id i (.hit hit) = none := by
        rw [hitOn?, if_neg fun h => hon ⟨h.1, h.2.1⟩]
      rw [if_neg hon, hhit, Option.toList_none, List.append_nil]
      exact h

/-- What one more hit keeps of the branches of a stage, any entries keep. -/
theorem paths_recordAll {past : List Hit}
    (hadd : ∀ (s : Stage) (past : List Hit) (hit : Hit), .hit hit ∈ es →
      R s.branches s.origins past →
        R ((s.addBranch? hit.gate hit.origin).getD s).branches
          ((s.addBranch? hit.gate hit.origin).getD s).origins (past ++ [hit]))
    (h : R (l.pathsTo id i).1 (l.pathsTo id i).2 past) :
    R ((l.recordAll es).pathsTo id i).1 ((l.recordAll es).pathsTo id i).2
      (past ++ l.hitsOn id i es) := by
  induction es generalizing l past with
  | nil => simpa [hitsOn, QuestLog.recordAll] using h
  | cons e es ih =>
    have hone := paths_record (e := e)
      (fun s hit he => hadd s past hit (he ▸ List.mem_cons_self)) h
    have hall := ih (fun s past hit hmem => hadd s past hit (List.mem_cons_of_mem e hmem)) hone
    simpa [hitsOn, QuestLog.recordAll] using hall

end

/-- After any entries, the branches of a stage are those of all hits on it since it exists. -/
theorem IsMerged.recordAll {past : String → Int → List Hit} (h : l.IsMerged past)
    (hes : ∀ e ∈ es, e.NaNFree) :
    (l.recordAll es).IsMerged fun id i => past id i ++ l.hitsOn id i es :=
  fun id i => paths_recordAll (fun _ _ hit hmem hs => hs.addBranch (hes (.hit hit) hmem)) (h id i)

/-! ### Answers -/

/-- What a hit answers, and what it reports. -/
theorem addHit_eq (l : QuestLog) (quest : String) (index : Int) (g : Gate) (o : Origin) :
    (l.addHit quest index g o).2 =
        ((stageOf? l.quests quest.toLower index).bind (·.addBranch? g o)).isSome ∧
      (l.addHit quest index g o).1.findings = (stageOf? l.quests quest.toLower index).elim
        (l.findings.push (.missingStage quest.toLower index o.describe)) fun _ => l.findings := by
  simp only [addHit, stageOf?]
  cases hq : l.quests[quest.toLower]? with
  | none => exact ⟨rfl, rfl⟩
  | some q =>
    simp only [Option.bind_some]
    cases hs : q.stages[index]? with
    | none => exact ⟨rfl, rfl⟩
    | some s =>
      simp only [Option.map_some, Option.bind_some]
      cases ht : s.addBranch? g o <;> exact ⟨rfl, rfl⟩

variable {hit : Hit} {s : Stage}

/-- The log after a hit, and the answer. -/
def answer (l : QuestLog) (h : Hit) : QuestLog × Bool :=
  l.addHit h.quest h.index h.gate h.origin

/-- A hit on a stage that exists leaves it with its gate among the branches, and says whether that
is new. It changes no other stage. -/
theorem answer_of_some (hgate : hit.gate.NaNFree)
    (hs : stageOf? l.quests hit.quest.toLower hit.index = some s) :
    ∃ s', (∀ id i, stageOf? (l.answer hit).1.quests id i =
        if hit.quest.toLower = id ∧ hit.index = i then some s' else stageOf? l.quests id i) ∧
      (∃ b ∈ s'.branches, (b == hit.gate) = true) ∧
      s' = if (l.answer hit).2 then
        { s with branches := s.branches ++ [hit.gate], origins := s.origins ++ [hit.origin] }
        else s := by
  obtain ⟨hanswer, -⟩ := l.addHit_eq hit.quest hit.index hit.gate hit.origin
  rw [hs, Option.bind_some] at hanswer
  refine ⟨(s.addBranch? hit.gate hit.origin).getD s, fun id i => ?_, ?_, ?_⟩
  · rw [answer, stageOf?_addHit]
    split
    · next hon =>
      obtain ⟨rfl, rfl⟩ := hon
      rw [hs, Option.map_some]
    · rfl
  · cases ht : s.addBranch? hit.gate hit.origin with
    | none => exact Stage.addBranch?_eq_none_iff.1 ht
    | some t =>
      rw [Option.getD_some, Stage.addBranch?_cases ht]
      exact ⟨hit.gate, List.mem_append_right _ List.mem_cons_self, Gate.beq_self hgate⟩
  · rw [answer, hanswer]
    cases ht : s.addBranch? hit.gate hit.origin with
    | none => rfl
    | some t => exact Stage.addBranch?_cases ht

/-- A hit on a stage that does not exist is reported, and changes no quest. -/
theorem answer_of_none (hs : stageOf? l.quests hit.quest.toLower hit.index = none) :
    (l.answer hit).2 = false ∧ (l.answer hit).1.quests = l.quests ∧
      (l.answer hit).1.findings =
        l.findings.push (.missingStage hit.quest.toLower hit.index hit.origin.describe) := by
  obtain ⟨hanswer, hfindings⟩ := l.addHit_eq hit.quest hit.index hit.gate hit.origin
  rw [hs] at hanswer hfindings
  refine ⟨hanswer, ?_, hfindings⟩
  obtain ⟨hl, -⟩ | ⟨q, s, t, hq, hs', -⟩ := l.addHit_cases hit.quest hit.index hit.gate hit.origin
  · exact hl
  · rw [stageOf?, hq, Option.bind_some, hs'] at hs
    contradiction

/-- Findings are kept once each. -/
theorem nodup_items_recordAll (h : l.findings.items.Nodup) (es : List LogEntry) :
    (l.recordAll es).findings.items.Nodup := by
  induction es generalizing l with
  | nil => exact h
  | cons e es ih =>
    refine ih ?_
    cases e with
    | topic t =>
      rw [record, addTopic]
      split <;> exact h
    | hit hit =>
      rw [record, add, (l.addHit_eq hit.quest hit.index hit.gate hit.origin).2]
      cases stageOf? l.quests hit.quest.toLower hit.index with
      | none => exact Findings.nodup_items_push h _
      | some s => exact h

end QuestLog

/-! ### Whole trees -/

/-- The answers to some hits, one after the other. -/
def QuestLog.answers (l : QuestLog) : List Hit → List Bool
  | [] => []
  | h :: hs => (l.answer h).2 :: (l.answer h).1.answers hs

/-- To collect a tree is to add its hits, and to count those that are new. -/
theorem QuestLog.collect_eq (l : QuestLog) (t : Tree) (o : Origin) :
    l.collect t o = ((t.hits o).foldl add l, (l.answers (t.hits o)).count true) := by
  have hfold (us : List JournalUpdate) (l : QuestLog) (n : Nat) :
      (us.foldl (fun x u =>
        ((x.1.addHit u.quest u.index (t.resolve u.call.gate) o).1,
          if (x.1.addHit u.quest u.index (t.resolve u.call.gate) o).2 then x.2 + 1 else x.2))
        (l, n)).2 =
      n + (l.answers (us.map fun u =>
        ⟨u.quest, u.index, t.resolve u.call.gate, o⟩)).count true := by
    induction us generalizing l n with
    | nil => rfl
    | cons u us ih =>
      rw [List.foldl_cons, ih, List.map_cons, answers, List.count_cons, answer]
      dsimp only
      generalize (l.addHit u.quest u.index (t.resolve u.call.gate) o).2 = new
      cases new with
      | false => rfl
      | true => exact Nat.add_right_comm n 1 _
  refine Prod.ext (l.collect_fst t o) ?_
  have hcount := hfold t.journalUpdates l 0
  rw [Nat.zero_add] at hcount
  exact hcount

namespace Tree

variable {t : Tree} {g : Gate}

/-- Folding brings no other comparands in. -/
theorem NaNFree.resolve (ht : t.NaNFree) (hg : g.NaNFree) : (t.resolve g).NaNFree := by
  obtain ⟨folded, hf⟩ := ht.exists_folds hg
  intro r hr
  have hreach := hf.reaches (fun r hr => ⟨r, hr, .refl⟩) rfl r hr
  obtain hr | hr := List.mem_append.1 (Gate.mem_pool hreach)
  · exact hg r hr
  · obtain ⟨a, ha, hr⟩ := List.mem_flatMap.1 hr
    exact ht.assignments a ha r hr

theorem NaNFree.hits (ht : t.NaNFree) (o : Origin) : ∀ h ∈ t.hits o, h.gate.NaNFree := by
  intro h hh
  obtain ⟨u, hu, rfl⟩ := List.mem_map.1 hh
  obtain ⟨-, id, hgate⟩ := exists_gate_of_mem_journalUpdates hu
  rw [hgate]
  exact ht.resolve (ht.gate id)

end Tree

/-! ### Any steps -/

/-- What can be done to a log: a topic, a hit, or all hits of a tree. -/
inductive LogStep where
  | topic (t : Topic)
  | hit (h : Hit)
  | tree (t : Tree) (o : Origin)

namespace LogStep

/-- The entries that a step makes. -/
def entries : LogStep → List LogEntry
  | topic t => [.topic t]
  | hit h => [.hit h]
  | tree t o => (t.hits o).map .hit

/-- A step with nothing to compare with that is not a number. -/
def NaNFree : LogStep → Prop
  | topic _ => True
  | hit h => h.gate.NaNFree
  | tree t _ => t.NaNFree

theorem NaNFree.entries {s : LogStep} (hs : s.NaNFree) : ∀ e ∈ s.entries, e.NaNFree := by
  intro e he
  cases s with
  | topic t =>
    obtain rfl := List.mem_singleton.1 he
    trivial
  | hit h =>
    obtain rfl := List.mem_singleton.1 he
    exact hs
  | tree t o =>
    obtain ⟨h, hh, rfl⟩ := List.mem_map.1 he
    exact Tree.NaNFree.hits hs o h hh

end LogStep

namespace QuestLog

/-- The log after a step. -/
def perform (l : QuestLog) : LogStep → QuestLog
  | .topic t => (l.addTopic t).1
  | .hit h => l.add h
  | .tree t o => (l.collect t o).1

/-- The log after some steps, in order. -/
def performAll (l : QuestLog) (ss : List LogStep) : QuestLog :=
  ss.foldl perform l

/-- Steps are done by their entries. -/
theorem performAll_eq_recordAll (l : QuestLog) (ss : List LogStep) :
    l.performAll ss = l.recordAll (ss.flatMap (·.entries)) := by
  induction ss generalizing l with
  | nil => rfl
  | cons s ss ih =>
    have hone : l.perform s = l.recordAll s.entries := by
      cases s with
      | topic t => rfl
      | hit h => rfl
      | tree t o => rw [perform, collect_fst, LogStep.entries, recordAll_hits]
    rw [List.flatMap_cons, recordAll_append, ← hone]
    exact ih _

/-- However a log is filled, no journal update is lost and none is made up. The branches of a stage
are those of the hits on it since it exists. A hit on a stage that exists leaves it with its gate
among the branches, and the answer says whether it is new there; a hit on any other is answered
with no, changes no quest and is found once among the findings. A tree does so for all its journal
updates, whose guards can be folded, and counts those that are new. -/
theorem performAll_keeps_hits (player : String) {ss : List LogStep} (hss : ∀ s ∈ ss, s.NaNFree) :
    let l := ({ player } : QuestLog).performAll ss
    (∀ id i s, stageOf? l.quests id i = some s →
      Merges s.branches s.origins
        (({ player } : QuestLog).hitsOn id i (ss.flatMap (·.entries)))) ∧
    (∀ (hit : Hit) (s : Stage), hit.gate.NaNFree →
      stageOf? l.quests hit.quest.toLower hit.index = some s →
      ∃ s', (∀ id i, stageOf? (l.answer hit).1.quests id i =
          if hit.quest.toLower = id ∧ hit.index = i then some s' else stageOf? l.quests id i) ∧
        (∃ b ∈ s'.branches, (b == hit.gate) = true) ∧
        s' = if (l.answer hit).2 then
          { s with branches := s.branches ++ [hit.gate], origins := s.origins ++ [hit.origin] }
          else s) ∧
    (∀ hit : Hit, stageOf? l.quests hit.quest.toLower hit.index = none →
      (l.answer hit).2 = false ∧ (l.answer hit).1.quests = l.quests ∧
        (l.answer hit).1.findings.items.count
          (.missingStage hit.quest.toLower hit.index hit.origin.describe) = 1) ∧
    ∀ (t : Tree) (o : Origin), t.NaNFree →
      l.collect t o = ((t.hits o).foldl add l, (l.answers (t.hits o)).count true) ∧
      ∀ u ∈ t.journalUpdates,
        (∃ folded, Gate.Folds t.assignments u.call.gate [] folded (t.resolve u.call.gate)) ∧
        (t.resolve u.call.gate).NaNFree := by
  intro l
  have hl : l = ({ player } : QuestLog).recordAll (ss.flatMap (·.entries)) :=
    performAll_eq_recordAll _ ss
  have hentries : ∀ e ∈ ss.flatMap (·.entries), e.NaNFree := by
    intro e he
    obtain ⟨s, hs, he⟩ := List.mem_flatMap.1 he
    exact (hss s hs).entries e he
  refine ⟨fun id i s hs => ?_, fun hit s hgate hs => answer_of_some hgate hs, fun hit hs => ?_,
    fun t o ht => ⟨l.collect_eq t o, fun u hu => ?_⟩⟩
  · have hmerged := (isMerged_new player).recordAll hentries id i
    rw [← hl, pathsTo, hs] at hmerged
    exact hmerged
  · obtain ⟨hanswer, hquests, hfindings⟩ := answer_of_none hs
    refine ⟨hanswer, hquests, ?_⟩
    have hnodup : l.findings.items.Nodup := by
      rw [hl]
      exact nodup_items_recordAll List.nodup_nil _
    rw [hfindings]
    exact List.count_eq_one_of_mem (Findings.nodup_items_push hnodup _)
      (Findings.mem_items_push.2 (.inr rfl))
  · obtain ⟨-, id, hgate⟩ := Tree.exists_gate_of_mem_journalUpdates hu
    rw [hgate]
    exact ⟨ht.exists_folds (ht.gate id), ht.resolve (ht.gate id)⟩

/-- A hit before its stage exists, and the journal that makes the stage. -/
def earlySteps : List LogStep :=
  [.hit ⟨"Q", 10, {}, .script "early"⟩,
    .topic { id := "Q", kind := .journal, responses := [{ id := "1", index := some 10 }] }]

theorem earlySteps_performAll_keeps_hits :
    (∀ s ∈ earlySteps, s.NaNFree) ∧
    let l := ({} : QuestLog).performAll earlySteps
    (∃ s s', stageOf? l.quests "Q".toLower 10 = some s ∧
      Merges s.branches s.origins
        (({} : QuestLog).hitsOn "Q".toLower 10 (earlySteps.flatMap (·.entries))) ∧
      stageOf? (l.answer ⟨"Q", 10, {}, .script "late"⟩).1.quests "Q".toLower 10 = some s' ∧
      ∃ b ∈ s'.branches, (b == ({} : Gate)) = true) ∧
    (l.answer ⟨"Q", 20, {}, .script "late"⟩).2 = false := by
  have hss : ∀ s ∈ earlySteps, s.NaNFree := by
    simp [earlySteps, LogStep.NaNFree, Gate.NaNFree]
  have hgate : ({} : Gate).NaNFree := by decide
  let quests := (({} : QuestLog).performAll earlySteps).quests
  have hstage : (stageOf? quests "Q".toLower 10).isSome := by
    decide +kernel
  have hnone : (stageOf? quests "Q".toLower 20).isNone := by
    decide +kernel
  obtain ⟨s, hs⟩ := Option.isSome_iff_exists.1 hstage
  obtain ⟨hmerges, hthere, hmissing, -⟩ := performAll_keeps_hits Questline.player hss
  obtain ⟨s', hquests, hbranch, -⟩ := hthere ⟨"Q", 10, {}, .script "late"⟩ s hgate hs
  have hs' := hquests "Q".toLower 10
  rw [if_pos ⟨rfl, rfl⟩] at hs'
  exact ⟨hss, ⟨s, s', hs, hmerges _ _ s hs, hs', hbranch⟩,
    (hmissing ⟨"Q", 20, {}, .script "late"⟩ (Option.isNone_iff_eq_none.1 hnone)).1⟩

end QuestLog

end Questline
