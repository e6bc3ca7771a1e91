import Questline.Proofs.Quest.Transitions
import Questline.Proofs.Text.Lines
import Questline.Quest.Log

/-!
# What a log knows, and the quests built from it

A log grows by topics and by hits, in any order. A topic makes stages, a hit adds to the branches
of one stage at most, and neither says what follows a stage: that is left to the end, when the
stages of all quests are linked.

## Main definitions

* `stageOf?`, `IsLink`: the stages of some quests, and which leads to which
* `Hit`, `LogEntry`, `QuestLog.recordAll`: a log that is filled entry by entry
* `QuestLog.IsUnlinked`: nothing is said yet of what follows a stage

## Main results

* `QuestLog.stageOf?_addHit`: what a hit does to a stage
* `QuestLog.IsUnlinked.recordAll`: no stage of a log is linked
* `QuestLog.isLink_build_recordAll`: in the quests built from a log the stages follow each other as
  their branches say, and none comes back to itself
-/

namespace Questline

open Relation

/-- The stage at an index of a quest, whose id is in lower case. -/
def stageOf? (quests : Std.ExtTreeMap String Quest) (id : String) (i : Int) : Option Stage :=
  (quests[id]?).bind (·.stages[i]?)

/-- Of the stages of a quest, `j` is among those that come next after `i`. -/
def IsLink (quests : Std.ExtTreeMap String Quest) (id : String) (i j : Int) : Prop :=
  ∃ s, stageOf? quests id i = some s ∧ j ∈ s.next

/-! ### One more branch -/

namespace Stage

variable {s t : Stage} {g : Gate} {o : Origin}

theorem addBranch?_cases (h : s.addBranch? g o = some t) :
    t = { s with branches := s.branches ++ [g], origins := s.origins ++ [o] } := by
  unfold addBranch? at h
  split at h
  · contradiction
  · exact (Option.some.inj h).symm

theorem addBranch?_eq_none_iff : s.addBranch? g o = none ↔ ∃ b ∈ s.branches, (b == g) = true := by
  rw [← List.any_eq_true]
  unfold addBranch?
  split
  · next hany => exact iff_of_true rfl hany
  · next hany => exact iff_of_false (Option.some_ne_none _) hany

theorem forall_of_addBranch?_eq_some (h : s.addBranch? g o = some t) :
    ∀ b ∈ s.branches, (b == g) = false := by
  intro b hb
  rw [← Bool.not_eq_true]
  intro hbg
  cases (addBranch?_eq_none_iff.2 ⟨b, hb, hbg⟩).symm.trans h

end Stage

/-! ### Entries -/

/-- A way to reach a stage. -/
structure Hit where
  quest : String
  index : Int
  gate : Gate
  origin : Origin

/-- What is entered into a log. -/
inductive LogEntry where
  | topic (t : Topic)
  | hit (h : Hit)

/-- A journal update is written in lower case, and has the gate of its block. -/
theorem Tree.exists_gate_of_mem_journalUpdates {t : Tree} {x : JournalUpdate}
    (hx : x ∈ t.journalUpdates) :
    x.quest.toLower = x.quest ∧ ∃ id, x.call.gate = t.gate id := by
  obtain ⟨c, hc, hx⟩ := List.mem_filterMap.1 hx
  obtain ⟨b, -, hc⟩ := List.mem_flatMap.1 hc
  obtain ⟨line, -, hc⟩ := List.mem_flatMap.1 hc
  obtain ⟨_, -, rfl⟩ := List.mem_map.1 hc
  unfold Call.journalUpdate? at hx
  split at hx
  · obtain ⟨i, -, rfl⟩ := Option.map_eq_some_iff.1 hx
    exact ⟨toLower_toLower _, b.id, rfl⟩
  · contradiction

/-- The hits that the journal updates of a tree are. -/
def Tree.hits (t : Tree) (o : Origin) : List Hit :=
  t.journalUpdates.map fun u =>
    { quest := u.quest, index := u.index, gate := t.resolve u.call.gate, origin := o }

namespace QuestLog

variable {l : QuestLog} {quest id : String} {index i j : Int} {g : Gate} {o : Origin}

/-- The log after one more hit. -/
def add (l : QuestLog) (h : Hit) : QuestLog :=
  (l.addHit h.quest h.index h.gate h.origin).1

/-- The log after one more entry. -/
def record (l : QuestLog) : LogEntry → QuestLog
  | .topic t => (l.addTopic t).1
  | .hit h => l.add h

/-- The log after some more entries, in order. -/
def recordAll (l : QuestLog) (es : List LogEntry) : QuestLog :=
  es.foldl record l

theorem player_add (l : QuestLog) (h : Hit) : (l.add h).player = l.player := by
  rw [add, addHit]
  split
  · rfl
  · split <;> rfl

theorem player_recordAll (l : QuestLog) (es : List LogEntry) :
    (l.recordAll es).player = l.player := by
  induction es generalizing l with
  | nil => rfl
  | cons e es ih =>
    refine (ih (l.record e)).trans ?_
    cases e with
    | topic t =>
      rw [record, addTopic]
      split <;> rfl
    | hit h => exact l.player_add h

theorem recordAll_append (l : QuestLog) (es es' : List LogEntry) :
    l.recordAll (es ++ es') = (l.recordAll es).recordAll es' :=
  List.foldl_append

theorem recordAll_hits (l : QuestLog) (hs : List Hit) :
    l.recordAll (hs.map .hit) = hs.foldl add l :=
  List.foldl_map

/-- To collect a tree is to add its hits. -/
theorem collect_fst (l : QuestLog) (t : Tree) (o : Origin) :
    (l.collect t o).1 = (t.hits o).foldl add l := by
  have hfold (us : List JournalUpdate) (n : Nat) :
      (us.foldl (fun x u =>
        ((x.1.addHit u.quest u.index (t.resolve u.call.gate) o).1,
          if (x.1.addHit u.quest u.index (t.resolve u.call.gate) o).2 then x.2 + 1 else x.2))
        (l, n)).1 =
      us.foldl (fun l u => l.add ⟨u.quest, u.index, t.resolve u.call.gate, o⟩) l := by
    induction us generalizing l n with
    | nil => rfl
    | cons u us ih => exact ih _ _
  rw [Tree.hits, List.foldl_map]
  exact hfold t.journalUpdates 0

/-! ### What a hit does -/

theorem stageOf?_insert (quests : Std.ExtTreeMap String Quest) (q : Quest) :
    stageOf? (quests.insert quest q) id i =
      if quest = id then q.stages[i]? else stageOf? quests id i := by
  rw [stageOf?, Std.ExtTreeMap.getElem?_insert]
  by_cases h : quest = id
  · rw [if_pos (Std.LawfulEqCmp.compare_eq_iff_eq.2 h), if_pos h, Option.bind_some]
  · rw [if_neg (mt Std.LawfulEqCmp.compare_eq_iff_eq.1 h), if_neg h, stageOf?]

/-- A hit gives one stage a branch, or changes no quest: there is no such stage, or it has the
branch already. -/
theorem addHit_cases (l : QuestLog) (quest : String) (index : Int) (g : Gate) (o : Origin) :
    ((l.addHit quest index g o).1.quests = l.quests ∧
      (stageOf? l.quests quest.toLower index).bind (·.addBranch? g o) = none) ∨
    ∃ q s t, l.quests[quest.toLower]? = some q ∧ q.stages[index]? = some s ∧
      s.addBranch? g o = some t ∧ (l.addHit quest index g o).1.quests =
        l.quests.insert quest.toLower { q with stages := q.stages.insert index t } := by
  simp only [addHit, stageOf?]
  cases hq : l.quests[quest.toLower]? with
  | none => exact .inl ⟨rfl, rfl⟩
  | some q =>
    simp only [Option.bind_some]
    cases hs : q.stages[index]? with
    | none => exact .inl ⟨rfl, rfl⟩
    | some s =>
      simp only [Option.map_some, Option.bind_some]
      cases ht : s.addBranch? g o with
      | none => exact .inl ⟨rfl, rfl⟩
      | some t => exact .inr ⟨q, s, t, rfl, hs, ht, rfl⟩

/-- A hit adds its branch to the stage that it names, and leaves all others as they are. -/
theorem stageOf?_addHit : stageOf? (l.addHit quest index g o).1.quests id i =
    if quest.toLower = id ∧ index = i then
      (stageOf? l.quests id i).map fun s => (s.addBranch? g o).getD s
    else stageOf? l.quests id i := by
  obtain ⟨hl, hnone⟩ | ⟨q, s, t, hq, hs, ht, hl⟩ := addHit_cases l quest index g o
  · rw [hl]
    split
    · next h =>
      rw [h.1, h.2] at hnone
      cases hs : stageOf? l.quests id i with
      | none => rfl
      | some s =>
        rw [hs, Option.bind_some] at hnone
        rw [Option.map_some, hnone, Option.getD_none]
    · rfl
  · rw [hl, stageOf?_insert]
    by_cases hid : quest.toLower = id
    · subst hid
      rw [if_pos rfl, Std.ExtTreeMap.getElem?_insert, stageOf?, hq, Option.bind_some]
      by_cases hi : index = i
      · subst hi
        rw [if_pos Std.ReflCmp.compare_self, if_pos ⟨rfl, rfl⟩, hs, Option.map_some, ht,
          Option.getD_some]
      · rw [if_neg (mt Std.LawfulEqCmp.compare_eq_iff_eq.1 hi), if_neg (mt And.right hi)]
    · rw [if_neg hid, if_neg (mt And.left hid)]

end QuestLog

/-! ### Unlinked logs -/

namespace Quest

variable {q : Quest} {id : String} {i : Int}

/-- The quest goes by `id`, and nothing is said yet of what follows its stages. -/
structure IsUnlinked (q : Quest) (id : String) : Prop where
  id_eq : q.id = id
  next_eq : ∀ (i : Int) (s : Stage), q.stages[i]? = some s → s.next = ∅

theorem isUnlinked_new (id : String) : IsUnlinked { id } id :=
  ⟨rfl, fun i s hs => by simp at hs⟩

theorem IsUnlinked.insert {s : Stage} (h : q.IsUnlinked id) (hs : s.next = ∅) :
    IsUnlinked { q with stages := q.stages.insert i s } id := by
  refine ⟨h.id_eq, fun k t ht => ?_⟩
  rw [Std.ExtTreeMap.getElem?_insert] at ht
  split at ht
  · exact Option.some.inj ht ▸ hs
  · exact h.next_eq k t ht

theorem IsUnlinked.enter (h : q.IsUnlinked id) (n : Nat) (e : Response) :
    (q.enter n e).1.IsUnlinked id := by
  unfold Quest.enter
  split
  · exact ⟨h.id_eq, h.next_eq⟩
  · split
    · exact h
    · next i hi =>
      refine h.insert ?_
      cases hs : q.stages[i]? with
      | none => rfl
      | some s => exact h.next_eq i s hs

theorem IsUnlinked.enterAll (h : q.IsUnlinked id) (es : List Response) :
    (q.enterAll es).1.IsUnlinked id := by
  unfold Quest.enterAll
  generalize 0 = n
  induction es generalizing q n with
  | nil => exact h
  | cons e es ih => exact ih (h.enter n e) _

end Quest

namespace QuestLog

variable {l : QuestLog} {id : String} {i j : Int}

/-- Every quest goes by its id, and nothing is said yet of what follows its stages. -/
def IsUnlinked (l : QuestLog) : Prop :=
  ∀ (id : String) (q : Quest), l.quests[id]? = some q → q.IsUnlinked id

theorem isUnlinked_new (player : String) : IsUnlinked { player } :=
  fun id q hq => by simp at hq

theorem IsUnlinked.insert {l' : QuestLog} {q : Quest} (h : l.IsUnlinked) (hq : q.IsUnlinked id)
    (hl : l'.quests = l.quests.insert id q) : l'.IsUnlinked := by
  intro id' q' hq'
  rw [hl, Std.ExtTreeMap.getElem?_insert] at hq'
  split at hq'
  · next heq => exact Std.LawfulEqCmp.eq_of_compare heq ▸ Option.some.inj hq' ▸ hq
  · exact h id' q' hq'

theorem IsUnlinked.addTopic (h : l.IsUnlinked) (t : Topic) : (l.addTopic t).1.IsUnlinked := by
  unfold QuestLog.addTopic
  split
  · refine h.insert (Quest.IsUnlinked.enterAll ?_ t.responses) rfl
    cases hq : l.quests[t.id.toLower]? with
    | none => exact Quest.isUnlinked_new _
    | some q => exact h _ q hq
  · exact h

theorem IsUnlinked.addHit (h : l.IsUnlinked) (quest : String) (index : Int) (g : Gate)
    (o : Origin) : (l.addHit quest index g o).1.IsUnlinked := by
  obtain ⟨hl, -⟩ | ⟨q, s, t, hq, hs, ht, hl⟩ := l.addHit_cases quest index g o
  · rwa [IsUnlinked, hl]
  · refine h.insert ((h _ q hq).insert ?_) hl
    rw [Stage.addBranch?_cases ht]
    exact (h _ q hq).next_eq index s hs

theorem IsUnlinked.record (h : l.IsUnlinked) (e : LogEntry) : (l.record e).IsUnlinked :=
  match e with
  | .topic t => h.addTopic t
  | .hit hit => h.addHit hit.quest hit.index hit.gate hit.origin

/-- Nothing that is entered into a log says what follows a stage. -/
theorem IsUnlinked.recordAll (h : l.IsUnlinked) (es : List LogEntry) :
    (l.recordAll es).IsUnlinked := by
  induction es generalizing l with
  | nil => exact h
  | cons e es ih => exact ih (h.record e)

/-! ### The quests built from a log -/

theorem stages_inferGivers (q : Quest) (player : String) :
    (q.inferGivers player).stages = q.stages := by
  unfold Quest.inferGivers
  split <;> rfl

/-- To build is to link the stages of each quest. -/
theorem stageOf?_build : stageOf? l.build id i =
    (l.quests[id]?).bind fun q => (q.stages[i]?).map fun s : Stage =>
      { s with next := s.next.insertMany (Quest.following q.links i) } := by
  rw [stageOf?, build, Std.ExtTreeMap.getElem?_map]
  cases l.quests[id]? with
  | none => rfl
  | some q =>
    rw [Option.map_some, Option.bind_some, Option.bind_some, stages_inferGivers,
      Quest.getElem?_linkStages]

/-- To build changes nothing of a stage but what comes next. -/
theorem IsUnlinked.stageOf?_build (h : l.IsUnlinked) (id : String) (i : Int) :
    (stageOf? l.build id i).map (fun s => { s with next := ∅ }) = stageOf? l.quests id i := by
  rw [QuestLog.stageOf?_build, stageOf?]
  cases hq : l.quests[id]? with
  | none => rfl
  | some q =>
    rw [Option.bind_some, Option.bind_some, Option.map_map]
    cases hs : q.stages[i]? with
    | none => rfl
    | some s =>
      have hnext := (h id q hq).next_eq i s hs
      rw [Option.map_some, Function.comp_apply, ← hnext]

/-- In the quests built from a log the stages follow each other as their branches say. -/
theorem IsUnlinked.isLink_build_iff (h : l.IsUnlinked) :
    IsLink l.build id i j ↔ Follows id (stageOf? l.quests id) i j := by
  rw [IsLink, stageOf?, build, Std.ExtTreeMap.getElem?_map]
  cases hq : l.quests[id]? with
  | none =>
    constructor
    · rintro ⟨s, hs, -⟩
      contradiction
    · rintro ⟨s, t, hs, -⟩
      rw [stageOf?, hq] at hs
      contradiction
  | some q =>
    have hq' := h id q hq
    have hstages : stageOf? l.quests id = (q.stages[·]?) := by
      funext k
      rw [stageOf?, hq, Option.bind_some]
    rw [hstages, ← hq'.id_eq, ← Quest.exists_mem_next_linkStages_iff (hq'.next_eq i),
      Option.map_some, Option.bind_some, stages_inferGivers]

/-- However a log is filled: to build its quests changes nothing of a stage but what comes next,
`j` comes next after `i` exactly if `j` follows `i` by the branches of the stages, and no stage
comes back to itself. -/
theorem isLink_build_recordAll (player : String) (es : List LogEntry) (id : String) :
    let l := ({ player } : QuestLog).recordAll es
    (∀ i, (stageOf? l.build id i).map (fun s => { s with next := ∅ }) = stageOf? l.quests id i) ∧
      (∀ i j, IsLink l.build id i j ↔ Follows id (stageOf? l.quests id) i j) ∧
      ∀ i, ¬TransGen (IsLink l.build id) i i := by
  intro l
  have hl : l.IsUnlinked := (isUnlinked_new player).recordAll es
  refine ⟨hl.stageOf?_build id, fun i j => hl.isLink_build_iff, fun i hi => ?_⟩
  have hfollows : TransGen (Follows id (stageOf? l.quests id)) i i :=
    TransGen.mono (fun i j => hl.isLink_build_iff.1) i i hi
  exact Int.lt_irrefl i (lt_of_transGen_follows hfollows)

end QuestLog

end Questline
