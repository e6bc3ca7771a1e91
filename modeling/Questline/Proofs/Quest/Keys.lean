import Questline.Proofs.Quest.Givers
import Questline.Proofs.Quest.Log

/-!
# What quests and stages are kept by

A log keeps its quests by their ids, in lower case, and a quest its stages by their indexes. A
stage has one origin for each branch. A quest has no givers before it is built, and then they are
ids in lower case.

## Main definitions

* `Quest.IsKeyed`: a quest whose parts say where they are kept

## Main results

* `QuestLog.quests_recordAll`: what each entry keeps of a quest, any entries keep
* `QuestLog.isKeyed_build_recordAll`: the quests built from a log
* `QuestLog.mem_givers_build_recordAll`: their givers
-/

namespace Questline

/-- The values of a map are those of its entries. -/
theorem mem_values_iff {α β : Type} [Ord α] [Std.TransOrd α] [Std.LawfulEqOrd α]
    {m : Std.ExtTreeMap α β} {v : β} : v ∈ m.values ↔ ∃ k : α, m[k]? = some v := by
  have hvalues : m.values = m.toList.map Prod.snd := by
    obtain ⟨m⟩ := m
    refine m.inductionOn fun t => ?_
    have hinner : t.inner.values =
        (Std.DTreeMap.Internal.Impl.Const.toList t.inner).map Prod.snd := by
      rw [Std.DTreeMap.Internal.Impl.values_eq_map_snd,
        Std.DTreeMap.Internal.Impl.Const.toList_eq_toListModel_map, List.map_map]
      rfl
    exact hinner
  simp only [hvalues, List.mem_map, Prod.exists, exists_eq_right,
    Std.ExtTreeMap.mem_toList_iff_getElem?_eq_some]

namespace Quest

variable {q : Quest} {id me : String} {i : Int} {s : Stage}

/-- The quest goes by `id`, its stages by their indexes and its givers by ids in lower case, and
each branch of a stage has its origin. -/
structure IsKeyed (q : Quest) (id : String) : Prop where
  toLower_id : id.toLower = id
  id_eq : q.id = id
  index_eq (i : Int) (s : Stage) (h : q.stages[i]? = some s) : s.index = i
  length_origins (i : Int) (s : Stage) (h : q.stages[i]? = some s) :
    s.origins.length = s.branches.length
  toLower_giver (g : String) (h : g ∈ q.givers) : g.toLower = g

namespace IsKeyed

theorem new (id : String) : IsKeyed { id := id.toLower } id.toLower where
  toLower_id := toLower_toLower id
  id_eq := rfl
  index_eq i s h := by simp at h
  length_origins i s h := by simp at h
  toLower_giver g h := by simp at h

theorem insert (h : q.IsKeyed id) (hindex : s.index = i)
    (hlength : s.origins.length = s.branches.length) :
    IsKeyed { q with stages := q.stages.insert i s } id where
  toLower_id := h.toLower_id
  id_eq := h.id_eq
  index_eq j t ht := by
    rw [Std.ExtTreeMap.getElem?_insert] at ht
    split at ht
    · next hij => exact Option.some.inj ht ▸ hindex.trans (Std.LawfulEqCmp.eq_of_compare hij)
    · exact h.index_eq j t ht
  length_origins j t ht := by
    rw [Std.ExtTreeMap.getElem?_insert] at ht
    split at ht
    · exact Option.some.inj ht ▸ hlength
    · exact h.length_origins j t ht
  toLower_giver := h.toLower_giver

theorem enter (h : q.IsKeyed id) (n : Nat) (e : Response) : (q.enter n e).1.IsKeyed id := by
  unfold Quest.enter
  split
  · exact ⟨h.toLower_id, h.id_eq, h.index_eq, h.length_origins, h.toLower_giver⟩
  · split
    · exact h
    · next i hi =>
      cases hs : q.stages[i]? with
      | none => exact h.insert rfl rfl
      | some s => exact h.insert (h.index_eq i s hs) (h.length_origins i s hs)

theorem addBranch (h : q.IsKeyed id) (hs : q.stages[i]? = some s) {t : Stage} {g : Gate}
    {o : Origin} (ht : s.addBranch? g o = some t) :
    IsKeyed { q with stages := q.stages.insert i t } id := by
  obtain rfl := Stage.addBranch?_cases ht
  refine h.insert (h.index_eq i s hs) ?_
  simp only [List.length_append, h.length_origins i s hs, List.length_singleton]

theorem linkStages (h : q.IsKeyed id) : q.linkStages.IsKeyed id where
  toLower_id := h.toLower_id
  id_eq := h.id_eq
  index_eq i s hs := by
    rw [getElem?_linkStages, Option.map_eq_some_iff] at hs
    obtain ⟨s, hs, rfl⟩ := hs
    exact h.index_eq i s hs
  length_origins i s hs := by
    rw [getElem?_linkStages, Option.map_eq_some_iff] at hs
    obtain ⟨s, hs, rfl⟩ := hs
    exact h.length_origins i s hs
  toLower_giver := h.toLower_giver

theorem inferGivers (h : q.IsKeyed id) (me : String) : (q.inferGivers me).IsKeyed id := by
  have hstages := QuestLog.stages_inferGivers q me
  refine ⟨h.toLower_id, ?_, hstages ▸ h.index_eq, hstages ▸ h.length_origins, fun g hg => ?_⟩
  · rw [← h.id_eq, Quest.inferGivers]
    split <;> rfl
  · by_cases hsize : q.stages.size < 2
    · rw [givers_inferGivers_of_lt hsize] at hg
      exact h.toLower_giver g hg
    · obtain ⟨-, -, -, r, -, ⟨o, -, rfl⟩, -⟩ :=
        (mem_givers_inferGivers (Nat.le_of_not_lt hsize)).1 hg
      exact toLower_toLower o

end IsKeyed

/-- What each journal entry keeps, all of them keep. -/
theorem enterAll_induction {P : Quest → Prop} (henter : ∀ q n e, P q → P (q.enter n e).1)
    (hq : P q) (es : List Response) : P (q.enterAll es).1 := by
  unfold enterAll
  generalize 0 = n
  induction es generalizing q n with
  | nil => exact hq
  | cons e es ih => exact ih (henter q n e hq) _

theorem givers_enter (q : Quest) (n : Nat) (e : Response) : (q.enter n e).1.givers = q.givers := by
  unfold enter
  split
  · rfl
  · split <;> rfl

end Quest

namespace QuestLog

variable {l : QuestLog} {id : String}

/-- What holds of a quest that is only just made, and is kept by a journal entry and by a branch
more, holds of the quests of a log after any entries. -/
theorem quests_recordAll {P : String → Quest → Prop}
    (hnew : ∀ id : String, P id.toLower { id := id.toLower })
    (henter : ∀ id q n e, P id q → P id (q.enter n e).1)
    (hadd : ∀ (id : String) (q : Quest) (i : Int) (s t : Stage) (g : Gate) (o : Origin), P id q →
      q.stages[i]? = some s → s.addBranch? g o = some t →
        P id { q with stages := q.stages.insert i t })
    (hl : ∀ (id : String) (q : Quest), l.quests[id]? = some q → P id q) (es : List LogEntry)
    (id : String) (q : Quest) (hq : (l.recordAll es).quests[id]? = some q) : P id q := by
  induction es generalizing l with
  | nil => exact hl id q hq
  | cons e es ih =>
    have hinsert {l' : QuestLog} {k : String} {p : Quest} (hp : P k p)
        (hl' : l'.quests = l.quests.insert k p) (id : String) (q : Quest)
        (hq : l'.quests[id]? = some q) : P id q := by
      rw [hl', Std.ExtTreeMap.getElem?_insert] at hq
      split at hq
      · next hk => exact Std.LawfulEqCmp.eq_of_compare hk ▸ Option.some.inj hq ▸ hp
      · exact hl id q hq
    refine ih (l := l.record e) ?_ hq
    cases e with
    | topic t =>
      rw [record, addTopic]
      split
      · refine hinsert (k := t.id.toLower) ?_ rfl
        have hstart : P t.id.toLower ((l.quests[t.id.toLower]?).getD { id := t.id.toLower }) := by
          cases hold : l.quests[t.id.toLower]? with
          | none => exact hnew t.id
          | some p => exact hl _ p hold
        exact Quest.enterAll_induction (henter t.id.toLower) hstart t.responses
      · exact hl
    | hit h =>
      obtain ⟨hquests, -⟩ | ⟨p, s, t, hp, hs, ht, hquests⟩ :=
        l.addHit_cases h.quest h.index h.gate h.origin
      · rw [record, add, hquests]
        exact hl
      · exact hinsert (hadd _ p _ s t _ _ (hl _ p hp) hs ht) hquests

/-- The quests built from a log: their stages are linked, then their givers are inferred. -/
theorem exists_of_build_recordAll {player : String} {es : List LogEntry} {q : Quest}
    (hq : (({ player } : QuestLog).recordAll es).build[id]? = some q) :
    ∃ p : Quest, p.IsKeyed id ∧ p.givers = ∅ ∧ q = p.linkStages.inferGivers player := by
  rw [build, Std.ExtTreeMap.getElem?_map, Option.map_eq_some_iff, player_recordAll] at hq
  obtain ⟨p, hp, rfl⟩ := hq
  have hkeyed : p.IsKeyed id ∧ p.givers = ∅ :=
    quests_recordAll (P := fun id q => q.IsKeyed id ∧ q.givers = ∅)
      (fun id => ⟨.new id, rfl⟩)
      (fun id q n e h => ⟨h.1.enter n e, (q.givers_enter n e).trans h.2⟩)
      (fun id q i s t g o h hs ht => ⟨h.1.addBranch hs ht, h.2⟩)
      (fun id q hq => by simp at hq) es id p hp
  exact ⟨p, hkeyed.1, hkeyed.2, rfl⟩

theorem isKeyed_build_recordAll {player : String} {es : List LogEntry} {q : Quest}
    (hq : (({ player } : QuestLog).recordAll es).build[id]? = some q) : q.IsKeyed id := by
  obtain ⟨p, hp, -, rfl⟩ := exists_of_build_recordAll hq
  exact hp.linkStages.inferGivers player

end QuestLog

end Questline
