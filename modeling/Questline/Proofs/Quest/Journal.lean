import Questline.Proofs.Quest.Branches
import Questline.Proofs.Quest.Keys

/-!
# Stages and the entries of journals

What a log says of its quests and stages is what stands in the journals that were entered, whatever
hits came in between. Of several entries for one stage the last one counts, and so it does for the
name of a quest. A stage that is entered again keeps the ways that lead to it.

## Main definitions

* `Response.isStage`: the journal entries for a stage
* `journalEntries`: all entries of the journals of a quest
* `Stage.IsWritten`, `Quest.IsWritten`, `QuestLog.IsWritten`: what is said is what was written
* `QuestLog.stageCount`: how many stages a quest has

## Main results

* `Quest.IsWritten.enter`: one more journal entry
* `QuestLog.IsWritten.performAll`: topics, hits and trees in any order
* `QuestLog.count_addTopic`, `QuestLog.branches_addTopic`: what a topic adds and what it keeps
* `QuestLog.stages_performAll`: the quests of a log after any steps
-/

namespace Questline

/-- The entry is for the stage at `i`. -/
def Response.isStage (i : Int) (e : Response) : Bool :=
  !e.namesQuest && e.index == some i

/-- The topic is a journal of the quest `id`, an id in lower case. -/
def Topic.isJournalOf (id : String) (t : Topic) : Bool :=
  t.kind == .journal && t.id.toLower == id

/-- The entries of the journals of a quest among some topics, in order. -/
def journalEntries (id : String) (ts : List Topic) : List Response :=
  (ts.filter (·.isJournalOf id)).flatMap (·.responses)

/-- The last of some things with a property. -/
def lastWith {α : Type} (p : α → Bool) (l : List α) : Option α :=
  (l.filter p).getLast?

section

variable {α : Type} {p : α → Bool} {l : List α} {a : α}

theorem lastWith_concat : lastWith p (l ++ [a]) = if p a then some a else lastWith p l := by
  unfold lastWith
  rw [List.filter_append]
  cases h : p a <;> simp [h]

theorem isSome_lastWith_iff : (lastWith p l).isSome ↔ ∃ a ∈ l, p a = true := by
  simp [lastWith]

end

/-! ### One quest -/

/-- The stage says what the entry for it says. -/
structure Stage.IsWritten (s : Stage) (id : String) (i : Int) (e : Response) : Prop where
  quest_eq : s.quest = id
  index_eq : s.index = i
  text_eq : s.text = e.text
  finished_eq : s.finished = e.finished
  restart_eq : s.restart = e.restart

/-- The quest says what the entries of its journals say, the last ones where there are several. -/
structure Quest.IsWritten (q : Quest) (id : String) (es : List Response) : Prop where
  id_eq : q.id = id
  name_eq : q.name = (lastWith (·.namesQuest) es).map (·.text)
  stages (i : Int) : Option.Rel (·.IsWritten id i ·) q.stages[i]? (lastWith (·.isStage i) es)

namespace Quest

variable {q : Quest} {id : String} {i : Int} {es : List Response}

theorem isWritten_new (id : String) : IsWritten { id } id [] where
  id_eq := rfl
  name_eq := rfl
  stages i := by
    rw [Std.ExtTreeMap.getElem?_empty]
    exact .none

/-- A stage says what the last entry for it says. -/
theorem IsWritten.exists_lastWith (h : q.IsWritten id es) {s : Stage} (hs : q.stages[i]? = some s) :
    ∃ e, lastWith (·.isStage i) es = some e ∧ s.IsWritten id i e := by
  have hrel := h.stages i
  rw [hs] at hrel
  generalize lastWith (·.isStage i) es = last at hrel
  cases hrel with
  | some hwritten => exact ⟨_, rfl, hwritten⟩

/-- There are stages for the indexes of entries. -/
theorem IsWritten.mem_stages_iff (h : q.IsWritten id es) :
    i ∈ q.stages ↔ ∃ e ∈ es, e.isStage i = true := by
  have hrel := h.stages i
  rw [Std.ExtTreeMap.mem_iff_isSome_getElem?, ← isSome_lastWith_iff]
  generalize q.stages[i]? = x, lastWith (·.isStage i) es = y at hrel
  cases hrel <;> simp

/-- A stage that takes the place of another one and says the same. -/
theorem IsWritten.insert (h : q.IsWritten id es) {s : Stage} {e : Response}
    (hs : s.IsWritten id i e) {es' : List Response}
    (hname : lastWith (·.namesQuest) es' = lastWith (·.namesQuest) es)
    (hlast : lastWith (·.isStage i) es' = some e)
    (hother : ∀ j, i ≠ j → lastWith (·.isStage j) es' = lastWith (·.isStage j) es) :
    IsWritten { q with stages := q.stages.insert i s } id es' where
  id_eq := h.id_eq
  name_eq := hname ▸ h.name_eq
  stages j := by
    rw [Std.ExtTreeMap.getElem?_insert]
    by_cases hij : i = j
    · subst hij
      rw [if_pos Std.ReflCmp.compare_self, hlast]
      exact .some hs
    · rw [if_neg (mt Std.LawfulEqCmp.compare_eq_iff_eq.1 hij), hother j hij]
      exact h.stages j

/-- One more journal entry. -/
theorem IsWritten.enter (h : q.IsWritten id es) (n : Nat) (e : Response) :
    (q.enter n e).1.IsWritten id (es ++ [e]) := by
  unfold Quest.enter
  split
  · next hname =>
    refine ⟨h.id_eq, ?_, fun i => ?_⟩
    · rw [lastWith_concat, if_pos hname]
      rfl
    · have hstage : e.isStage i = false := by simp [Response.isStage, hname]
      rw [lastWith_concat, hstage]
      exact h.stages i
  · next hname =>
    have hlast : lastWith (·.namesQuest) (es ++ [e]) = lastWith (·.namesQuest) es := by
      rw [lastWith_concat, if_neg hname]
    split
    · next hindex =>
      refine ⟨h.id_eq, hlast ▸ h.name_eq, fun i => ?_⟩
      have hstage : e.isStage i = false := by simp [Response.isStage, hindex]
      rw [lastWith_concat, hstage]
      exact h.stages i
    · next j hindex =>
      have hstage (i : Int) : e.isStage i = (j == i) := by simp [Response.isStage, hname, hindex]
      refine h.insert (e := e) ?_ hlast ?_ fun i hij => ?_
      · -- what an earlier entry said of the stage is replaced
        cases hold : q.stages[j]? with
        | none => exact ⟨h.id_eq, rfl, rfl, rfl, rfl⟩
        | some old =>
          obtain ⟨_, -, hwritten⟩ := h.exists_lastWith hold
          exact ⟨hwritten.quest_eq, hwritten.index_eq, rfl, rfl, rfl⟩
      · rw [lastWith_concat, hstage, if_pos (beq_self_eq_true j)]
      · rw [lastWith_concat, hstage, if_neg (mt beq_iff_eq.1 hij)]

theorem IsWritten.enterAll (h : q.IsWritten id es) (es' : List Response) :
    (q.enterAll es').1.IsWritten id (es ++ es') := by
  unfold Quest.enterAll
  generalize 0 = n
  induction es' generalizing q es n with
  | nil => rwa [List.append_nil]
  | cons e es' ih =>
    rw [← List.singleton_append, ← List.append_assoc]
    exact ih (h.enter n e) _

/-- A branch more changes nothing that is written. -/
theorem IsWritten.addBranch (h : q.IsWritten id es) {s t : Stage} {g : Gate} {o : Origin}
    (hs : q.stages[i]? = some s) (ht : s.addBranch? g o = some t) :
    IsWritten { q with stages := q.stages.insert i t } id es := by
  obtain ⟨e, hlast, hwritten⟩ := h.exists_lastWith hs
  obtain rfl := Stage.addBranch?_cases ht
  refine h.insert (e := e) ?_ rfl hlast fun _ _ => rfl
  exact ⟨hwritten.quest_eq, hwritten.index_eq, hwritten.text_eq, hwritten.finished_eq,
    hwritten.restart_eq⟩

/-! ### What entries add and what they keep -/

theorem count_enter (q : Quest) (n : Nat) (e : Response) :
    (q.enter n e).2 + q.stages.size = n + (q.enter n e).1.stages.size := by
  unfold enter
  split
  · rfl
  · split
    · rfl
    · next j hindex =>
      dsimp only
      rw [Std.ExtTreeMap.size_insert]
      by_cases hj : j ∈ q.stages
      · rw [if_pos hj, if_pos (Std.ExtTreeMap.contains_iff_mem.2 hj)]
      · rw [if_neg hj, if_neg (mt Std.ExtTreeMap.contains_iff_mem.1 hj)]
        exact Nat.add_right_comm n 1 _

/-- The count is that of the new stages. -/
theorem count_enterAll (q : Quest) (es : List Response) :
    (q.enterAll es).2 + q.stages.size = (q.enterAll es).1.stages.size := by
  have hfold (x : Quest × Nat) : (es.foldl (fun x e => x.1.enter x.2 e) x).2 + x.1.stages.size =
      x.2 + (es.foldl (fun x e => x.1.enter x.2 e) x).1.stages.size := by
    induction es generalizing x with
    | nil => rfl
    | cons e es ih =>
      have hone := x.1.count_enter x.2 e
      have hrest := ih (x.1.enter x.2 e)
      rw [List.foldl_cons]
      omega
  have hcount := hfold (q, 0)
  rw [Nat.zero_add] at hcount
  exact hcount

theorem mem_stages_enter (h : i ∈ q.stages) (n : Nat) (e : Response) :
    i ∈ (q.enter n e).1.stages := by
  unfold enter
  split
  · exact h
  · split
    · exact h
    · exact Std.ExtTreeMap.mem_insert.2 (.inr h)

theorem mem_stages_enterAll (h : i ∈ q.stages) (es : List Response) :
    i ∈ (q.enterAll es).1.stages :=
  enterAll_induction (P := (i ∈ ·.stages)) (fun _ n e h => mem_stages_enter h n e) h es

end Quest

/-! ### A log -/

/-- The topic of a step, if it is one. -/
def LogStep.topic? : LogStep → Option Topic
  | topic t => some t
  | hit _ => none
  | tree _ _ => none

/-- A log has the quests whose journals are among some topics, and they say what is written there. -/
structure QuestLog.IsWritten (l : QuestLog) (ts : List Topic) : Prop where
  mem_quests (id : String) : id ∈ l.quests ↔ ∃ t ∈ ts, t.isJournalOf id = true
  quest (id : String) (q : Quest) (h : l.quests[id]? = some q) :
    q.IsWritten id (journalEntries id ts)

namespace QuestLog

variable {l l' : QuestLog} {id : String} {q : Quest} {i : Int} {s : Stage} {ts ts' : List Topic}

theorem isWritten_new (player : String) : IsWritten { player } [] where
  mem_quests id := by simp
  quest id q h := by simp at h

theorem IsWritten.journalEntries_eq_nil (h : l.IsWritten ts) (hid : l.quests[id]? = none) :
    journalEntries id ts = [] := by
  have hnone : ¬∃ t ∈ ts, t.isJournalOf id = true := by
    rw [← h.mem_quests, Std.ExtTreeMap.mem_iff_isSome_getElem?, hid]
    exact Bool.false_ne_true
  rw [journalEntries, List.filter_eq_nil_iff.2 fun t ht hjournal => hnone ⟨t, ht, hjournal⟩,
    List.flatMap_nil]

theorem journalEntries_concat (id : String) (ts : List Topic) (t : Topic) :
    journalEntries id (ts ++ [t]) =
      journalEntries id ts ++ if t.isJournalOf id then t.responses else [] := by
  rw [journalEntries, List.filter_append, List.flatMap_append, ← journalEntries]
  cases h : t.isJournalOf id <;> simp [h]

/-- A quest that is put in, or takes the place of what was there, where the topics say nothing new
of others. -/
theorem IsWritten.insert (h : l.IsWritten ts) (hq : q.IsWritten id (journalEntries id ts'))
    (hl : l'.quests = l.quests.insert id q)
    (hmem : ∀ k, (∃ t ∈ ts', t.isJournalOf k = true) ↔
      id = k ∨ ∃ t ∈ ts, t.isJournalOf k = true)
    (hother : ∀ k, id ≠ k → journalEntries k ts' = journalEntries k ts) : l'.IsWritten ts' where
  mem_quests k := by
    rw [hl, Std.ExtTreeMap.mem_insert, Std.LawfulEqCmp.compare_eq_iff_eq, hmem, h.mem_quests]
  quest k p hp := by
    rw [hl, Std.ExtTreeMap.getElem?_insert] at hp
    split at hp
    · next heq => exact Std.LawfulEqCmp.eq_of_compare heq ▸ Option.some.inj hp ▸ hq
    · next hne =>
      rw [hother k (mt Std.LawfulEqCmp.compare_eq_iff_eq.2 hne)]
      exact h.quest k p hp

theorem IsWritten.addTopic (h : l.IsWritten ts) (t : Topic) :
    (l.addTopic t).1.IsWritten (ts ++ [t]) := by
  unfold QuestLog.addTopic
  split
  · next hkind =>
    have hjournal (id : String) : t.isJournalOf id = (t.id.toLower == id) := by
      simp [Topic.isJournalOf, hkind]
    refine h.insert ?_ rfl (fun k => ?_) fun k hk => ?_
    · rw [journalEntries_concat, hjournal, if_pos (beq_self_eq_true _)]
      refine Quest.IsWritten.enterAll ?_ t.responses
      cases hold : l.quests[t.id.toLower]? with
      | none =>
        -- a quest that is not there yet has no journal among the earlier topics
        rw [h.journalEntries_eq_nil hold]
        exact Quest.isWritten_new _
      | some p => exact h.quest _ p hold
    · simp [hjournal, or_comm]
    · rw [journalEntries_concat, hjournal, if_neg (mt beq_iff_eq.1 hk), List.append_nil]
  · next hkind =>
    have hjournal (id : String) : t.isJournalOf id = false := by simp [Topic.isJournalOf, hkind]
    have hentries (id : String) : journalEntries id (ts ++ [t]) = journalEntries id ts := by
      rw [journalEntries_concat, hjournal, if_neg Bool.false_ne_true, List.append_nil]
    refine ⟨fun id => ?_, fun id q hq => ?_⟩
    · simp [h.mem_quests, hjournal]
    · rw [hentries]
      exact h.quest id q hq

/-- A hit changes nothing that is written. -/
theorem IsWritten.add (h : l.IsWritten ts) (hit : Hit) : (l.add hit).IsWritten ts := by
  obtain ⟨hl, -⟩ | ⟨q, s, t, hq, hs, ht, hl⟩ :=
    l.addHit_cases hit.quest hit.index hit.gate hit.origin
  · rw [← QuestLog.add] at hl
    exact ⟨hl ▸ h.mem_quests, hl ▸ h.quest⟩
  · refine h.insert ((h.quest _ q hq).addBranch hs ht) hl (fun k => ?_) fun _ _ => rfl
    rw [← h.mem_quests]
    refine ⟨.inr, ?_⟩
    rintro (rfl | hk)
    · exact Std.ExtTreeMap.mem_iff_isSome_getElem?.2 (Option.isSome_of_eq_some hq)
    · exact hk

theorem IsWritten.perform (h : l.IsWritten ts) (s : LogStep) :
    (l.perform s).IsWritten (ts ++ s.topic?.toList) := by
  cases s with
  | topic t => exact h.addTopic t
  | hit hit =>
    rw [LogStep.topic?, Option.toList_none, List.append_nil]
    exact h.add hit
  | tree t o =>
    rw [LogStep.topic?, Option.toList_none, List.append_nil, QuestLog.perform, collect_fst]
    exact List.foldlRecOn (motive := (·.IsWritten ts)) (t.hits o) QuestLog.add h
      fun _ hl hit _ => hl.add hit

/-- However a log is filled, it says what was written. -/
theorem IsWritten.performAll (h : l.IsWritten ts) (ss : List LogStep) :
    (l.performAll ss).IsWritten (ts ++ ss.filterMap (·.topic?)) := by
  induction ss generalizing l ts with
  | nil => rwa [List.filterMap_nil, List.append_nil]
  | cons s ss ih =>
    have hentries : ts ++ (s :: ss).filterMap (·.topic?) =
        ts ++ s.topic?.toList ++ ss.filterMap (·.topic?) := by
      cases hs : s.topic? <;> simp [hs]
    rw [hentries]
    exact ih (h.perform s)

/-- The number of stages of a quest; a quest that does not exist has none. -/
def stageCount (l : QuestLog) (id : String) : Nat :=
  (l.quest? id).elim 0 (·.stages.size)

/-- A topic says how many stages its quest has more than before. -/
theorem count_addTopic (l : QuestLog) (t : Topic) :
    (l.addTopic t).2 + l.stageCount t.id = (l.addTopic t).1.stageCount t.id := by
  unfold addTopic
  split
  · have hcount := Quest.count_enterAll ((l.quests[t.id.toLower]?).getD { id := t.id.toLower })
      t.responses
    simp only [stageCount, quest?, Std.ExtTreeMap.getElem?_insert_self, Option.elim_some]
    rw [← hcount]
    cases l.quests[t.id.toLower]? <;> rfl
  · exact Nat.zero_add _

/-- A topic takes no stage away, and keeps the ways that lead to each. -/
theorem branches_addTopic (t : Topic) (hs : stageOf? l.quests id i = some s) :
    ∃ s', stageOf? (l.addTopic t).1.quests id i = some s' ∧
      s'.branches = s.branches ∧ s'.origins = s.origins := by
  have hsome : (stageOf? (l.addTopic t).1.quests id i).isSome := by
    obtain ⟨q, hq, hstage⟩ := Option.bind_eq_some_iff.1 hs
    unfold addTopic
    split
    · dsimp only
      rw [stageOf?_insert]
      split
      · next hid =>
        subst hid
        rw [hq, Option.getD_some, ← Std.ExtTreeMap.mem_iff_isSome_getElem?]
        refine Quest.mem_stages_enterAll ?_ t.responses
        exact Std.ExtTreeMap.mem_iff_isSome_getElem?.2 (Option.isSome_of_eq_some hstage)
      · exact Option.isSome_of_eq_some hs
    · exact Option.isSome_of_eq_some hs
  obtain ⟨s', hs'⟩ := Option.isSome_iff_exists.1 hsome
  have hpaths := l.pathsTo_addTopic t id i
  rw [pathsTo, pathsTo, hs, hs'] at hpaths
  exact ⟨s', hs', Prod.mk.inj hpaths⟩

/-- However a log is filled, its quests and stages are what is written in the journals given to it.
There is a quest for each id of a journal. It goes by that id in lower case, its name is the last
one given, it has a stage for each index of an entry that names no quest, and the stage says what
the last entry for it says. One more topic takes no stage away and keeps the ways that lead to each,
and its answer is the number of stages by which its quest grows. -/
theorem stages_performAll (player : String) (ss : List LogStep) :
    let l := ({ player } : QuestLog).performAll ss
    let ts := ss.filterMap (·.topic?)
    (∀ id, id ∈ l.quests ↔ ∃ t, .topic t ∈ ss ∧ t.kind = .journal ∧ t.id.toLower = id) ∧
    (∀ id q, l.quests[id]? = some q →
      id.toLower = id ∧ q.id = id ∧
      q.name = (lastWith (·.namesQuest) (journalEntries id ts)).map (·.text) ∧
      (∀ i, i ∈ q.stages ↔
        ∃ e ∈ journalEntries id ts, e.namesQuest = false ∧ e.index = some i) ∧
      ∀ i s, q.stages[i]? = some s →
        ∃ e, lastWith (·.isStage i) (journalEntries id ts) = some e ∧ s.IsWritten id i e) ∧
    ∀ t : Topic,
      (l.addTopic t).2 + l.stageCount t.id = (l.addTopic t).1.stageCount t.id ∧
      ∀ id i s, stageOf? l.quests id i = some s →
        ∃ s', stageOf? (l.addTopic t).1.quests id i = some s' ∧
          s'.branches = s.branches ∧ s'.origins = s.origins := by
  intro l ts
  have hl : l.IsWritten ts := (isWritten_new player).performAll ss
  have hmem (id : String) :
      id ∈ l.quests ↔ ∃ t, .topic t ∈ ss ∧ t.kind = .journal ∧ t.id.toLower = id := by
    have htopic (t : Topic) : t ∈ ts ↔ .topic t ∈ ss := by
      rw [List.mem_filterMap]
      refine ⟨?_, fun ht => ⟨_, ht, rfl⟩⟩
      rintro ⟨s, hs, hst⟩
      cases s with
      | topic t' => exact Option.some.inj hst ▸ hs
      | hit _ => contradiction
      | tree _ _ => contradiction
    simp [hl.mem_quests, htopic, Topic.isJournalOf]
  refine ⟨hmem, fun id q hq => ?_, fun t => ⟨l.count_addTopic t, fun id i s hs => ?_⟩⟩
  · have hwritten := hl.quest id q hq
    refine ⟨?_, hwritten.id_eq, hwritten.name_eq, fun i => ?_,
      fun i s hs => hwritten.exists_lastWith hs⟩
    · obtain ⟨t, -, -, rfl⟩ := (hmem id).1
        (Std.ExtTreeMap.mem_iff_isSome_getElem?.2 (Option.isSome_of_eq_some hq))
      exact toLower_toLower t.id
    · simp [hwritten.mem_stages_iff, Response.isStage]
  · exact branches_addTopic t hs

/-- A stage that is entered twice, the quest in different letter cases, with a hit in between. -/
def ringSteps : List LogStep :=
  [.topic {
      id := "MS_Ring", kind := .journal,
      responses := [{ id := "1", index := some 10, text := "Asked for a ring." }] },
    .hit ⟨"ms_ring", 10, {}, .script "RingScript"⟩,
    .topic {
      id := "ms_ring", kind := .journal,
      responses := [{ id := "2", namesQuest := true, text := "The Lost Ring" },
        { id := "3", index := some 10, text := "Asked again." }] }]

theorem ringSteps_stages_performAll :
    let l := ({} : QuestLog).performAll ringSteps
    ∃ q s, l.quests["ms_ring"]? = some q ∧ q.name = some "The Lost Ring" ∧
      q.stages[(10 : Int)]? = some s ∧ s.text = "Asked again." := by
  intro l
  have hmixed : "MS_Ring".toLower = "ms_ring" := by decide +kernel
  have hlower : "ms_ring".toLower = "ms_ring" := by decide +kernel
  have hentries : journalEntries "ms_ring" (ringSteps.filterMap (·.topic?)) =
      [{ id := "1", index := some 10, text := "Asked for a ring." },
        { id := "2", namesQuest := true, text := "The Lost Ring" },
        { id := "3", index := some 10, text := "Asked again." }] := by
    simp [ringSteps, journalEntries, LogStep.topic?, Topic.isJournalOf, hmixed, hlower]
  obtain ⟨hquests, hwritten, -⟩ := stages_performAll Questline.player ringSteps
  have hmem := (hquests "ms_ring").2 ⟨_, List.mem_cons_self, rfl, hmixed⟩
  obtain ⟨q, hq⟩ := Option.isSome_iff_exists.1 (Std.ExtTreeMap.mem_iff_isSome_getElem?.1 hmem)
  obtain ⟨-, -, hname, hstages, hstage⟩ := hwritten "ms_ring" q hq
  rw [hentries] at hname hstages hstage
  have hten := (hstages 10).2 ⟨_, List.mem_cons_self, rfl, rfl⟩
  obtain ⟨s, hs⟩ := Option.isSome_iff_exists.1 (Std.ExtTreeMap.mem_iff_isSome_getElem?.1 hten)
  obtain ⟨e, he, hse⟩ := hstage 10 s hs
  have htext : e.text = "Asked again." := by
    obtain rfl := Option.some.inj he
    rfl
  exact ⟨q, s, hq, hname, hs, hse.text_eq.trans htext⟩

end QuestLog

end Questline
