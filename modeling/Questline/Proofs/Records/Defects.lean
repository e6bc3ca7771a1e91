import Mathlib.Data.List.Induction
import Mathlib.Data.List.Nodup
import Questline.Proofs.Text.Lines
import Questline.Records.Validation
import Questline.Requirement.Basic

/-!
# All defects of records, once each

The check of records goes through them part by part and notes what is wrong. What can be wrong is
said here place by place, without the check: the check notes one defect for each place where
something is wrong, and no other.

## Main definitions

* `Reports`: a list of what is found at some places, once for each place
* `Records.Site`, `Records.HasDefect`: what is wrong with records, and where

## Main results

* `Reports.append`, `Reports.flatMap`, `Reports.parts`: lists that are found part by part
* `reports_reused`: the ids that were used before
* `Records.reports_defects`: the defects of records
-/

namespace Questline

theorem getElem?_concat_eq_some_iff {α : Type} {l : List α} {a b : α} {i : Nat} :
    (l ++ [a])[i]? = some b ↔ l[i]? = some b ∨ i = l.length ∧ b = a := by
  obtain hi | rfl | hi := lt_trichotomy i l.length
  · rw [List.getElem?_append_left hi]
    simp [Nat.ne_of_lt hi]
  · simp [eq_comm]
  · have hlength : (l ++ [a]).length ≤ i := by
      rw [List.length_append]
      exact Nat.succ_le_of_lt hi
    rw [List.getElem?_eq_none hlength, List.getElem?_eq_none (Nat.le_of_lt hi)]
    simp [Nat.ne_of_gt hi]

theorem map_filter_eq_flatMap {α β : Type} (l : List α) (p : α → Bool) (f : α → β) :
    (l.filter p).map f = l.flatMap fun a => if p a = true then [f a] else [] := by
  induction l with
  | nil => rfl
  | cons a l ih =>
    rw [List.flatMap_cons, ← ih]
    cases h : p a <;> simp [h]

/-! ### Lists of findings -/

/-- The list is what `P` finds at some places, once for each place where it finds something. -/
def Reports {ι δ : Type} (ds : List δ) (P : ι → δ → Prop) : Prop :=
  ∃ found : List (ι × δ), found.map Prod.snd = ds ∧ (found.map Prod.fst).Nodup ∧
    ∀ x d, (x, d) ∈ found ↔ P x d

namespace Reports

variable {α ι κ δ ε : Type} {ds es : List δ} {P Q : ι → δ → Prop}

theorem congr (h : Reports ds P) (hPQ : ∀ x d, P x d ↔ Q x d) : Reports ds Q := by
  obtain ⟨found, hds, hnodup, hfound⟩ := h
  exact ⟨found, hds, hnodup, fun x d => (hfound x d).trans (hPQ x d)⟩

theorem nil (h : ∀ x d, ¬P x d) : Reports [] P :=
  ⟨[], rfl, List.nodup_nil, fun x d => iff_of_false List.not_mem_nil (h x d)⟩

/-- One finding for each of some things in different places. -/
theorem map {l : List α} {site : α → ι} (h : (l.map site).Nodup) (finding : α → δ) :
    Reports (l.map finding) fun x d => ∃ a ∈ l, x = site a ∧ d = finding a := by
  refine ⟨l.map fun a => (site a, finding a), ?_, ?_, fun x d => ?_⟩
  · rw [List.map_map]
    rfl
  · rw [List.map_map]
    exact h
  · simp only [List.mem_map, Prod.mk.injEq, eq_comm]

/-- A finding under a condition. -/
theorem ite (c : Prop) [Decidable c] (x : ι) (d : δ) :
    Reports (if c then [d] else []) fun x' d' => c ∧ x' = x ∧ d' = d := by
  split
  · next hc =>
    refine ⟨[(x, d)], rfl, List.nodup_singleton x, fun x' d' => ?_⟩
    simp [hc]
  · next hc => exact nil fun x' d' h => hc h.1

/-- Findings in different places. -/
theorem append (h : Reports ds P) (h' : Reports es Q) (hPQ : ∀ x d e, P x d → ¬Q x e) :
    Reports (ds ++ es) fun x d => P x d ∨ Q x d := by
  obtain ⟨found, rfl, hnodup, hfound⟩ := h
  obtain ⟨found', rfl, hnodup', hfound'⟩ := h'
  refine ⟨found ++ found', List.map_append, ?_, fun x d => ?_⟩
  · rw [List.map_append]
    refine hnodup.append hnodup' fun x hx hx' => ?_
    obtain ⟨⟨_, d⟩, hd, rfl⟩ := List.mem_map.1 hx
    obtain ⟨⟨_, e⟩, he, rfl⟩ := List.mem_map.1 hx'
    exact hPQ _ _ _ ((hfound _ _).1 hd) ((hfound' _ _).1 he)
  · rw [List.mem_append, hfound, hfound']

/-- Findings for each element of a list, in different places for different elements. -/
theorem flatMap {l : List α} {f : α → List δ} {R : Nat → α → ι → δ → Prop}
    (h : ∀ i a, l[i]? = some a → Reports (f a) (R i a))
    (hR : ∀ i j a b x d e, R i a x d → R j b x e → i = j) :
    Reports (l.flatMap f) fun x d => ∃ i a, l[i]? = some a ∧ R i a x d := by
  induction l using List.reverseRecOn with
  | nil => exact nil fun x d => by simp
  | append_singleton l a ih =>
    rw [List.flatMap_append, List.flatMap_singleton]
    have hfront := ih fun i b hi => h i b (getElem?_concat_eq_some_iff.2 (.inl hi))
    have hlast := h l.length a (getElem?_concat_eq_some_iff.2 (.inr ⟨rfl, rfl⟩))
    refine (hfront.append hlast ?_).congr fun x d => ?_
    · -- a place of the last element would be that of an element before it
      rintro x d e ⟨i, b, hi, hd⟩ he
      obtain rfl := hR _ _ _ _ _ _ _ hd he
      simp at hi
    · simp only [getElem?_concat_eq_some_iff, or_and_right, exists_or, and_assoc, exists_and_left,
        exists_eq_left]

/-- Findings in the parts of a whole: each place is in one part. -/
theorem parts {part : ι → α} {l : List α} {f : α → List δ} (hl : l.Nodup)
    (h : ∀ a ∈ l, Reports (f a) fun x d => part x = a ∧ P x d) :
    Reports (l.flatMap f) fun x d => part x ∈ l ∧ P x d := by
  induction l with
  | nil => exact nil fun x d hx => List.not_mem_nil hx.1
  | cons a l ih =>
    obtain ⟨ha, hl⟩ := List.nodup_cons.1 hl
    have hfront := h a List.mem_cons_self
    have hback := ih hl fun b hb => h b (List.mem_cons_of_mem a hb)
    refine (hfront.append hback ?_).congr fun x d => ?_
    · rintro x d e ⟨rfl, -⟩ ⟨hx, -⟩
      exact ha hx
    · rw [List.mem_cons, or_and_right]

/-- What is found at other places, in other words. -/
theorem relabel (h : Reports ds P) {site : ι → κ} (hsite : Function.Injective site) (f : δ → ε) :
    Reports (ds.map f) fun y e => ∃ x d, P x d ∧ y = site x ∧ e = f d := by
  obtain ⟨found, rfl, hnodup, hfound⟩ := h
  refine ⟨found.map fun p => (site p.1, f p.2), ?_, ?_, fun y e => ?_⟩
  · rw [List.map_map, List.map_map]
    rfl
  · have hmap := hnodup.map hsite
    rwa [List.map_map] at hmap ⊢
  · simp only [List.mem_map, Prod.exists, hfound, Prod.mk.injEq, eq_comm]

/-- Nothing is reported where there is nothing to be found, and only there. -/
theorem eq_nil_iff (h : Reports ds P) : ds = [] ↔ ∀ x d, ¬P x d := by
  obtain ⟨found, rfl, -, hfound⟩ := h
  rw [List.map_eq_nil_iff, List.eq_nil_iff_forall_not_mem]
  simp only [Prod.forall, hfound]

end Reports

/-! ### Ids that were used before -/

theorem reused_concat (seen ids : List String) (id : String) : reused seen (ids ++ [id]) =
    reused seen ids ++ if id.toLower ∈ seen ++ ids.map String.toLower then [id] else [] := by
  induction ids generalizing seen with
  | nil => simp [reused]
  | cons a ids ih =>
    rw [List.cons_append, reused, reused]
    by_cases ha : a.toLower ∈ seen
    · -- an id that was seen before adds nothing to what is seen
      have hmem : id.toLower ∈ seen ++ (a :: ids).map String.toLower ↔
          id.toLower ∈ seen ++ ids.map String.toLower := by
        have hseen : id.toLower = a.toLower → id.toLower ∈ seen := fun h => h ▸ ha
        simp only [List.map_cons, List.mem_append, List.mem_cons]
        tauto
      rw [if_pos (List.contains_iff_mem.2 ha), if_pos (List.contains_iff_mem.2 ha), ih,
        List.cons_append, if_congr hmem rfl rfl]
    · have hmem : id.toLower ∈ seen ++ (a :: ids).map String.toLower ↔
          id.toLower ∈ (a.toLower :: seen) ++ ids.map String.toLower := by
        simp only [List.map_cons, List.mem_append, List.mem_cons, or_assoc, or_left_comm]
      rw [if_neg (mt List.contains_iff_mem.1 ha), if_neg (mt List.contains_iff_mem.1 ha), ih,
        if_congr hmem rfl rfl]

/-- The id at a place in a list was used before: one in front of it equals it up to letter case. -/
def IsReused (ids : List String) (i : Nat) (id : String) : Prop :=
  ids[i]? = some id ∧ ∃ earlier ∈ ids.take i, sameName earlier id = true

theorem isReused_concat {ids : List String} {id id' : String} {i : Nat} :
    IsReused (ids ++ [id]) i id' ↔ IsReused ids i id' ∨
      (∃ earlier ∈ ids, sameName earlier id = true) ∧ i = ids.length ∧ id' = id := by
  unfold IsReused
  rw [getElem?_concat_eq_some_iff, or_and_right]
  refine or_congr (and_congr_right fun hi => ?_) ?_
  · have hlt : i < ids.length := (List.getElem?_eq_some_iff.1 hi).1
    rw [List.take_append_of_le_length (Nat.le_of_lt hlt)]
  · constructor
    · rintro ⟨⟨rfl, rfl⟩, hearlier⟩
      rw [List.take_left] at hearlier
      exact ⟨hearlier, rfl, rfl⟩
    · rintro ⟨hearlier, rfl, rfl⟩
      rw [List.take_left]
      exact ⟨⟨rfl, rfl⟩, hearlier⟩

/-- The ids that were used before, once for each time. -/
theorem reports_reused (ids : List String) : Reports (reused [] ids) (IsReused ids) := by
  induction ids using List.reverseRecOn with
  | nil => exact .nil fun i id h => by simp [IsReused] at h
  | append_singleton ids id ih =>
    have hlower : id.toLower ∈ [] ++ ids.map String.toLower ↔
        ∃ earlier ∈ ids, sameName earlier id = true := by
      simp [sameName]
    rw [reused_concat, if_congr hlower rfl rfl]
    refine (ih.append (.ite _ ids.length id) ?_).congr fun i id' => isReused_concat.symm
    rintro i id' _ ⟨hi, -⟩ ⟨-, rfl, -⟩
    simp at hi

/-! ### What can be wrong -/

/-- The kinds of records that go by ids. -/
inductive RecordKind where
  | topic
  | script
  | actor
  | leveledList
deriving DecidableEq

def RecordKind.word : RecordKind → String
  | topic => "dialogue"
  | script => "script"
  | actor => "actor"
  | leveledList => "leveled list"

namespace Records

/-- A place in records where something can be wrong: a record, the reference of an actor to its
script, one of the scripts that run from the start, an item that an actor carries, an entry of a
topic, the members of a leveled list. All but the items are counted in their lists. -/
inductive Site where
  | record (kind : RecordKind) (i : Nat)
  | script (actor : Nat)
  | item (actor : Nat) (item : String)
  | start (i : Nat)
  | entry (topic i : Nat)
  | members (i : Nat)

variable (r : Records)

/-- The ids of the records of a kind. -/
def ids : RecordKind → List String
  | .topic => r.topics.map (·.id)
  | .script => r.scripts.map (·.id)
  | .actor => r.actors.map (·.id)
  | .leveledList => r.leveledLists.map (·.id)

/-- No script of the records has the id. -/
def LacksScript (id : String) : Prop :=
  ∀ s ∈ r.scripts, sameName s.id id = false

/-- What is wrong with records, and where. -/
inductive HasDefect : Site → Defect → Prop
  | reused {kind : RecordKind} {i : Nat} {id : String} (h : IsReused (r.ids kind) i id) :
    HasDefect (.record kind i) (.duplicateId kind.word id)
  | script {i : Nat} {a : Actor} {id : String} (ha : r.actors[i]? = some a)
    (hid : a.script = some id) (h : r.LacksScript id) :
    HasDefect (.script i) (.missingReference "script" id ("actor '" ++ a.id ++ "'"))
  | item {i : Nat} {a : Actor} {item : String} (ha : r.actors[i]? = some a)
    (h : a.inventory[item]? = some 0) :
    HasDefect (.item i item)
      (.invalidValue ("actor '" ++ a.id ++ "' carries zero of '" ++ item ++ "'"))
  | start {i : Nat} {id : String} (hid : r.startScripts[i]? = some id) (h : r.LacksScript id) :
    HasDefect (.start i) (.missingReference "script" id "start scripts")
  | entry {i j : Nat} {t : Topic} {e : Response} (ht : r.topics[i]? = some t)
    (hkind : t.kind = .journal) (he : t.responses[j]? = some e) (hindex : e.index = none)
    (hname : e.namesQuest = false) :
    HasDefect (.entry i j)
      (.invalidValue ("journal '" ++ t.id ++ "' entry '" ++ e.id ++ "' has no index"))
  | members {i : Nat} {l : LeveledList} (hl : r.leveledLists[i]? = some l)
    (h : ∃ m ∈ l.members, sameName m l.id = true) :
    HasDefect (.members i) (.invalidValue ("leveled list '" ++ l.id ++ "' contains itself"))

/-! ### Parts of the check -/

/-- The parts of records that the check goes through. -/
inductive Part where
  | ids (kind : RecordKind)
  | actors
  | startScripts
  | topics
  | leveledLists
deriving DecidableEq

def Site.part : Site → Part
  | record kind _ => .ids kind
  | script _ => .actors
  | item _ _ => .actors
  | start _ => .startScripts
  | entry _ _ => .topics
  | members _ => .leveledLists

/-- All parts, in the order in which the check goes through them. -/
def parts : List Part :=
  [.ids .topic, .ids .script, .ids .actor, .ids .leveledList, .actors, .startScripts, .topics,
    .leveledLists]

theorem mem_parts (p : Part) : p ∈ parts := by
  cases p with
  | ids kind => cases kind <;> simp [parts]
  | _ => simp [parts]

/-- The defects that the check finds in a part. -/
def partDefects : Part → List Defect
  | .ids kind => duplicates kind.word (r.ids kind)
  | .actors => r.actors.flatMap r.actorDefects
  | .startScripts => r.startScripts.flatMap (r.scriptDefect "start scripts")
  | .topics => r.topics.flatMap Topic.defects
  | .leveledLists => r.leveledLists.flatMap LeveledList.defects

theorem defects_eq_flatMap : r.defects = parts.flatMap r.partDefects := by
  simp [defects, parts, partDefects, ids, RecordKind.word]

theorem reports_duplicates (kind : RecordKind) :
    Reports (duplicates kind.word (r.ids kind)) fun x d =>
      x.part = .ids kind ∧ r.HasDefect x d := by
  have hinj : Function.Injective (Site.record kind) := fun i j h => by
    injection h
  refine ((reports_reused (r.ids kind)).relabel hinj _).congr fun x d => ?_
  constructor
  · rintro ⟨i, id, h, rfl, rfl⟩
    exact ⟨rfl, .reused h⟩
  · rintro ⟨hpart, h⟩
    cases h with
    | reused h =>
      cases hpart
      exact ⟨_, _, h, rfl, rfl⟩
    | _ => cases hpart

theorem reports_scriptDefect (x : Site) (context id : String) :
    Reports (r.scriptDefect context id) fun y d =>
      r.LacksScript id ∧ y = x ∧ d = .missingReference "script" id context := by
  have hlacks : ¬r.hasScript id = true ↔ r.LacksScript id := by
    simp [hasScript, LacksScript, sameName]
  unfold scriptDefect
  rw [← ite_not]
  exact (Reports.ite _ x _).congr fun y d => by rw [hlacks]

/-- What is wrong with the actor at place `i`. -/
theorem reports_actorDefects (i : Nat) (a : Actor) :
    Reports (r.actorDefects a) fun (x : Site) d =>
      (∃ id, a.script = some id ∧ r.LacksScript id ∧ x = .script i ∧
        d = .missingReference "script" id ("actor '" ++ a.id ++ "'")) ∨
      ∃ item, a.inventory[item]? = some 0 ∧ x = .item i item ∧
        d = .invalidValue ("actor '" ++ a.id ++ "' carries zero of '" ++ item ++ "'") := by
  have hscript : Reports (a.script.elim [] (r.scriptDefect ("actor '" ++ a.id ++ "'")))
      fun (x : Site) d => ∃ id, a.script = some id ∧ r.LacksScript id ∧ x = .script i ∧
        d = .missingReference "script" id ("actor '" ++ a.id ++ "'") := by
    cases a.script with
    | none => exact .nil fun x d => by simp
    | some id =>
      refine (r.reports_scriptDefect (.script i) _ id).congr fun x d => ?_
      simp
  -- the keys of an inventory are different, so each item is a place of its own
  have hkeys : ((a.inventory.toList.filter (·.2 == 0)).map fun p => Site.item i p.1).Nodup := by
    refine List.pairwise_map.2 (Std.ExtTreeMap.distinct_keys_toList.filter _ |>.imp ?_)
    rintro p q hpq heq
    injection heq with _ heq
    exact hpq (Std.LawfulEqCmp.compare_eq_iff_eq.2 heq)
  have hitem (item : String) : (∃ p ∈ a.inventory.toList.filter (·.2 == 0), p.1 = item) ↔
      a.inventory[item]? = some 0 := by
    simp only [List.mem_filter, Prod.exists, Std.ExtTreeMap.mem_toList_iff_getElem?_eq_some]
    simp
  refine (hscript.append (.map hkeys _) ?_).congr fun x d => or_congr_right ?_
  · rintro x d e ⟨id, -, -, rfl, -⟩ ⟨p, -, h, -⟩
    cases h
  · simp only [← hitem]
    constructor
    · rintro ⟨p, hp, rfl, rfl⟩
      exact ⟨p.1, ⟨p, hp, rfl⟩, rfl, rfl⟩
    · rintro ⟨_, ⟨p, hp, rfl⟩, rfl, rfl⟩
      exact ⟨p, hp, rfl, rfl⟩

theorem reports_actors :
    Reports (r.actors.flatMap r.actorDefects) fun x d => x.part = .actors ∧ r.HasDefect x d := by
  refine (Reports.flatMap (fun i a _ => r.reports_actorDefects i a) ?_).congr fun x d => ?_
  · rintro i j a b x d e (⟨_, -, -, rfl, -⟩ | ⟨_, -, rfl, -⟩) (⟨_, -, -, h, -⟩ | ⟨_, -, h, -⟩)
    all_goals cases h
    all_goals rfl
  · constructor
    · rintro ⟨i, a, ha, ⟨id, hid, h, rfl, rfl⟩ | ⟨item, h, rfl, rfl⟩⟩
      · exact ⟨rfl, .script ha hid h⟩
      · exact ⟨rfl, .item ha h⟩
    · rintro ⟨hpart, h⟩
      cases h with
      | script ha hid h => exact ⟨_, _, ha, .inl ⟨_, hid, h, rfl, rfl⟩⟩
      | item ha h => exact ⟨_, _, ha, .inr ⟨_, h, rfl, rfl⟩⟩
      | _ => cases hpart

theorem reports_startScripts :
    Reports (r.startScripts.flatMap (r.scriptDefect "start scripts"))
      fun x d => x.part = .startScripts ∧ r.HasDefect x d := by
  refine (Reports.flatMap (fun i id _ => r.reports_scriptDefect (.start i) _ id) ?_).congr
    fun x d => ?_
  · rintro i j a b x d e ⟨-, rfl, -⟩ ⟨-, h, -⟩
    cases h
    rfl
  · constructor
    · rintro ⟨i, id, hid, h, rfl, rfl⟩
      exact ⟨rfl, .start hid h⟩
    · rintro ⟨hpart, h⟩
      cases h with
      | start hid h => exact ⟨_, _, hid, h, rfl, rfl⟩
      | _ => cases hpart

/-- What is wrong with the topic at place `i`. -/
theorem reports_topicDefects (i : Nat) (t : Topic) :
    Reports t.defects fun (x : Site) d => ∃ j e, t.responses[j]? = some e ∧
      (t.kind = .journal ∧ e.index = none ∧ e.namesQuest = false) ∧ x = .entry i j ∧
        d = .invalidValue ("journal '" ++ t.id ++ "' entry '" ++ e.id ++ "' has no index") := by
  have hentries : t.defects = t.responses.flatMap fun e =>
      if t.kind = .journal ∧ e.index = none ∧ e.namesQuest = false then
        [.invalidValue ("journal '" ++ t.id ++ "' entry '" ++ e.id ++ "' has no index")]
      else [] := by
    unfold Topic.defects
    split
    · next hkind =>
      rw [map_filter_eq_flatMap]
      refine List.flatMap_congr fun e _ => if_congr ?_ rfl rfl
      simp [hkind]
    · next hkind =>
      simp [hkind]
  rw [hentries]
  refine Reports.flatMap (fun j e _ => .ite _ (Site.entry i j) _) ?_
  rintro j k e f x c d ⟨-, rfl, -⟩ ⟨-, h, -⟩
  cases h
  rfl

theorem reports_topics :
    Reports (r.topics.flatMap Topic.defects) fun x d => x.part = .topics ∧ r.HasDefect x d := by
  refine (Reports.flatMap (fun i t _ => reports_topicDefects i t) ?_).congr fun x d => ?_
  · rintro i j a b x d e ⟨_, _, -, -, rfl, -⟩ ⟨_, _, -, -, h, -⟩
    cases h
    rfl
  · constructor
    · rintro ⟨i, t, ht, j, e, he, ⟨hkind, hindex, hname⟩, rfl, rfl⟩
      exact ⟨rfl, .entry ht hkind he hindex hname⟩
    · rintro ⟨hpart, h⟩
      cases h with
      | entry ht hkind he hindex hname =>
        exact ⟨_, _, ht, _, _, he, ⟨hkind, hindex, hname⟩, rfl, rfl⟩
      | _ => cases hpart

theorem reports_leveledLists :
    Reports (r.leveledLists.flatMap LeveledList.defects)
      fun x d => x.part = .leveledLists ∧ r.HasDefect x d := by
  refine (Reports.flatMap (fun i l _ => .ite _ (Site.members i) _) ?_).congr fun x d => ?_
  · rintro i j a b x d e ⟨-, rfl, -⟩ ⟨-, h, -⟩
    cases h
    rfl
  · constructor
    · rintro ⟨i, l, hl, h, rfl, rfl⟩
      exact ⟨rfl, .members hl (List.any_eq_true.1 h)⟩
    · rintro ⟨hpart, h⟩
      cases h with
      | members hl h => exact ⟨_, _, hl, List.any_eq_true.2 h, rfl, rfl⟩
      | _ => cases hpart

/-! ### All of it -/

/-- The check of records reports each record that has the id of an earlier one of its kind, each actor
and each start of a script that does not exist, each item that an actor carries none of, each journal
entry that is neither a stage nor the quest's name, and each leveled list that lists itself: once
each, and nothing else. So it reports nothing exactly when nothing of this is the case. -/
theorem reports_defects :
    Reports r.defects r.HasDefect ∧ (r.defects = [] ↔ ∀ x d, ¬r.HasDefect x d) := by
  have hpart (p : Part) : Reports (r.partDefects p) fun x d => x.part = p ∧ r.HasDefect x d := by
    cases p with
    | ids kind => exact r.reports_duplicates kind
    | actors => exact r.reports_actors
    | startScripts => exact r.reports_startScripts
    | topics => exact r.reports_topics
    | leveledLists => exact r.reports_leveledLists
  have hreports : Reports r.defects r.HasDefect := by
    rw [defects_eq_flatMap]
    have hnodup : parts.Nodup := by decide
    exact (Reports.parts hnodup fun p _ => hpart p).congr fun x d => and_iff_right (mem_parts x.part)
  exact ⟨hreports, hreports.eq_nil_iff⟩

end Records

end Questline
