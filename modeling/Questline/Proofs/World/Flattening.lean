import Mathlib.Logic.Relation
import Questline.World.Leveled

/-!
# Flat members are what can be reached

A walk through leveled lists looks at each list that it meets once. Where it comes to a list whose
flat members are remembered, it takes these and goes no further. Since only the flat members of
whole walks are remembered, every answer is the set of all that can be reached, whatever was asked
before.

## Main definitions

* `named?`, `HasMember`, `HasFlatMember`: the lists that some records give, their members, and what
  can be reached through them
* `LeveledLists.IsFlatMember`: what can be reached through lists and is no list
* `LeveledLists.Remembers`: lists with true answers to earlier questions
* `LeveledLists.IsWalk`: a walk that is under way

## Main results

* `LeveledLists.mem_walk`: a walk finds the flat members of the list that it started from
* `LeveledLists.mem_flatten`, `LeveledLists.Remembers.flatten`: one question
* `LeveledLists.mem_flatten_ofRecords`: the first question about a list of some records
* `LeveledLists.mem_flatten_flattenAll`: a question after any others
-/

namespace Questline

open Relation

/-! ### Lists of records -/

/-- The list with an id in lower case; of two the later counts. -/
def named? (records : List LeveledList) (id : String) : Option LeveledList :=
  records.reverse.find? (·.id.toLower == id)

/-- The list with the id `a` has the member `b`; both ids are in lower case. -/
def HasMember (records : List LeveledList) (a b : String) : Prop :=
  ∃ l, named? records a = some l ∧ b ∈ l.members.map String.toLower

/-- `x` names no list and can be reached from the list `id` through one member or more. -/
def HasFlatMember (records : List LeveledList) (id x : String) : Prop :=
  named? records x = none ∧ TransGen (HasMember records) id x

/-- Of the values that are put in for a key the last counts. -/
theorem getElem?_insertMany {β : Type} (m : Std.ExtTreeMap String β) (l : List (String × β))
    (k : String) :
    (m.insertMany l)[k]? = ((l.reverse.find? (·.1 == k)).map (·.2)).or m[k]? := by
  induction l generalizing m with
  | nil => simp
  | cons e l ih =>
    rw [Std.ExtTreeMap.insertMany_cons, ih, Std.ExtTreeMap.getElem?_insert, List.reverse_cons,
      List.find?_append]
    cases l.reverse.find? (·.1 == k) with
    | some s => rfl
    | none => by_cases hk : e.1 = k <;> simp [hk]

namespace LeveledLists

theorem getElem?_ofRecords (records : List LeveledList) (id : String) :
    (ofRecords records).lists[id]? =
      (named? records id).map fun l => l.members.map String.toLower := by
  rw [ofRecords, Std.ExtTreeMap.ofList_eq_insertMany_empty, getElem?_insertMany,
    ← List.map_reverse, List.find?_map, named?, Option.map_map, Std.ExtTreeMap.getElem?_empty,
    Option.or_none]
  rfl

variable (ls : LeveledLists)

/-- The list `a` has the member `b`. -/
def Holds (a b : String) : Prop :=
  ∃ ms, ls.lists[a]? = some ms ∧ b ∈ ms

/-- `x` is no list and can be reached from `id` through one list or more. -/
def IsFlatMember (id x : String) : Prop :=
  x ∉ ls.lists ∧ TransGen ls.Holds id x

/-- What is remembered of a list are its flat members. -/
def Remembers : Prop :=
  ∀ id flat, ls.flattened[id]? = some flat → id ∈ ls.lists ∧ ∀ x, x ∈ flat ↔ ls.IsFlatMember id x

variable {ls} {id m x : String} {w w' : LeveledWalk} {ms : List String}

theorem Holds.mem_lists (h : ls.Holds id x) : id ∈ ls.lists := by
  obtain ⟨ms, hms, -⟩ := h
  exact Std.ExtTreeMap.mem_iff_isSome_getElem?.2 (hms ▸ rfl)

/-! ### Visits -/

/-- All that can be reached through `m` is found, or will be. -/
def IsCovered (ls : LeveledLists) (w : LeveledWalk) (m : String) : Prop :=
  m ∈ w.met ∨ m ∈ w.flat ∧ m ∉ ls.lists ∨
    ∃ flat, ls.flattened[m]? = some flat ∧ ∀ x ∈ flat, x ∈ w.flat

/-- What visits to the members `ms` make of a walk: nothing is lost, all of `ms` is covered, and
what is new comes from `ms`. -/
structure Visited (ls : LeveledLists) (ms : List String) (w w' : LeveledWalk) : Prop where
  met_subset : ∀ l ∈ w.met, l ∈ w'.met
  flat_subset : ∀ x ∈ w.flat, x ∈ w'.flat
  covered : ∀ m ∈ ms, ls.IsCovered w' m
  /-- A list that is met for the first time is pending. -/
  pending_of_met : ∀ l ∈ w'.met, l ∈ w.met ∨ l ∈ w'.pending
  pending_subset : ∀ l ∈ w.pending, l ∈ w'.pending
  met_of_pending : ∀ l ∈ w'.pending, l ∈ w.pending ∨ l ∈ w'.met
  of_met : ∀ l ∈ w'.met, l ∈ w.met ∨ l ∈ ms ∧ l ∈ ls.lists
  of_flat : ∀ x ∈ w'.flat, x ∈ w.flat ∨ ∃ m ∈ ms, (m = x ∧ x ∉ ls.lists) ∨
    ∃ flat, ls.flattened[m]? = some flat ∧ x ∈ flat

theorem IsCovered.mono (h : ls.IsCovered w m) (hmet : ∀ l ∈ w.met, l ∈ w'.met)
    (hflat : ∀ x ∈ w.flat, x ∈ w'.flat) : ls.IsCovered w' m := by
  obtain h | ⟨h, hm⟩ | ⟨flat, hknown, h⟩ := h
  · exact .inl (hmet m h)
  · exact .inr (.inl ⟨hflat m h, hm⟩)
  · exact .inr (.inr ⟨flat, hknown, fun x hx => hflat x (h x hx)⟩)

/-- A visit takes what is remembered of the member, passes over a list that was met, meets a list,
or finds a flat member. -/
theorem visited_visit (ls : LeveledLists) (w : LeveledWalk) (m : String) :
    ls.Visited [m] w (ls.visit w m) := by
  unfold visit
  split
  · next known hknown =>
    have hmem (x : String) : x ∈ w.flat.insertMany known.toList ↔ x ∈ w.flat ∨ x ∈ known := by
      rw [Std.ExtTreeSet.mem_insertMany_list, List.contains_iff_mem, Std.ExtTreeSet.mem_toList]
    constructor <;> grind [IsCovered]
  · split
    · next hlist =>
      split
      · constructor <;> grind [IsCovered]
      · constructor <;> grind [IsCovered]
    · next hlist =>
      have hmem (x : String) : x ∈ w.flat.insert m ↔ m = x ∨ x ∈ w.flat := by
        rw [Std.ExtTreeSet.mem_insert, Std.LawfulEqCmp.compare_eq_iff_eq]
      constructor <;> grind [IsCovered]

theorem Visited.refl (ls : LeveledLists) (w : LeveledWalk) : ls.Visited [] w w :=
  ⟨fun _ h => h, fun _ h => h, by simp, fun _ h => .inl h, fun _ h => h, fun _ h => .inl h,
    fun _ h => .inl h, fun _ h => .inl h⟩

theorem Visited.append {ns : List String} {w'' : LeveledWalk} (h : ls.Visited ms w w')
    (h' : ls.Visited ns w' w'') : ls.Visited (ms ++ ns) w w'' where
  met_subset l hl := h'.met_subset l (h.met_subset l hl)
  flat_subset x hx := h'.flat_subset x (h.flat_subset x hx)
  covered m hm := by
    obtain hm | hm := List.mem_append.1 hm
    · exact (h.covered m hm).mono h'.met_subset h'.flat_subset
    · exact h'.covered m hm
  pending_of_met l hl := by
    obtain hl | hl := h'.pending_of_met l hl
    · exact (h.pending_of_met l hl).imp_right (h'.pending_subset l)
    · exact .inr hl
  pending_subset l hl := h'.pending_subset l (h.pending_subset l hl)
  met_of_pending l hl := by
    obtain hl | hl := h'.met_of_pending l hl
    · exact (h.met_of_pending l hl).imp_right (h'.met_subset l)
    · exact .inr hl
  of_met l hl := by
    obtain hl | ⟨hl, hlist⟩ := h'.of_met l hl
    · exact (h.of_met l hl).imp_right fun hl => ⟨List.mem_append_left ns hl.1, hl.2⟩
    · exact .inr ⟨List.mem_append_right ms hl, hlist⟩
  of_flat x hx := by
    obtain hx | ⟨m, hm, hx⟩ := h'.of_flat x hx
    · exact (h.of_flat x hx).imp_right fun ⟨m, hm, hx⟩ => ⟨m, List.mem_append_left ns hm, hx⟩
    · exact .inr ⟨m, List.mem_append_right ms hm, hx⟩

theorem visited_foldl (ls : LeveledLists) (ms : List String) (w : LeveledWalk) :
    ls.Visited ms w (ms.foldl ls.visit w) := by
  induction ms generalizing w with
  | nil => exact .refl ls w
  | cons m ms ih => exact (ls.visited_visit w m).append (ih (ls.visit w m))

/-! ### Walks -/

/-- A walk from the list `id` that is under way: all that was found can be reached from `id`, and
the lists that were met and are not pending have been looked at. -/
structure IsWalk (ls : LeveledLists) (id : String) (w : LeveledWalk) : Prop where
  start : id ∈ w.met
  met_lists : ∀ l ∈ w.met, l ∈ ls.lists ∧ ReflTransGen ls.Holds id l
  met_of_pending : ∀ l ∈ w.pending, l ∈ w.met
  flat_members : ∀ x ∈ w.flat, ls.IsFlatMember id x
  covered : ∀ l ∈ w.met, l ∉ w.pending → ∀ m, ls.Holds l m → ls.IsCovered w m

namespace IsWalk

theorem init (h : id ∈ ls.lists) : ls.IsWalk id { met := [id], pending := [id] } where
  start := List.mem_singleton_self id
  met_lists l hl := by
    obtain rfl := List.mem_singleton.1 hl
    exact ⟨h, .refl⟩
  met_of_pending _ hl := hl
  flat_members x hx := absurd hx Std.ExtTreeSet.not_mem_empty
  covered _ hl hn := absurd hl hn

/-- Looking at a pending list keeps the walk under way. -/
theorem step {met rest : List String} {l : String} {flat : Names} (hr : ls.Remembers)
    (h : ls.IsWalk id ⟨met, l :: rest, flat⟩) :
    ls.IsWalk id (((ls.lists[l]?).getD []).foldl ls.visit ⟨met, rest, flat⟩) := by
  have hv := ls.visited_foldl ((ls.lists[l]?).getD []) ⟨met, rest, flat⟩
  generalize ((ls.lists[l]?).getD []).foldl ls.visit ⟨met, rest, flat⟩ = w' at hv
  have hl := h.met_of_pending l List.mem_cons_self
  obtain ⟨hlist, hreach⟩ := h.met_lists l hl
  obtain ⟨ms, hms⟩ := Option.isSome_iff_exists.1 (Std.ExtTreeMap.mem_iff_isSome_getElem?.1 hlist)
  rw [hms, Option.getD_some] at hv
  have hholds : ∀ m ∈ ms, ls.Holds l m := fun m hm => ⟨ms, hms, hm⟩
  refine ⟨hv.met_subset id h.start, ?_, ?_, ?_, ?_⟩
  · intro k hk
    obtain hk | ⟨hk, hlist⟩ := hv.of_met k hk
    · exact h.met_lists k hk
    · exact ⟨hlist, hreach.tail (hholds k hk)⟩
  · intro k hk
    obtain hk | hk := hv.met_of_pending k hk
    · exact hv.met_subset k (h.met_of_pending k (List.mem_cons_of_mem l hk))
    · exact hk
  · intro x hx
    obtain hx | ⟨m, hm, ⟨rfl, hx⟩ | ⟨flat, hflat, hx⟩⟩ := hv.of_flat x hx
    · exact h.flat_members x hx
    · exact ⟨hx, TransGen.tail' hreach (hholds m hm)⟩
    -- what is remembered of a member can be reached through it
    · obtain ⟨hnot, hx⟩ := ((hr m flat hflat).2 x).1 hx
      exact ⟨hnot, (TransGen.tail' hreach (hholds m hm)).trans hx⟩
  · intro k hk hpending m hm
    obtain hk | hk := hv.pending_of_met k hk
    -- a list that was met before is `l` itself, which is looked at now, or is no longer pending
    · by_cases hkl : k = l
      · subst hkl
        obtain ⟨ms', hms', hm⟩ := hm
        obtain rfl := Option.some.inj (hms.symm.trans hms')
        exact hv.covered m hm
      · have hold : k ∉ l :: rest := by
          rw [List.mem_cons, not_or]
          exact ⟨hkl, fun hk => hpending (hv.pending_subset k hk)⟩
        exact (h.covered k hk hold m hm).mono hv.met_subset hv.flat_subset
    · exact absurd hk hpending

/-- At the end of a walk all flat members are found. -/
theorem mem_flat_iff {met : List String} {flat : Names} (hr : ls.Remembers)
    (h : ls.IsWalk id ⟨met, [], flat⟩) : x ∈ flat ↔ ls.IsFlatMember id x := by
  refine ⟨h.flat_members x, fun ⟨hnot, hx⟩ => ?_⟩
  -- all that can be reached is met, found, or behind a list of which the flat members are known
  have hreached : ∀ y, ReflTransGen ls.Holds id y → y ∈ met ∨ y ∈ flat ∧ y ∉ ls.lists ∨
      ∃ m known, ls.flattened[m]? = some known ∧ (∀ x ∈ known, x ∈ flat) ∧
        ReflTransGen ls.Holds m y := by
    intro y hy
    induction hy with
    | refl => exact .inl h.start
    | @tail y z _ hyz ih =>
      obtain hy | ⟨-, hy⟩ | ⟨m, known, hknown, hsub, hmy⟩ := ih
      · obtain hz | hz | ⟨known, hknown, hsub⟩ := h.covered y hy List.not_mem_nil z hyz
        · exact .inl hz
        · exact .inr (.inl hz)
        · exact .inr (.inr ⟨z, known, hknown, hsub, .refl⟩)
      · exact absurd hyz.mem_lists hy
      · exact .inr (.inr ⟨m, known, hknown, hsub, hmy.tail hyz⟩)
  obtain hmet | ⟨hflat, -⟩ | ⟨m, known, hknown, hsub, hmx⟩ := hreached x hx.to_reflTransGen
  · exact absurd (h.met_lists x hmet).1 hnot
  · exact hflat
  · obtain ⟨hm, hmem⟩ := hr m known hknown
    obtain rfl | hmx := reflTransGen_iff_eq_or_transGen.1 hmx
    · exact absurd hm hnot
    · exact hsub x ((hmem x).2 ⟨hnot, hmx⟩)

end IsWalk

/-- A walk finds the flat members of the list that it started from. -/
theorem mem_walk (hr : ls.Remembers) (h : ls.IsWalk id w) :
    x ∈ ls.walk w ↔ ls.IsFlatMember id x := by
  fun_induction walk ls w with
  | case1 => exact h.mem_flat_iff hr
  | case2 met l rest flat _ ih => exact ih (h.step hr)

/-! ### Questions -/

/-- What a question does: it repeats what is remembered, or walks and remembers what it found, or
learns that the id names no list. -/
theorem flatten_cases (ls : LeveledLists) (id : String) :
    (∃ flat, ls.flattened[id.toLower]? = some flat ∧ ls.flatten id = (flat, ls)) ∨
      (id.toLower ∈ ls.lists ∧ ∃ flat,
        ls.walk { met := [id.toLower], pending := [id.toLower] } = flat ∧ ls.flatten id =
          (flat, { ls with flattened := ls.flattened.insert id.toLower flat })) ∨
      id.toLower ∉ ls.lists ∧ ls.flatten id = (Std.ExtTreeSet.ofList [id.toLower], ls) := by
  unfold flatten
  dsimp only
  split
  · next flat hflat => exact .inl ⟨flat, hflat, rfl⟩
  · split
    · next hlist => exact .inr (.inl ⟨hlist, _, rfl, rfl⟩)
    · next hlist => exact .inr (.inr ⟨hlist, rfl⟩)

theorem mem_flatten (hr : ls.Remembers) (id x : String) :
    x ∈ (ls.flatten id).1 ↔
      if id.toLower ∈ ls.lists then ls.IsFlatMember id.toLower x else x = id.toLower := by
  obtain ⟨flat, hflat, heq⟩ | ⟨hlist, flat, hwalk, heq⟩ | ⟨hlist, heq⟩ := ls.flatten_cases id
  · obtain ⟨hlist, hmem⟩ := hr _ flat hflat
    rw [heq, if_pos hlist, hmem]
  · rw [heq, if_pos hlist, ← hwalk, mem_walk hr (.init hlist)]
  · rw [heq, if_neg hlist, Std.ExtTreeSet.mem_ofList, List.contains_iff_mem, List.mem_singleton]

@[simp] theorem lists_flatten (ls : LeveledLists) (id : String) :
    (ls.flatten id).2.lists = ls.lists := by
  obtain ⟨flat, -, heq⟩ | ⟨-, flat, -, heq⟩ | ⟨-, heq⟩ := ls.flatten_cases id <;> rw [heq]

/-- What is remembered depends on the lists only. -/
theorem isFlatMember_congr {ls' : LeveledLists} (h : ls.lists = ls'.lists) :
    ls.IsFlatMember = ls'.IsFlatMember := by
  have hholds : ls.Holds = ls'.Holds := by
    unfold Holds
    rw [h]
  unfold IsFlatMember
  rw [h, hholds]

/-- A question leaves only true answers behind. -/
theorem Remembers.flatten (hr : ls.Remembers) (id : String) : (ls.flatten id).2.Remembers := by
  intro k known hknown
  rw [lists_flatten, isFlatMember_congr (ls.lists_flatten id)]
  obtain ⟨flat, -, heq⟩ | ⟨hlist, flat, hwalk, heq⟩ | ⟨-, heq⟩ := ls.flatten_cases id
  · rw [heq] at hknown
    exact hr k known hknown
  · rw [heq, Std.ExtTreeMap.getElem?_insert] at hknown
    split at hknown
    · next hk =>
      obtain rfl := Std.LawfulEqCmp.eq_of_compare hk
      obtain rfl := Option.some.inj hknown
      exact ⟨hlist, fun x => hwalk ▸ mem_walk hr (.init hlist)⟩
    · exact hr k known hknown
  · rw [heq] at hknown
    exact hr k known hknown

/-- The lists after some questions. -/
def flattenAll (ls : LeveledLists) (ids : List String) : LeveledLists :=
  ids.foldl (fun ls id => (ls.flatten id).2) ls

theorem Remembers.flattenAll (hr : ls.Remembers) (ids : List String) :
    (ls.flattenAll ids).Remembers ∧ (ls.flattenAll ids).lists = ls.lists := by
  induction ids generalizing ls with
  | nil => exact ⟨hr, rfl⟩
  | cons id ids ih =>
    obtain ⟨hr', hlists⟩ := ih (hr.flatten id)
    exact ⟨hr', hlists.trans (ls.lists_flatten id)⟩

theorem remembers_ofRecords (records : List LeveledList) : (ofRecords records).Remembers := by
  intro id flat hflat
  rw [ofRecords, Std.ExtTreeMap.getElem?_empty] at hflat
  cases hflat

/-! ### Questions about records -/

section

variable {records : List LeveledList}

theorem mem_lists_ofRecords {k : String} :
    k ∈ (ofRecords records).lists ↔ (named? records k).isSome := by
  rw [Std.ExtTreeMap.mem_iff_isSome_getElem?, getElem?_ofRecords, Option.isSome_map]

theorem holds_ofRecords : (ofRecords records).Holds = HasMember records := by
  funext a b
  rw [Holds, getElem?_ofRecords, HasMember, eq_iff_iff]
  constructor
  · rintro ⟨ms, hms, hb⟩
    obtain ⟨l, hl, rfl⟩ := Option.map_eq_some_iff.1 hms
    exact ⟨l, hl, hb⟩
  · rintro ⟨l, hl, hb⟩
    exact ⟨_, Option.map_eq_some_iff.2 ⟨l, hl, rfl⟩, hb⟩

theorem isFlatMember_ofRecords : (ofRecords records).IsFlatMember = HasFlatMember records := by
  funext a b
  rw [IsFlatMember, HasFlatMember, holds_ofRecords, mem_lists_ofRecords, Bool.not_eq_true,
    Option.isSome_eq_false_iff, Option.isNone_iff_eq_none]

/-- The answer for a list of the records are its flat members. -/
theorem mem_flatten_ofRecords (h : (named? records id.toLower).isSome) :
    x ∈ ((ofRecords records).flatten id).1 ↔ HasFlatMember records id.toLower x := by
  rw [mem_flatten (remembers_ofRecords records), if_pos (mem_lists_ofRecords.2 h),
    isFlatMember_ofRecords]

end

/-- Whatever was asked before, the answer for a list are the ids that can be reached from it
through members of lists, as far as they name no list themselves; for any other id it is that id
alone. -/
theorem mem_flatten_flattenAll (records : List LeveledList) (earlier : List String)
    (id x : String) :
    x ∈ (((ofRecords records).flattenAll earlier).flatten id).1 ↔
      if (named? records id.toLower).isSome then
        named? records x = none ∧ TransGen (HasMember records) id.toLower x
      else x = id.toLower := by
  obtain ⟨hr, hlists⟩ := (remembers_ofRecords records).flattenAll earlier
  rw [mem_flatten hr, isFlatMember_congr hlists, hlists, isFlatMember_ofRecords, HasFlatMember]
  simp only [mem_lists_ofRecords]

end LeveledLists

end Questline
