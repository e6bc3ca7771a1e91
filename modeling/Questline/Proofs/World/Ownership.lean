import Questline.Proofs.World.Flattening
import Questline.Proofs.World.Retelling

/-!
# Who owns what

Leveled lists and actors own things, and the records alone say how many copies of each: a list has
one of all that can be reached through it. What a survey makes of the records is a history of facts,
and the edge between two objects adds up the copies that this history links. Leveled lists are asked
for their flat members again and again on the way, by other lists and by actors, but the answers
that are remembered are those that would be found anew, so that what an entry contributes does not
depend on what was surveyed before it.

## Main definitions

* `itemCopies`, `actorCopies`, `ownedCopies`: the copies of one object that the records give to
  another
* `LeveledLists.ownership`: what lists and actors tell
* `Survey.IsTold`: a survey that was told nothing but some facts

## Main results

* `Survey.IsTold.linkFlat`, `addItem`, `addActor`: one more entry
* `Survey.isTold_addActors`: all lists and actors
* `LeveledLists.counts_ownership`: what they tell links the copies that the records give
* `Survey.edge?_addActors`: the edges between owners and what they own
-/

namespace Questline

/-! ### Copies -/

open Classical in
/-- The copies of `target` in an entry of an inventory: those that the entry counts, or one if the
entry is a leveled list with the flat member `target`. Here and below `target` and `owner` are in
lower case. -/
noncomputable def itemCopies (records : List LeveledList) (target : String)
    (item : String × Int) : List Nat :=
  if (named? records item.1.toLower).isSome then
    if HasFlatMember records item.1.toLower target then [1] else []
  else if item.1.toLower = target then [item.2.natAbs] else []

/-- The copies of `target` that an actor owns, its script and its inventory. -/
noncomputable def actorCopies (records : List LeveledList) (target : String) (a : Actor) :
    List Nat :=
  (if a.script.map String.toLower = some target then [1] else []) ++
    a.inventory.toList.flatMap (itemCopies records target)

open Classical in
/-- The copies of `target` that `owner` owns, as a leveled list and as an actor. -/
noncomputable def ownedCopies (records : List LeveledList) (actors : List Actor)
    (owner target : String) : List Nat :=
  (if (named? records owner).isSome ∧ HasFlatMember records owner target then [1] else []) ++
    (actors.filter (·.id.toLower = owner)).flatMap (actorCopies records target)

namespace LeveledLists

variable (ls : LeveledLists)

/-! ### Facts -/

/-- What is told of an owner of a leveled list: it contains the flat members of the list. -/
def flatFacts (owner list : String) : List Fact :=
  (ls.flatten list).1.toList.map fun m => .link owner m 1 1.0

/-- What an entry in the inventory of `owner` tells. -/
def itemFacts (owner : String) (item : String × Int) : List Fact :=
  if ls.isList item.1 then ls.flatFacts owner item.1
  else [.kind item.1 .object, .link owner item.1 item.2.natAbs 1.0]

/-- What an actor tells. -/
def actorFacts (a : Actor) : List Fact :=
  .kind a.id .owner :: (a.script.elim [] fun script =>
    [.kind script .script, .link a.id script 1 1.0]) ++
    a.inventory.toList.flatMap (ls.itemFacts a.id)

/-- What all leveled lists tell. -/
def listFacts : List Fact :=
  ls.lists.keys.flatMap fun id => .kind id .owner :: ls.flatFacts id id

/-- What leveled lists and actors tell. -/
def ownership (actors : List Actor) : List Fact :=
  ls.listFacts ++ actors.flatMap ls.actorFacts

variable {ls} {ls' : LeveledLists}

/-! ### Flat members -/

/-- Questions that were asked before make no difference to the flat members. -/
theorem flatten_fst_eq (hr : ls.Remembers) (hr' : ls'.Remembers) (h : ls'.lists = ls.lists)
    (id : String) : (ls'.flatten id).1 = (ls.flatten id).1 := by
  apply Std.ExtTreeSet.ext_mem
  intro x
  rw [mem_flatten hr, mem_flatten hr', isFlatMember_congr h, h]

theorem isList_ofRecords (records : List LeveledList) (id : String) :
    (ofRecords records).isList id = (named? records id.toLower).isSome := by
  rw [isList, Std.ExtTreeMap.contains_eq_isSome_getElem?, getElem?_ofRecords, Option.isSome_map]

end LeveledLists

/-! ### Ids in lower case -/

section

variable {records : List LeveledList} {id x : String}

theorem toLower_eq_of_isSome_named? (h : (named? records id).isSome) : id.toLower = id := by
  obtain ⟨l, hl⟩ := Option.isSome_iff_exists.1 h
  have hid : l.id.toLower = id := by simpa using List.find?_some hl
  rw [← hid, toLower_toLower]

theorem HasFlatMember.toLower_eq (h : HasFlatMember records id x) : x.toLower = x := by
  obtain ⟨-, hreach⟩ := h
  obtain ⟨_, -, _, -, hx⟩ := Relation.TransGen.tail'_iff.1 hreach
  obtain ⟨n, -, rfl⟩ := List.mem_map.1 hx
  exact toLower_toLower n

end

/-! ### Copies that facts link -/

/-- What one element alone contributes to a list without repetitions. -/
theorem flatMap_ite_eq_of_nodup {α β : Type} [DecidableEq α] {l : List α} (h : l.Nodup) (k : α)
    (bs : List β) : (l.flatMap fun a => if a = k then bs else []) = if k ∈ l then bs else [] := by
  induction l with
  | nil => rfl
  | cons a l ih =>
    obtain ⟨ha, hl⟩ := List.nodup_cons.1 h
    rw [List.flatMap_cons, ih hl]
    by_cases hak : a = k
    · subst hak
      rw [if_pos rfl, if_neg ha, List.append_nil, if_pos List.mem_cons_self]
    · rw [if_neg hak, List.nil_append]
      simp only [List.mem_cons, Ne.symm hak, false_or]

/-- The copies that facts link from one object to another. -/
def Fact.counts (owner target : String) (facts : List Fact) : List Nat :=
  (facts.filterMap (·.copies? owner target)).map (·.1)

namespace Fact

variable {owner target : String}

theorem counts_append (fs gs : List Fact) :
    counts owner target (fs ++ gs) = counts owner target fs ++ counts owner target gs := by
  rw [counts, List.filterMap_append, List.map_append]
  rfl

theorem counts_flatMap {α : Type} (l : List α) (f : α → List Fact) :
    counts owner target (l.flatMap f) = l.flatMap fun a => counts owner target (f a) := by
  rw [counts, List.filterMap_flatMap, List.map_flatMap]
  rfl

theorem counts_kind (id : String) (kind : ObjectKind) (fs : List Fact) :
    counts owner target (.kind id kind :: fs) = counts owner target fs :=
  rfl

theorem counts_link (o t : String) (count : Nat) (chance : Float) :
    counts owner target [.link o t count chance] =
      if o.toLower = owner ∧ t.toLower = target then [count] else [] := by
  unfold counts
  rw [List.filterMap_cons, copies?]
  split_ifs <;> rfl

end Fact

namespace LeveledLists

variable {records : List LeveledList} {owner target : String}

open Classical in
theorem counts_flatFacts {list : String} (h : (named? records list.toLower).isSome) (o : String) :
    Fact.counts owner target ((ofRecords records).flatFacts o list) =
      if o.toLower = owner ∧ HasFlatMember records list.toLower target then [1] else [] := by
  have hnodup : ((ofRecords records).flatten list).1.toList.Nodup :=
    Std.ExtTreeSet.distinct_toList.imp fun h heq => h (Std.LawfulEqCmp.compare_eq_iff_eq.2 heq)
  have hmem (m : String) : m ∈ ((ofRecords records).flatten list).1.toList ↔
      HasFlatMember records list.toLower m := by
    rw [Std.ExtTreeSet.mem_toList, mem_flatten_ofRecords h]
  have hmember : ∀ m ∈ ((ofRecords records).flatten list).1.toList,
      Fact.counts owner target [.link o m 1 1.0] =
        if m = target then if o.toLower = owner then [1] else [] else [] := by
    intro m hm
    rw [Fact.counts_link, ((hmem m).1 hm).toLower_eq]
    by_cases hmt : m = target <;> simp [hmt]
  rw [flatFacts, List.map_eq_flatMap, Fact.counts_flatMap, List.flatMap_congr hmember,
    flatMap_ite_eq_of_nodup hnodup, ← ite_and]
  exact if_congr (by rw [hmem, and_comm]) rfl rfl

theorem counts_itemFacts (o : String) (item : String × Int) :
    Fact.counts owner target ((ofRecords records).itemFacts o item) =
      if o.toLower = owner then itemCopies records target item else [] := by
  unfold itemFacts itemCopies
  rw [isList_ofRecords]
  by_cases hlist : (named? records item.1.toLower).isSome
  · rw [if_pos hlist, if_pos hlist, counts_flatFacts hlist, ite_and]
  · rw [if_neg hlist, if_neg hlist, Fact.counts_kind, Fact.counts_link, ite_and]

theorem counts_actorFacts (a : Actor) :
    Fact.counts owner target ((ofRecords records).actorFacts a) =
      if a.id.toLower = owner then actorCopies records target a else [] := by
  have hscript : Fact.counts owner target (a.script.elim [] fun script =>
      [.kind script .script, .link a.id script 1 1.0]) =
        if a.id.toLower = owner ∧ a.script.map String.toLower = some target then [1] else [] := by
    cases a.script with
    | none => simp [Fact.counts]
    | some script =>
      rw [Option.elim_some, Fact.counts_kind, Fact.counts_link]
      simp only [Option.map_some, Option.some.injEq]
  rw [actorFacts, List.cons_append, Fact.counts_kind, Fact.counts_append, hscript,
    Fact.counts_flatMap]
  simp only [counts_itemFacts, actorCopies]
  by_cases ho : a.id.toLower = owner
  · simp only [ho, true_and, if_true]
  · simp only [ho, false_and, if_false, List.nil_append, List.flatMap_eq_nil_iff, implies_true]

open Classical in
theorem counts_listFacts :
    Fact.counts owner target (ofRecords records).listFacts =
      if (named? records owner).isSome ∧ HasFlatMember records owner target then [1] else [] := by
  have hmem (id : String) : id ∈ (ofRecords records).lists.keys ↔ (named? records id).isSome := by
    rw [Std.ExtTreeMap.mem_keys, mem_lists_ofRecords]
  have hlist : ∀ id ∈ (ofRecords records).lists.keys,
      Fact.counts owner target (.kind id .owner :: (ofRecords records).flatFacts id id) =
        if id = owner then if HasFlatMember records owner target then [1] else [] else [] := by
    intro id hid
    rw [hmem] at hid
    have hlower := toLower_eq_of_isSome_named? hid
    rw [Fact.counts_kind, counts_flatFacts (by rwa [hlower]), hlower, ite_and]
    by_cases h : id = owner
    · rw [h]
    · rw [if_neg h, if_neg h]
  rw [listFacts, Fact.counts_flatMap, List.flatMap_congr hlist,
    flatMap_ite_eq_of_nodup Std.ExtTreeMap.nodup_keys, ← ite_and]
  exact if_congr (by rw [hmem]) rfl rfl

/-- The facts that lists and actors tell link the copies that they own. -/
theorem counts_ownership (actors : List Actor) :
    Fact.counts owner target ((ofRecords records).ownership actors) =
      ownedCopies records actors owner target := by
  rw [ownership, Fact.counts_append, counts_listFacts, Fact.counts_flatMap]
  simp only [counts_actorFacts, ownedCopies]
  congr 1
  induction actors with
  | nil => rfl
  | cons a actors ih =>
    rw [List.flatMap_cons, ih]
    by_cases ha : a.id.toLower = owner <;> simp [ha]

end LeveledLists

/-! ### The survey -/

namespace Survey

open LeveledLists

/-- The survey knows the leveled lists of the records, whatever it asked about them, and was told
nothing but some facts. -/
structure IsTold (records : List LeveledList) (s : Survey) (facts : List Fact) : Prop where
  remembers : s.leveled.Remembers
  lists_eq : s.leveled.lists = (ofRecords records).lists
  registry_eq : s.registry = ({} : Registry).tellAll facts

namespace IsTold

variable {records : List LeveledList} {s : Survey} {facts : List Fact}

theorem start (records : List LeveledList) (player : String) :
    (Survey.start records player).IsTold records [] where
  remembers := remembers_ofRecords records
  lists_eq := rfl
  registry_eq := rfl

theorem tell (h : s.IsTold records facts) (fs : List Fact) :
    { s with registry := s.registry.tellAll fs }.IsTold records (facts ++ fs) where
  remembers := h.remembers
  lists_eq := h.lists_eq
  registry_eq := by rw [Registry.tellAll_append, ← h.registry_eq]

theorem isList_eq (h : s.IsTold records facts) (id : String) :
    s.leveled.isList id = (ofRecords records).isList id := by
  rw [isList, isList, h.lists_eq]

/-- A list gives its flat members to an owner, whether they are remembered or found now. -/
theorem linkFlat (h : s.IsTold records facts) (owner list : String) :
    (s.linkFlat owner list).IsTold records (facts ++ (ofRecords records).flatFacts owner list) where
  remembers := h.remembers.flatten list
  lists_eq := (lists_flatten s.leveled list).trans h.lists_eq
  registry_eq := by
    have hflat := flatten_fst_eq (remembers_ofRecords records) h.remembers h.lists_eq list
    rw [Registry.tellAll_append, ← h.registry_eq, flatFacts, ← hflat]
    exact (List.foldl_map (f := fun m => Fact.link owner m 1 1.0) (g := Registry.tell)).symm

theorem addItem (h : s.IsTold records facts) (owner : String) (item : String × Int) :
    (s.addItem owner item).IsTold records
      (facts ++ (ofRecords records).itemFacts owner item) := by
  unfold Survey.addItem itemFacts
  rw [h.isList_eq]
  by_cases hlist : (ofRecords records).isList item.1
  · rw [if_pos hlist, if_pos hlist]
    exact h.linkFlat owner item.1
  · rw [if_neg hlist, if_neg hlist]
    exact h.tell [.kind item.1 .object, .link owner item.1 item.2.natAbs 1.0]

/-- Entries that are added one after the other tell their facts one after the other. -/
theorem foldl {α : Type} {add : Survey → α → Survey} {told : α → List Fact}
    (hadd : ∀ (s : Survey) (facts : List Fact) (a : α), s.IsTold records facts →
      (add s a).IsTold records (facts ++ told a))
    (h : s.IsTold records facts) (l : List α) :
    (l.foldl add s).IsTold records (facts ++ l.flatMap told) := by
  induction l generalizing s facts with
  | nil => rwa [List.flatMap_nil, List.append_nil]
  | cons a l ih =>
    rw [List.flatMap_cons, ← List.append_assoc]
    exact ih (hadd s facts a h)

theorem addActor (h : s.IsTold records facts) (a : Actor) :
    (s.addActor a).IsTold records (facts ++ (ofRecords records).actorFacts a) := by
  rw [actorFacts, ← List.append_assoc]
  refine foldl (fun s facts item h => h.addItem a.id item) ?_ a.inventory.toList
  have htold := h.tell (.kind a.id .owner :: a.script.elim [] fun script =>
    [.kind script .script, .link a.id script 1 1.0])
  cases hscript : a.script with
  | none =>
    rw [hscript] at htold
    exact htold
  | some script =>
    rw [hscript] at htold
    exact htold

theorem addLeveledLists (h : s.IsTold records facts) :
    s.addLeveledLists.IsTold records (facts ++ (ofRecords records).listFacts) := by
  rw [Survey.addLeveledLists, h.lists_eq]
  refine foldl (fun s facts id h => ?_) h (ofRecords records).lists.keys
  rw [← List.singleton_append, ← List.append_assoc]
  exact (h.tell [.kind id .owner]).linkFlat id id

end IsTold

/-- Leveled lists and then actors tell what they own. -/
theorem isTold_addActors (records : List LeveledList) (actors : List Actor) (player : String) :
    ((start records player).addLeveledLists.addActors actors).IsTold records
      ((ofRecords records).ownership actors) :=
  IsTold.foldl (fun _ _ a h => h.addActor a) (IsTold.start records player).addLeveledLists actors

/-- When leveled lists and then actors were surveyed, one object has an edge to another exactly
when some list or actor of that id owns copies of the other, no copies at all among them, and the
edge counts all these copies. A list owns one of each object that can be reached from it through
lists and is no list. -/
theorem edge?_addActors (records : List LeveledList) (actors : List Actor)
    (player owner target : String) :
    let w := ((start records player).addLeveledLists.addActors actors).registry
    let copies := ownedCopies records actors owner.toLower target.toLower
    ((w.edge? owner target).isSome ↔ copies ≠ []) ∧
    ∀ e, w.edge? owner target = some e → e.count = copies.foldl (· + ·) 0 := by
  intro w copies
  have hw : w.Recounts ((ofRecords records).ownership actors) := by
    have htold : w = ({} : Registry).tellAll ((ofRecords records).ownership actors) :=
      (isTold_addActors records actors player).registry_eq
    rw [htold]
    exact Registry.recounts_tellAll _
  have hcopies : copies =
      Fact.counts owner.toLower target.toLower ((ofRecords records).ownership actors) :=
    (counts_ownership actors).symm
  constructor
  · rw [hw.edge?, Edge.isSome_ofCopies?, hcopies, Fact.counts, Ne, Ne, List.map_eq_nil_iff]
  · intro e he
    rw [hw.edge?] at he
    rw [hcopies]
    exact Edge.count_ofCopies? he

end Survey

end Questline
