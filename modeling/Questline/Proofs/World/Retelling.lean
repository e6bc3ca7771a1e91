import Questline.Proofs.World.Involvement

/-!
# Telling a registry the same again

What an object is, which stages mention it and which quests it starts can be told a registry as
often as one likes. For the kinds this is not clear fact by fact, since a later kind can take the
place of an earlier one: what counts is what all of them make of an object together. If one of
them is specific, what the object was before makes no difference; if all are generic, the first
of them has taken away an owner and the others find nothing to change.

## Main definitions

* `Fact.IsDescription`: the facts that can be told again
* `Quest.facts`: what a quest tells

## Main results

* `ObjectKind.foldl_update_foldl_update`: the same kinds once more
* `Registry.mem_tellAll`, `Registry.getD_tellAll`: the objects of a registry that was told facts
* `Registry.addQuest_eq_tellAll`: to add a quest is to tell its facts
* `Registry.retelling_changes_nothing`: the same facts, and the same quests, once more
-/

namespace Questline

/-! ### Kinds -/

namespace ObjectKind

variable {kinds : List ObjectKind} {kind old : ObjectKind}

theorem update_of_ne (h : kind ≠ object) (old : ObjectKind) : old.update kind = kind :=
  if_neg fun h' => h h'.1

theorem update_object_ne_owner (old : ObjectKind) : old.update object ≠ owner := by
  cases old <;> decide

/-- A specific kind makes no difference between what an object was before. -/
theorem foldl_update_eq_of_mem (h : kind ∈ kinds) (hkind : kind ≠ object) (old old' : ObjectKind) :
    kinds.foldl update old = kinds.foldl update old' := by
  induction kinds generalizing old old' with
  | nil => cases h
  | cons new kinds ih =>
    rw [List.foldl_cons, List.foldl_cons]
    obtain rfl | h := List.mem_cons.1 h
    · rw [update_of_ne hkind, update_of_ne hkind]
    · exact ih h _ _

/-- Generic kinds change nothing but an owner. -/
theorem foldl_update_of_forall (h : ∀ kind ∈ kinds, kind = object) (hold : old ≠ owner) :
    kinds.foldl update old = old := by
  induction kinds with
  | nil => rfl
  | cons new kinds ih =>
    obtain ⟨rfl, hkinds⟩ := List.forall_mem_cons.1 h
    have hkept : old.update object = old := if_pos ⟨rfl, hold⟩
    rw [List.foldl_cons, hkept, ih hkinds]

/-- The same kinds once more change nothing. -/
theorem foldl_update_foldl_update (kinds : List ObjectKind) (old : ObjectKind) :
    kinds.foldl update (kinds.foldl update old) = kinds.foldl update old := by
  by_cases h : ∀ kind ∈ kinds, kind = object
  · cases kinds with
    | nil => rfl
    | cons new kinds =>
      obtain ⟨rfl, hkinds⟩ := List.forall_mem_cons.1 h
      have hold := update_object_ne_owner old
      rw [List.foldl_cons (b := old), foldl_update_of_forall hkinds hold,
        foldl_update_of_forall h hold]
  · obtain ⟨kind, hmem, hkind⟩ : ∃ kind ∈ kinds, kind ≠ object := by
      by_contra hall
      exact h fun kind hmem => by_contra fun hne => hall ⟨kind, hmem, hne⟩
    exact foldl_update_eq_of_mem hmem hkind _ _

end ObjectKind

/-! ### One object -/

/-- The fact says what an object is or what quests have to do with it. How much there is of an
object adds up, so that it cannot be told again. -/
def Fact.IsDescription : Fact → Prop
  | kind _ _ => True
  | mention _ _ _ => True
  | giver _ _ => True
  | link _ _ _ _ => False
  | placement _ _ => False

namespace WorldObject

variable {o : WorldObject} {f : Fact} {facts : List Fact} {k : String}

/-- What the object `k` becomes when facts are told. -/
def tellAll (o : WorldObject) (k : String) (facts : List Fact) : WorldObject :=
  facts.foldl (fun o f => o.tell k f) o

theorem tellAll_cons (o : WorldObject) (k : String) (f : Fact) (facts : List Fact) :
    o.tellAll k (f :: facts) = (o.tell k f).tellAll k facts :=
  rfl

theorem kind_tellAll (o : WorldObject) (k : String) (facts : List Fact) :
    (o.tellAll k facts).kind = (facts.filterMap (·.kindOf? k)).foldl ObjectKind.update o.kind := by
  induction facts generalizing o with
  | nil => rfl
  | cons f facts ih =>
    rw [tellAll_cons, ih, kind_tell, List.filterMap_cons]
    cases f.kindOf? k <;> rfl

theorem mem_involved_tellAll {m : Mention} : m ∈ (o.tellAll k facts).involved ↔
    m ∈ o.involved ∨ ∃ f ∈ facts, f.mentionOf? k = some m :=
  foldl_iff_of_step (fun o => m ∈ o.involved) (fun f _ o => mem_involved_tell o f k) o

theorem mem_starts_tellAll {q : String} : q ∈ (o.tellAll k facts).starts ↔
    q ∈ o.starts ∨ ∃ f ∈ facts, f.startOf? k = some q :=
  foldl_iff_of_step (fun o => q ∈ o.starts) (fun f _ o => mem_starts_tell o f k) o

/-- The name of an object, and how much there is of it and where. -/
def amounts (o : WorldObject) :=
  (o.id, o.contains, o.containedIn, o.positions, o.total)

/-- An object is known by its amounts and by what can be told again. -/
theorem eq_of_amounts {o o' : WorldObject} (h : o.amounts = o'.amounts) (hkind : o.kind = o'.kind)
    (hinvolved : o.involved = o'.involved) (hstarts : o.starts = o'.starts) : o = o' := by
  cases o
  cases o'
  simp_all [amounts]

theorem amounts_tell (h : f.IsDescription) (o : WorldObject) (k : String) :
    (o.tell k f).amounts = o.amounts := by
  cases f with
  | kind id what => simp only [tell]; split_ifs <;> rfl
  | mention id quest index => simp only [tell]; split_ifs <;> rfl
  | giver id quest => simp only [tell]; split_ifs <;> rfl
  | link _ _ _ _ => cases h
  | placement _ _ => cases h

theorem amounts_tellAll (h : ∀ f ∈ facts, f.IsDescription) (o : WorldObject) (k : String) :
    (o.tellAll k facts).amounts = o.amounts := by
  induction facts generalizing o with
  | nil => rfl
  | cons f facts ih =>
    obtain ⟨hf, hfacts⟩ := List.forall_mem_cons.1 h
    rw [tellAll_cons, ih hfacts, amounts_tell hf]

/-- An object that was told what it is and what quests have to do with it stays as it is when it
is told so again. -/
theorem tellAll_tellAll (h : ∀ f ∈ facts, f.IsDescription) (o : WorldObject) (k : String) :
    (o.tellAll k facts).tellAll k facts = o.tellAll k facts := by
  refine eq_of_amounts (amounts_tellAll h _ k) ?_ ?_ ?_
  · rw [kind_tellAll, kind_tellAll, ObjectKind.foldl_update_foldl_update]
  · refine Std.ExtTreeSet.ext_mem fun m => ?_
    rw [mem_involved_tellAll, mem_involved_tellAll, or_assoc, or_self]
  · refine Std.ExtTreeSet.ext_mem fun q => ?_
    rw [mem_starts_tellAll, mem_starts_tellAll, or_assoc, or_self]

end WorldObject

/-! ### The registry -/

/-- An optional value is known by whether it is there and by what it is with a default. -/
theorem eq_of_isSome_of_getD {α : Type} {x y : Option α} {d : α} (h : x.isSome = y.isSome)
    (hd : x.getD d = y.getD d) : x = y := by
  cases x <;> cases y <;> simp_all

namespace Registry

variable {w : Registry} {f : Fact} {facts : List Fact} {k : String}

theorem mem_tell (w : Registry) (f : Fact) :
    k ∈ (w.tell f).objects ↔ k ∈ w.objects ∨ k ∈ f.ids := by
  rw [Std.ExtTreeMap.mem_iff_isSome_getElem?, Std.ExtTreeMap.mem_iff_isSome_getElem?, getElem?_tell]
  split_ifs with h <;> simp [h]

/-- The objects of a registry are those that it had and those that the facts name. -/
theorem mem_tellAll : k ∈ (w.tellAll facts).objects ↔ k ∈ w.objects ∨ ∃ f ∈ facts, k ∈ f.ids :=
  foldl_iff_of_step (fun w : Registry => k ∈ w.objects) (fun f _ w => mem_tell w f) w

theorem getD_tell (w : Registry) (f : Fact) (k : String) :
    ((w.tell f).objects[k]?).getD { id := k } =
      ((w.objects[k]?).getD { id := k }).tell k f := by
  rw [getElem?_tell]
  split_ifs with h
  · rfl
  · rw [WorldObject.tell_of_notMem h]

/-- Facts make of an object what they make of it by itself; an object that is not known is a
generic one of which nothing was told. -/
theorem getD_tellAll (w : Registry) (facts : List Fact) (k : String) :
    ((w.tellAll facts).objects[k]?).getD { id := k } =
      ((w.objects[k]?).getD { id := k }).tellAll k facts := by
  induction facts generalizing w with
  | nil => rfl
  | cons f facts ih =>
    rw [tellAll, List.foldl_cons, ← tellAll, ih, getD_tell, WorldObject.tellAll_cons]

theorem tellAll_tellAll (h : ∀ f ∈ facts, f.IsDescription) (w : Registry) :
    (w.tellAll facts).tellAll facts = w.tellAll facts := by
  have hobjects : ((w.tellAll facts).tellAll facts).objects = (w.tellAll facts).objects := by
    refine Std.ExtTreeMap.ext_getElem? fun k => eq_of_isSome_of_getD (d := { id := k }) ?_ ?_
    · rw [Bool.eq_iff_iff, ← Std.ExtTreeMap.mem_iff_isSome_getElem?,
        ← Std.ExtTreeMap.mem_iff_isSome_getElem?, mem_tellAll, mem_tellAll, or_assoc, or_self]
    · rw [getD_tellAll, getD_tellAll, WorldObject.tellAll_tellAll h]
  exact congrArg Registry.mk hobjects

end Registry

/-! ### Quests -/

/-- What is told when a stage mentions an object. -/
def Mention.facts (m : Mention) (x : String × ObjectKind) : List Fact :=
  [.kind x.1 x.2, .mention x.1 m.quest m.index]

/-- What an update tells about the script that it stands in. -/
def Origin.facts (m : Mention) : Origin → List Fact
  | script id => m.facts (id, .script)
  | dialogue _ _ => []

/-- What a requirement of a stage tells about the objects that it mentions. -/
def Requirement.facts (me : String) (m : Mention) (r : Requirement) : List Fact :=
  (r.mentioned me).flatMap m.facts

/-- What a stage of a quest tells about scripts and objects. -/
def Stage.facts (me quest : String) (s : Stage) : List Fact :=
  s.origins.flatMap (Origin.facts ⟨quest, s.index⟩) ++
    s.requirements.flatMap (Requirement.facts me ⟨quest, s.index⟩)

/-- What a quest tells about scripts and objects, and about those that can start it. -/
def Quest.facts (me : String) (q : Quest) : List Fact :=
  q.stages.values.flatMap (Stage.facts me q.id) ++ q.givers.toList.map fun id => .giver id q.id

theorem Mention.isDescription_facts (m : Mention) (x : String × ObjectKind) :
    ∀ f ∈ m.facts x, f.IsDescription := by
  simp [facts, Fact.IsDescription]

theorem Origin.isDescription_facts (m : Mention) (o : Origin) :
    ∀ f ∈ o.facts m, f.IsDescription := by
  cases o with
  | script id => exact m.isDescription_facts (id, .script)
  | dialogue _ _ => simp [facts]

/-- A quest describes objects, and does not say how much there is of them. -/
theorem Quest.isDescription_facts (me : String) (q : Quest) :
    ∀ f ∈ q.facts me, f.IsDescription := by
  intro f hf
  obtain hf | hf := List.mem_append.1 hf
  · obtain ⟨s, -, hf⟩ := List.mem_flatMap.1 hf
    obtain hf | hf := List.mem_append.1 hf
    · obtain ⟨o, -, hf⟩ := List.mem_flatMap.1 hf
      exact o.isDescription_facts _ f hf
    · obtain ⟨r, -, hf⟩ := List.mem_flatMap.1 hf
      obtain ⟨x, -, hf⟩ := List.mem_flatMap.1 hf
      exact Mention.isDescription_facts _ x f hf
  · obtain ⟨id, -, rfl⟩ := List.mem_map.1 hf
    trivial

namespace Registry

theorem tellAll_append (w : Registry) (fs gs : List Fact) :
    w.tellAll (fs ++ gs) = (w.tellAll fs).tellAll gs :=
  List.foldl_append

/-- What is added element by element by telling facts is all told. -/
theorem foldl_eq_tellAll {α : Type} {add : Registry → α → Registry} {facts : α → List Fact}
    (h : ∀ w a, add w a = w.tellAll (facts a)) (l : List α) (w : Registry) :
    l.foldl add w = w.tellAll (l.flatMap facts) := by
  have hadd : add = fun w a => (facts a).foldl tell w := funext fun w => funext fun a => h w a
  rw [tellAll, List.foldl_flatMap, hadd]

theorem addStage_eq_tellAll (me quest : String) (w : Registry) (s : Stage) :
    w.addStage me quest s = w.tellAll (s.facts me quest) := by
  have hrequirement (w : Registry) (r : Requirement) :
      w.addRequirement me ⟨quest, s.index⟩ r = w.tellAll (r.facts me ⟨quest, s.index⟩) := by
    have hmention (w : Registry) (x : String × ObjectKind) :
        w.mention x.1 x.2 ⟨quest, s.index⟩ = w.tellAll (Mention.facts ⟨quest, s.index⟩ x) := rfl
    rw [addRequirement_eq]
    exact foldl_eq_tellAll hmention _ w
  rw [addStage, Stage.facts, tellAll_append, foldl_eq_tellAll hrequirement]
  congr 1
  refine foldl_eq_tellAll (fun w o => ?_) s.origins w
  cases o <;> rfl

/-- To add a quest is to tell its facts. -/
theorem addQuest_eq_tellAll (me : String) (w : Registry) (q : Quest) :
    w.addQuest me q = w.tellAll (q.facts me) := by
  rw [addQuest, Quest.facts, tellAll_append, foldl_eq_tellAll (addStage_eq_tellAll me q.id)]
  exact (List.foldl_map (f := fun id => Fact.giver id q.id) (g := tell)).symm

end Registry

/-- To add quests is to tell all their facts. -/
theorem Survey.addQuests_eq (s : Survey) (qs : List Quest) :
    s.addQuests qs =
      { s with registry := s.registry.tellAll (qs.flatMap (Quest.facts s.player)) } := by
  rw [addQuests, Registry.foldl_eq_tellAll (Registry.addQuest_eq_tellAll s.player)]

/-- A registry, whatever it was told before, stays as it is when it is told once more, in the same
order, what objects are and what quests have to do with them. So it does when the same quests are
added once more. -/
theorem Registry.retelling_changes_nothing :
    (∀ (w : Registry) (facts : List Fact), (∀ f ∈ facts, f.IsDescription) →
      (w.tellAll facts).tellAll facts = w.tellAll facts) ∧
    ∀ (s : Survey) (quests : List Quest),
      (s.addQuests quests).addQuests quests = s.addQuests quests := by
  refine ⟨fun w facts h => tellAll_tellAll h w, fun s quests => ?_⟩
  have h : ∀ f ∈ quests.flatMap (Quest.facts s.player), f.IsDescription := by
    intro f hf
    obtain ⟨q, -, hf⟩ := List.mem_flatMap.1 hf
    exact q.isDescription_facts s.player f hf
  rw [Survey.addQuests_eq, Survey.addQuests_eq]
  dsimp only
  rw [tellAll_tellAll h]

/-- A chest that has contents is registered as an owner and as a generic object, in two letter
cases, and a smith both as a speaker and as a script. -/
def chestFacts : List Fact :=
  [.kind "Chest" .owner, .kind "CHEST" .object, .mention "chest" "Forge" 10, .kind "chest" .owner,
    .kind "Smith" .dialogue, .giver "smith" "FORGE", .kind "smith" .object, .kind "smith" .script]

theorem chestFacts_retelling_changes_nothing :
    let w : Registry := ({} : Registry).tellAll [.link "chest" "Gold" 5 0.5, .placement "Chest" 2]
    (∀ f ∈ chestFacts, f.IsDescription) ∧
      (w.tellAll chestFacts).tellAll chestFacts = w.tellAll chestFacts := by
  have h : ∀ f ∈ chestFacts, f.IsDescription := by simp [chestFacts, Fact.IsDescription]
  exact ⟨h, Registry.retelling_changes_nothing.1 _ chestFacts h⟩

end Questline
