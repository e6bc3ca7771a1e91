import Mathlib.Data.List.Chain
import Questline.Proofs.Requirement.Gate
import Questline.Proofs.Script.Arena

/-!
# Paths in a tree

The path to a block leads from the root down to it. What has to hold on the way to a block has
to hold on the way to everything inside it, in the same order.

## Main definitions

* `Tree.IsPathTo`: the blocks from the root down to a block

## Main results

* `Tree.IsArena.isPathTo`: the walk upwards from a block comes to the root
* `Tree.IsArena.gate_of_parent?`: a block requires what its parent requires, and then its own
* `Tree.IsArena.gate_isPrefix`: a block requires what the blocks around it require, and more
* `Tree.distinct_gate`: no two requirements on the way to a block are equal
* `Tree.isLocal_iff`: a name is local when it is among the local variables in sight
-/

namespace Questline

open scoped List

namespace Tree

variable {t : Tree} {n p a : Nat}

/-- The blocks from the root down to `n`, each the parent of the next one. -/
structure IsPathTo (t : Tree) (n : Nat) (path : List Nat) : Prop where
  head?_eq : path.head? = some 0
  getLast?_eq : path.getLast? = some n
  isChain : path.IsChain fun p c => t.parent? c = some p

/-! ### The walk upwards -/

theorem path_of_root (h : t.parent? n = none) : t.path n = [n] := by
  rw [path, h]

namespace IsArena

/-- The walk goes on at the parent. -/
theorem path_of_parent? (ht : t.IsArena) (h : t.parent? n = some p) :
    t.path n = t.path p ++ [n] := by
  rw [path, h]
  exact if_pos (ht.lt_of_parent? h).1

/-- The walk upwards from a block comes to the root. -/
theorem isPathTo (ht : t.IsArena) (hn : n < t.size) : t.IsPathTo n (t.path n) := by
  induction n using Nat.strong_induction_on with
  | h n ih =>
    cases hp : t.parent? n with
    | none =>
      obtain ⟨b, hb⟩ := exists_block?_of_lt hn
      have hroot : b.parent = none := by rwa [parent?, hb, Option.bind_some] at hp
      obtain rfl := (ht.isAt n b hb).parent_eq_none_iff.1 hroot
      rw [path_of_root hp]
      exact ⟨rfl, rfl, .singleton 0⟩
    | some p =>
      have hlt := ht.lt_of_parent? hp
      have hpath := ih p hlt.1 (Nat.lt_trans hlt.1 hn)
      rw [ht.path_of_parent? hp]
      refine ⟨?_, List.getLast?_concat, ?_⟩
      · rw [List.head?_append, hpath.head?_eq]
        rfl
      · refine hpath.isChain.append (.singleton n) ?_
        rw [hpath.getLast?_eq]
        intro x hx y hy
        obtain rfl := Option.some.inj hx
        obtain rfl := Option.some.inj hy
        exact hp

/-- The path to a block around another one is the beginning of the path to that one. -/
theorem path_isPrefix (ht : t.IsArena) (ha : a ∈ t.path n) : t.path a <+: t.path n := by
  induction n using Nat.strong_induction_on with
  | h n ih =>
    cases hp : t.parent? n with
    | none =>
      rw [path_of_root hp] at ha
      obtain rfl := List.mem_singleton.1 ha
      exact List.prefix_rfl
    | some p =>
      rw [ht.path_of_parent? hp, List.mem_append, List.mem_singleton] at ha
      obtain ha | rfl := ha
      · rw [ht.path_of_parent? hp]
        exact List.prefix_append_of_prefix (ih p (ht.lt_of_parent? hp).1 ha)
      · exact List.prefix_rfl

end IsArena

/-! ### Requirements on the way -/

/-- The requirements on the way to a block are those of the blocks around it, in order. -/
theorem gate_eq (t : Tree) (n : Nat) :
    t.gate n = (Gate.forBlock n).insertAll ((t.enclosing n).flatMap (·.gate.requirements)) := by
  suffices h : ∀ (bs : List Block) (g : Gate),
      bs.foldl (fun g b => g.extend b.gate) g = g.insertAll (bs.flatMap (·.gate.requirements)) from
    h _ _
  intro bs
  induction bs with
  | nil => exact fun g => rfl
  | cons b bs ih =>
    intro g
    rw [List.foldl_cons, ih, List.flatMap_cons, Gate.insertAll_append]
    rfl

/-- Nothing but the root is on the way to the root. -/
theorem IsArena.gate_zero (ht : t.IsArena) {b : Block} (hb : t.block? 0 = some b) :
    t.gate 0 = (Gate.forBlock 0).insertAll b.gate.requirements := by
  have hroot : t.parent? 0 = none := by
    rw [parent?, hb, Option.bind_some, (ht.isAt 0 b hb).parent_eq_none_iff]
  rw [gate_eq, enclosing, path_of_root hroot, List.filterMap_cons_some hb, List.filterMap_nil,
    List.flatMap_singleton]

/-- A block requires what its parent requires, and then its own. -/
theorem IsArena.gate_of_parent? (ht : t.IsArena) {b : Block} (hb : t.block? n = some b)
    (hp : b.parent = some p) : t.gate n = { (t.gate p).extend b.gate with block := some n } := by
  have hpath := ht.path_of_parent? (parent?_eq_some_iff.2 ⟨b, hb, hp⟩)
  have henclosing : t.enclosing n = t.enclosing p ++ [b] := by
    rw [enclosing, hpath, List.filterMap_append, List.filterMap_cons_some hb]
    rfl
  rw [gate_eq, gate_eq, henclosing, List.flatMap_append, List.flatMap_singleton,
    Gate.insertAll_append]
  refine Gate.eq_of_requirements ?_ (by simp [Gate.forBlock])
  have hblock := Gate.requirements_insertAll_congr (g := .forBlock n) (h := .forBlock p) rfl
  exact Gate.requirements_insertAll_congr (hblock _) _

theorem distinct_gate (t : Tree) (n : Nat) : (t.gate n).Distinct := by
  have hempty : (Gate.forBlock n).Distinct := List.Pairwise.nil
  rw [gate_eq]
  exact hempty.insertAll _

/-- A block requires what the blocks around it require, and more. -/
theorem IsArena.gate_isPrefix (ht : t.IsArena) (ha : a ∈ t.path n) :
    (t.gate a).requirements <+: (t.gate n).requirements := by
  have henclosing : t.enclosing a <+: t.enclosing n := (ht.path_isPrefix ha).filterMap _
  obtain ⟨inside, hinside⟩ := henclosing
  have hblock := Gate.requirements_insertAll_congr (g := .forBlock a) (h := .forBlock n) rfl
  rw [gate_eq, gate_eq, ← hinside, List.flatMap_append, Gate.insertAll_append, hblock]
  exact Gate.isPrefix_requirements_insertAll _ _

/-! ### Local variables in sight -/

theorem mem_visibleLocals_iff {name : String} :
    name ∈ t.visibleLocals n ↔ ∃ b ∈ t.enclosing n, name ∈ b.locals := by
  suffices h : ∀ (bs : List Block) (names : Names),
      name ∈ bs.foldl (fun names b => names.insertMany b.locals.keys) names ↔
        name ∈ names ∨ ∃ b ∈ bs, name ∈ b.locals by
    simpa [visibleLocals] using h (t.enclosing n) ∅
  intro bs
  induction bs with
  | nil => simp
  | cons b bs ih =>
    intro names
    rw [List.foldl_cons, ih, Std.ExtTreeSet.mem_insertMany_list]
    simp [or_assoc]

/-- A name is local when, in lower case, it is among the local variables in sight. -/
theorem isLocal_iff {name : String} :
    t.isLocal n name = true ↔ name.toLower ∈ t.visibleLocals n := by
  simp [isLocal, mem_visibleLocals_iff]

end Tree

end Questline
