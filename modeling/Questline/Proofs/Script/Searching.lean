import Questline.Proofs.Script.Reachable
import Questline.Script.Index

/-!
# Searching a tree with a copy in it

What is found in a tree with a copy of another one in it is what was found in the tree, and
then what is found in the copied tree. The copy stands under a block, so that all that is
required there is required in the copy too, and the local variables in sight there are in
sight in the copy.

## Main definitions

* `Tree.gateInCopy`, `Call.inCopy`, `Assignment.inCopy`: what becomes of a gate, a call and an
  assignment in the copy
* `Query`, `IndexedTree.askAll`: questions about assignments, which may leave an index behind

## Main results

* `Tree.IsArena.path_graft_add`: the path to a block of the copy
* `Tree.IsArena.gate_graft_add`, `Tree.IsArena.isLocal_graft_add`: what is required there, and
  which names are local
* `IndexedTree.assignmentsTo_askAll`: an index that was kept gives the same answers
* `Tree.search_graft`: calls and assignments in a tree with a copy in it
-/

namespace Questline

open scoped List

namespace Tree

variable {t u : Tree} {site n k : Nat} {b : Block}

/-! ### Paths -/

theorem gate_eq_insertAll_map (t : Tree) (n : Nat) :
    t.gate n =
      (Gate.forBlock n).insertAll ((t.enclosing n).map (·.gate.requirements)).flatten := by
  rw [gate_eq, List.flatMap_def]

@[simp] theorem block_gate (t : Tree) (n : Nat) : (t.gate n).block = some n := by
  rw [gate_eq, Gate.block_insertAll]
  rfl

theorem isLocal_eq_any_map (t : Tree) (n : Nat) (name : String) :
    t.isLocal n name = ((t.enclosing n).map (·.locals)).any (·.contains name.toLower) := by
  rw [isLocal, List.any_map]
  rfl

theorem map_enclosing {α : Type} (t : Tree) (n : Nat) (g : Block → α) :
    (t.enclosing n).map g = (t.path n).filterMap fun k => (t.block? k).map g := by
  rw [enclosing, List.map_filterMap]

/-- A path depends on the parents of its end and of the blocks before it only. -/
theorem path_congr (h : ∀ k ≤ n, u.parent? k = t.parent? k) : u.path n = t.path n := by
  induction n using Nat.strong_induction_on with
  | h n ih =>
    rw [path, path, h n le_rfl]
    cases t.parent? n with
    | none => rfl
    | some p =>
      dsimp only
      split
      · next hlt => rw [ih p hlt fun k hk => h k (hk.trans hlt.le)]
      · rfl

/-- A path leads upwards in the numbers. -/
theorem le_of_mem_path (hk : k ∈ t.path n) : k ≤ n := by
  induction n using Nat.strong_induction_on with
  | h n ih =>
    rw [path] at hk
    split at hk
    · next p hp =>
      split at hk
      · next hlt =>
        rw [List.mem_append, List.mem_singleton] at hk
        obtain hk | rfl := hk
        · exact (ih p hlt hk).trans hlt.le
        · exact Nat.le_refl k
      · exact (List.mem_singleton.1 hk).le
    · exact (List.mem_singleton.1 hk).le

namespace IsArena

/-- A copy changes no path that was there. -/
theorem path_graft_of_lt (ht : t.IsArena) (hu : u.IsArena) (hs : site < t.size) (hn : n < t.size) :
    (t.graft site u).path n = t.path n := by
  have hgraft := ht.graft hu hs
  induction n using Nat.strong_induction_on with
  | h n ih =>
    have hparent : (t.graft site u).parent? n = t.parent? n := parent?_graft_of_lt hn
    cases hp : t.parent? n with
    | none => rw [path_of_root hp, path_of_root (hparent.trans hp)]
    | some p =>
      have hlt := (ht.lt_of_parent? hp).1
      rw [ht.path_of_parent? hp, hgraft.path_of_parent? (hparent.trans hp),
        ih p hlt (hlt.trans hn)]

/-- The path to a block of the copy leads to the block that the copy stands under, and from
there on as in the copied tree. -/
theorem path_graft_add (ht : t.IsArena) (hu : u.IsArena) (hs : site < t.size) (hk : k < u.size) :
    (t.graft site u).path (t.size + k) = t.path site ++ (u.path k).map (t.size + ·) := by
  have hgraft := ht.graft hu hs
  induction k using Nat.strong_induction_on with
  | h k ih =>
    obtain ⟨b, hb⟩ := exists_block?_of_lt hk
    have hparent : (t.graft site u).parent? (t.size + k) =
        some (b.parent.elim site (· + t.size)) := by
      rw [parent?_graft_add hs, hb, Option.map_some]
    cases hp : b.parent with
    | none =>
      have hroot : u.parent? k = none := by rw [parent?, hb, Option.bind_some, hp]
      rw [hp, Option.elim_none] at hparent
      rw [hgraft.path_of_parent? hparent, ht.path_graft_of_lt hu hs hs, path_of_root hroot]
      rfl
    | some p =>
      have hp' : u.parent? k = some p := parent?_eq_some_iff.2 ⟨b, hb, hp⟩
      have hlt := (hu.lt_of_parent? hp').1
      rw [hp, Option.elim_some, Nat.add_comm p] at hparent
      rw [hgraft.path_of_parent? hparent, ih p hlt (hlt.trans hk), hu.path_of_parent? hp']
      simp

/-! ### What is around a block -/

/-- What does not depend on the children of blocks is the same around a block as before. -/
theorem map_enclosing_graft_of_lt {α : Type} {g : Block → α} (hg : ∀ b cs, g (b.adopt cs) = g b)
    (ht : t.IsArena) (hu : u.IsArena) (hs : site < t.size) (hn : n < t.size) :
    ((t.graft site u).enclosing n).map g = (t.enclosing n).map g := by
  rw [map_enclosing, map_enclosing, ht.path_graft_of_lt hu hs hn]
  apply List.filterMap_congr
  intro k hk
  rw [block?_graft_of_lt ((le_of_mem_path hk).trans_lt hn), Option.map_map]
  simp only [Function.comp_def, hg]

/-- Around a block of the copy is what is around the block that the copy stands under, and then
what is around it in the copied tree. -/
theorem map_enclosing_graft_add {α : Type} {g : Block → α} (hg : ∀ b cs, g (b.adopt cs) = g b)
    (hshift : ∀ b offset site owner, g (Block.shift b offset site owner) = g b) (ht : t.IsArena)
    (hu : u.IsArena) (hs : site < t.size) (hk : k < u.size) :
    ((t.graft site u).enclosing (t.size + k)).map g =
      (t.enclosing site).map g ++ (u.enclosing k).map g := by
  have hsite := map_enclosing_graft_of_lt hg ht hu hs hs
  rw [map_enclosing, ht.path_graft_of_lt hu hs hs] at hsite
  rw [map_enclosing, ht.path_graft_add hu hs hk, List.filterMap_append, hsite, List.filterMap_map,
    map_enclosing u]
  congr 2
  funext m
  simp only [Function.comp_apply, block?_graft_add hs, Option.map_map, Function.comp_def, hshift]

theorem gate_graft_of_lt (ht : t.IsArena) (hu : u.IsArena) (hs : site < t.size) (hn : n < t.size) :
    (t.graft site u).gate n = t.gate n := by
  rw [gate_eq_insertAll_map, gate_eq_insertAll_map,
    ht.map_enclosing_graft_of_lt (fun _ _ => rfl) hu hs hn]

theorem isLocal_graft_of_lt (ht : t.IsArena) (hu : u.IsArena) (hs : site < t.size)
    (hn : n < t.size) (name : String) : (t.graft site u).isLocal n name = t.isLocal n name := by
  rw [isLocal_eq_any_map, isLocal_eq_any_map,
    ht.map_enclosing_graft_of_lt (fun _ _ => rfl) hu hs hn]

theorem isLocal_graft_add (ht : t.IsArena) (hu : u.IsArena) (hs : site < t.size) (hk : k < u.size)
    (name : String) :
    (t.graft site u).isLocal (t.size + k) name = (u.isLocal k name || t.isLocal site name) := by
  rw [isLocal_eq_any_map, ht.map_enclosing_graft_add (fun _ _ => rfl) (fun _ _ _ _ => rfl) hu hs hk,
    List.any_append, ← isLocal_eq_any_map, ← isLocal_eq_any_map, Bool.or_comm]

end IsArena

/-- The gate of block `n` of a tree whose gate there is `g`, in a copy of that tree under the
block `site`: what `site` requires, and then what `g` requires. -/
def gateInCopy (t : Tree) (site : Nat) (g : Gate) (n : Nat) : Gate :=
  { (t.gate site).extend g with block := some (n + t.size) }

theorem IsArena.gate_graft_add (ht : t.IsArena) (hu : u.IsArena) (hs : site < t.size)
    (hk : k < u.size) :
    (t.graft site u).gate (t.size + k) = t.gateInCopy site (u.gate k) k := by
  have hinner : (u.gate k).requirements =
      (Gate.ofList ((u.enclosing k).map (·.gate.requirements)).flatten).requirements := by
    rw [gate_eq_insertAll_map]
    exact Gate.requirements_insertAll_congr (g := .forBlock k) (h := {}) rfl _
  have hsite := Gate.requirements_insertAll_congr (g := .forBlock (t.size + k))
    (h := .forBlock site) rfl
  apply Gate.eq_of_requirements
  -- what is required twice on the way is left out in the copied tree already, and left out again
  · rw [gateInCopy, Gate.extend, hinner, Gate.insertAll_ofList, gate_eq_insertAll_map t,
      ← Gate.insertAll_append, ← hsite, ← List.flatten_append,
      ← ht.map_enclosing_graft_add (fun _ _ => rfl) (fun _ _ _ _ => rfl) hu hs hk,
      ← gate_eq_insertAll_map]
  · rw [block_gate, gateInCopy, Nat.add_comm]

end Tree

/-! ### Calls and assignments -/

/-- A call in a copy of the tree `u` under the block `site` of the tree `t`. -/
def Call.inCopy (c : Call) (t : Tree) (site : Nat) (u : Tree) : Call :=
  { c with
    block := c.block + t.size
    script := c.script.or u.script
    gate := t.gateInCopy site c.gate c.block }

/-- An assignment in a copy of the tree `u` under the block `site` of the tree `t`. -/
def Assignment.inCopy (a : Assignment) (t : Tree) (site : Nat) (u : Tree) : Assignment :=
  { a with
    block := a.block + t.size
    script := a.script.or u.script
    gate := t.gateInCopy site a.gate a.block
    isLocal := a.isLocal || t.isLocal site a.name }

namespace Tree

variable {t u : Tree} {site : Nat}

theorem map_modify_of_eq {α β : Type} {f : α → β} {g : α → α} (hf : ∀ a, f (g a) = f a)
    (as : List α) (i : Nat) : (as.modify i g).map f = as.map f := by
  induction as generalizing i with
  | nil => simp
  | cons a as ih => cases i <;> simp [hf, ih]

/-- What is found block by block in a tree with a copy in it. -/
theorem flatMap_blocks_graft {α : Type} {f : Block → List α} (hf : ∀ b cs, f (b.adopt cs) = f b) :
    (t.graft site u).blocks.toList.flatMap f =
      t.blocks.toList.flatMap f ++
        u.blocks.toList.flatMap fun b => f (b.shift t.size site u.script) := by
  have hmodify := map_modify_of_eq (g := (·.adopt [t.size])) (fun b => hf b [t.size])
    (t.blocks ++ u.blocks.map (·.shift t.size site u.script)).toList site
  rw [graft, Array.toList_modify, List.flatMap_def]
  refine (congrArg List.flatten hmodify).trans ?_
  rw [Array.toList_append, Array.toList_map, List.map_append, List.flatten_append, List.map_map]
  rfl

/-- The blocks of a tree whose links agree are found under their own numbers. -/
theorem IsArena.lt_size_of_mem (ht : t.IsArena) {b : Block} (hb : b ∈ t.blocks.toList) :
    b.id < t.size := by
  obtain ⟨n, hn⟩ := List.mem_iff_getElem?.1 hb
  have hb' : t.block? n = some b := block?_eq_getElem?.trans hn
  rw [ht.numbered n b hb']
  exact lt_size_of_block? hb'

theorem calls_graft (ht : t.IsArena) (hu : u.IsArena) (hs : site < t.size) (p : CallPattern) :
    (t.graft site u).calls p = t.calls p ++ (u.calls p).map (·.inCopy t site u) := by
  unfold calls
  rw [flatMap_blocks_graft fun _ _ => rfl, List.map_flatMap]
  congr 1
  · apply List.flatMap_congr
    intro b hb
    unfold callsIn
    rw [ht.gate_graft_of_lt hu hs (ht.lt_size_of_mem hb)]
  · apply List.flatMap_congr
    intro b hb
    have hgate := ht.gate_graft_add hu hs (hu.lt_size_of_mem hb)
    rw [Nat.add_comm] at hgate
    unfold callsIn
    simp only [Block.shift, List.map_flatMap, List.map_map, Function.comp_def, hgate]
    rfl

theorem assignments_graft (ht : t.IsArena) (hu : u.IsArena) (hs : site < t.size) :
    (t.graft site u).assignments = t.assignments ++ u.assignments.map (·.inCopy t site u) := by
  unfold assignments
  rw [flatMap_blocks_graft fun _ _ => rfl, List.map_flatMap]
  congr 1
  · apply List.flatMap_congr
    intro b hb
    unfold assignment?
    simp only [ht.gate_graft_of_lt hu hs (ht.lt_size_of_mem hb),
      ht.isLocal_graft_of_lt hu hs (ht.lt_size_of_mem hb)]
  · apply List.flatMap_congr
    intro b hb
    have hgate := ht.gate_graft_add hu hs (hu.lt_size_of_mem hb)
    have hlocal := ht.isLocal_graft_add hu hs (hu.lt_size_of_mem hb)
    rw [Nat.add_comm] at hgate
    simp only [Nat.add_comm t.size] at hlocal
    rw [List.map_filterMap]
    unfold assignment?
    simp only [Block.shift, Option.map_map, Function.comp_def, hgate, hlocal]
    rfl

theorem assignmentsTo_graft (ht : t.IsArena) (hu : u.IsArena) (hs : site < t.size)
    (name : String) :
    (t.graft site u).assignmentsTo name =
      t.assignmentsTo name ++ (u.assignmentsTo name).map (·.inCopy t site u) := by
  rw [assignmentsTo, assignments_graft ht hu hs, List.filter_append, List.filter_map]
  rfl

/-- The index has under each name the assignments to it, in order. -/
theorem getElem?_assignmentsByName (t : Tree) (name : String) :
    (t.assignmentsByName[name]?).getD [] = t.assignments.filter (·.name == name) := by
  suffices h : ∀ (as : List Assignment) (m : VariableIndex),
      ((as.foldl (fun m a => m.alter a.name fun as => some (as.getD [] ++ [a])) m)[name]?).getD [] =
        (m[name]?).getD [] ++ as.filter (·.name == name) by
    rw [assignmentsByName]
    simpa using h t.assignments ∅
  intro as
  induction as with
  | nil => simp
  | cons a as ih =>
    intro m
    rw [List.foldl_cons, ih, Std.ExtTreeMap.getElem?_alter]
    by_cases ha : a.name = name
    · simp [ha]
    · simp [ha]

end Tree

/-! ### Questions about a tree -/

/-- A question about the assignments in a tree. -/
inductive Query where
  | assignmentsByName
  | assignmentsTo (name : String)

namespace IndexedTree

variable {x : IndexedTree}

/-- The tree after a question. -/
def ask (x : IndexedTree) : Query → IndexedTree
  | .assignmentsByName => x.assignmentsByName.2
  | .assignmentsTo name => (x.assignmentsTo name).2

def askAll (x : IndexedTree) (qs : List Query) : IndexedTree :=
  qs.foldl ask x

/-- An index that was kept is that of the tree. -/
def IsFresh (x : IndexedTree) : Prop :=
  ∀ index, x.index? = some index → index = x.tree.assignmentsByName

theorem IsFresh.assignmentsByName_eq (h : x.IsFresh) :
    x.assignmentsByName =
      (x.tree.assignmentsByName, { x with index? := some x.tree.assignmentsByName }) := by
  cases hx : x.index? with
  | none => rw [assignmentsByName, hx, Option.getD_none]
  | some index => rw [assignmentsByName, hx, Option.getD_some, h index hx]

theorem IsFresh.assignmentsTo_eq (h : x.IsFresh) (name : String) :
    (x.assignmentsTo name).1 = x.tree.assignmentsTo name := by
  rw [assignmentsTo, h.assignmentsByName_eq, Tree.assignmentsTo, ← Tree.getElem?_assignmentsByName]

/-- A question changes nothing but the index, which is that of the tree. -/
theorem IsFresh.ask (h : x.IsFresh) (q : Query) : (x.ask q).IsFresh ∧ (x.ask q).tree = x.tree := by
  have hkeep : x.assignmentsByName.2.IsFresh ∧ x.assignmentsByName.2.tree = x.tree := by
    rw [h.assignmentsByName_eq]
    exact ⟨fun index hindex => (Option.some.inj hindex).symm, rfl⟩
  cases q with
  | assignmentsByName => exact hkeep
  | assignmentsTo name => exact hkeep

theorem IsFresh.askAll (h : x.IsFresh) (qs : List Query) :
    (x.askAll qs).IsFresh ∧ (x.askAll qs).tree = x.tree := by
  induction qs generalizing x with
  | nil => exact ⟨h, rfl⟩
  | cons q qs ih =>
    obtain ⟨hfresh, htree⟩ := h.ask q
    exact ⟨(ih hfresh).1, (ih hfresh).2.trans htree⟩

/-- A tree that was not asked for its index yet. -/
def ofTree (t : Tree) : IndexedTree := { tree := t }

theorem isFresh_ofTree (t : Tree) : (ofTree t).IsFresh := nofun

/-- Whatever a tree was asked before, its answers are the same. -/
theorem assignmentsTo_askAll (t : Tree) (qs : List Query) (name : String) :
    (((ofTree t).askAll qs).assignmentsTo name).1 = t.assignmentsTo name := by
  obtain ⟨hfresh, htree⟩ := (isFresh_ofTree t).askAll qs
  rw [hfresh.assignmentsTo_eq, htree]
  rfl

/-- So they are when a tree grows that was asked before. -/
theorem assignmentsTo_graft_askAll (t u : Tree) (site : Nat) (qs : List Query) (name : String) :
    ((((ofTree t).askAll qs).graft site u).assignmentsTo name).1 =
      (t.graft site u).assignmentsTo name := by
  have htree := ((isFresh_ofTree t).askAll qs).2
  have hgraft : (((ofTree t).askAll qs).graft site u) = ofTree (t.graft site u) := by
    rw [graft, htree]
    rfl
  rw [hgraft]
  exact assignmentsTo_askAll (t.graft site u) [] name

end IndexedTree

namespace Tree

variable {gates : Gate → Prop} {t u : Tree} {site : Nat}

/-- What is found in a tree with a copy of another one in it is what was found in the tree, and
then what is found in the other tree: with the numbers and the scripts of the copy, what the
block that the copy stands under requires in front, and the local variables in sight there
added. Whatever the tree was asked before the copy was put into it makes no difference. -/
theorem search_graft (ht : t.Reachable gates) (hu : u.Reachable gates) (hs : site < t.size)
    (asked : List Query) :
    let x := (IndexedTree.ofTree t).askAll asked
    (∀ p, (x.graft site u).tree.calls p = x.tree.calls p ++ (u.calls p).map (·.inCopy t site u)) ∧
      ∀ name, ((x.graft site u).assignmentsTo name).1 =
        (x.assignmentsTo name).1 ++ (u.assignmentsTo name).map (·.inCopy t site u) := by
  intro x
  have htree : x.tree = t := ((IndexedTree.isFresh_ofTree t).askAll asked).2
  refine ⟨fun p => ?_, fun name => ?_⟩
  · rw [IndexedTree.graft, htree]
    exact calls_graft ht.isArena hu.isArena hs p
  · rw [IndexedTree.assignmentsTo_graft_askAll, IndexedTree.assignmentsTo_askAll]
    exact assignmentsTo_graft ht.isArena hu.isArena hs name

/-- A script with a local variable and a guard. -/
def guardedTree : Tree :=
  (parse "begin a\nshort x\nset x to 2\nif ( x == 1 )\nendif\nend" {}).1

/-- A statement that belongs to no script. -/
def looseTree : Tree := (parse "set X to 3" {}).1

/-- `guardedTree`, after questions that left an index behind. -/
def askedTree : IndexedTree :=
  (IndexedTree.ofTree guardedTree).askAll [.assignmentsByName, .assignmentsTo "y"]

theorem guardedTree_search_graft :
    (guardedTree.Reachable Gate.Distinct ∧ looseTree.Reachable Gate.Distinct ∧
      3 < guardedTree.size) ∧
    (askedTree.graft 3 looseTree).tree.calls startPattern =
      askedTree.tree.calls startPattern ++
        (looseTree.calls startPattern).map (·.inCopy guardedTree 3 looseTree) ∧
    ((askedTree.graft 3 looseTree).assignmentsTo "x").1 =
      (askedTree.assignmentsTo "x").1 ++
        (looseTree.assignmentsTo "x").map (·.inCopy guardedTree 3 looseTree) ∧
    ((looseTree.assignmentsTo "x").map (·.inCopy guardedTree 3 looseTree)).map
      (fun a => (a.block, a.isLocal, a.gate.size)) = [(5, true, 1)] := by
  have hguarded : guardedTree.Reachable Gate.Distinct := .parse _ _
  have hloose : looseTree.Reachable Gate.Distinct := .parse _ _
  have hsize : 3 < guardedTree.size := by decide +kernel
  have hsearch := search_graft hguarded hloose hsize [.assignmentsByName, .assignmentsTo "y"]
  exact ⟨⟨hguarded, hloose, hsize⟩, hsearch.1 startPattern, hsearch.2 "x", by decide +kernel⟩

end Tree

end Questline
