import Questline.Proofs.Script.PlacedLines

/-!
# Names in sight

What is declared on the level of a statement or around it can be said from the program alone. In
the tree of the program these names are the local variables in sight of the block of the
statement: a block sees what its parent sees, and what it declares itself.

## Main definitions

* `Program.sight`: the names declared on the level of a program or around it
* `Program.sights`: the names in sight of each statement of a program
* `Forest.sights`: the names in sight of each statement of a forest

## Main results

* `Program.sights_rest`: the forest of a program leaves the names in sight as they are
* `Forest.sights_tree`: the local variables in sight in the tree of a forest
* `Tree.sights_parse`: the local variables in sight in the tree of a program
-/

namespace Questline

namespace Program

/-- The names in sight on the level of a program: those around it, and those that the level
declares, wherever it does. -/
def sight (around : Names) (p : Program) : Names :=
  around.insertMany (p.declarations.map (·.1))

variable {around : Names} {name : String}

theorem mem_sight_iff (p : Program) :
    name ∈ p.sight around ↔ name ∈ around ∨ name ∈ p.declarations.map (·.1) := by
  rw [sight, Std.ExtTreeSet.mem_insertMany_list]
  simp

/-- The names that the level declares are the keys of its local variables. -/
theorem insertMany_keys_locals (around : Names) (p : Program) :
    around.insertMany p.locals.keys = p.sight around := by
  ext name
  rw [mem_sight_iff, Std.ExtTreeSet.mem_insertMany_list, ← p.mem_locals_iff]
  simp

end Program

mutual

/-- For each statement of a program the names in sight, when those on its own level are `here`. -/
def Program.sights (here : Names) : Program → List Names
  | .done => []
  | .statement _ next => here :: next.sights here
  | .declaration _ _ next => next.sights here
  | .script _ body next => body.sights (body.sight here) ++ next.sights here
  | .choice _ body others next =>
    body.sights (body.sight here) ++ others.sights here ++ next.sights here
  | .loop _ body next => body.sights (body.sight here) ++ next.sights here

def Alternatives.sights (here : Names) : Alternatives → List Names
  | .done => []
  | .otherwise body => body.sights (body.sight here)
  | .elseif _ body next => body.sights (body.sight here) ++ next.sights here

end

namespace Forest

/-- For each statement of a forest the names in sight, when those around it are `around`. -/
def sights (around : Names) : Forest → List Names
  | nil => []
  | cons part below next =>
    let here := around.insertMany part.locals.keys
    (part.lines.map fun _ => here) ++ (below.sights here ++ next.sights around)

theorem sights_append (f g : Forest) (around : Names) :
    (f ++ g).sights around = f.sights around ++ g.sights around := by
  induction f generalizing around with
  | nil => rfl
  | cons part below next _ ih =>
    rw [cons_append, sights, sights, ih]
    simp only [List.append_assoc]

/-- Statements that no label interrupts declare nothing. -/
theorem sights_withRun (script : Option String) (run : List String) (f : Forest)
    (around : Names) :
    (withRun script run f).sights around = (run.map fun _ => around) ++ f.sights around := by
  unfold withRun
  split
  · next hrun =>
    rw [List.isEmpty_iff.1 hrun]
    rfl
  · have hkeys : around.insertMany (∅ : Locals).keys = around := by
      ext name
      simp
    rw [sights, hkeys]
    rfl

end Forest

mutual

theorem Program.sights_rest (p : Program) (c : Context) (here : Names) :
    (p.run.map fun _ => here) ++ (p.rest c).sights here = p.sights here := by
  cases p with
  | done => rfl
  | statement s next => exact congrArg (here :: ·) (next.sights_rest c here)
  | declaration type i next => exact next.sights_rest _ here
  | script name body next =>
    rw [Program.rest, Program.run, Forest.sights, Forest.sights_withRun, Forest.sights_withRun,
      Program.insertMany_keys_locals, body.sights_rest, next.sights_rest]
    rfl
  | choice condition body others next =>
    rw [Program.rest, Program.run, Forest.sights, Forest.sights_append, Forest.sights_withRun,
      Forest.sights_withRun, Program.insertMany_keys_locals, body.sights_rest,
      others.sights_forest, next.sights_rest, ← List.append_assoc (body.sights _)]
    rfl
  | loop condition body next =>
    rw [Program.rest, Program.run, Forest.sights, Forest.sights_withRun, Forest.sights_withRun,
      Program.insertMany_keys_locals, body.sights_rest, next.sights_rest]
    rfl

theorem Alternatives.sights_forest (a : Alternatives) (c : Context) (owner : Option String)
    (earlier : List Requirement) (here : Names) :
    (a.forest c owner earlier).sights here = a.sights here := by
  cases a with
  | done => rfl
  | otherwise body =>
    rw [Alternatives.forest, Forest.sights, Forest.sights_withRun,
      Program.insertMany_keys_locals, body.sights_rest, Forest.sights, List.append_nil]
    rfl
  | elseif condition body next =>
    rw [Alternatives.forest, Forest.sights, Forest.sights_withRun,
      Program.insertMany_keys_locals, body.sights_rest, next.sights_forest]
    rfl

end

mutual

/-- There are names in sight for each statement. -/
theorem Program.length_sights (p : Program) (here : Names) :
    (p.sights here).length = p.statements.length := by
  cases p with
  | done => rfl
  | statement s next => exact congrArg (· + 1) (next.length_sights here)
  | declaration type i next => exact next.length_sights here
  | script name body next =>
    rw [Program.sights, Program.statements, List.length_append, List.length_append,
      body.length_sights, next.length_sights]
  | choice condition body others next =>
    simp only [Program.sights, Program.statements, List.length_append, body.length_sights,
      others.length_sights, next.length_sights]
  | loop condition body next =>
    rw [Program.sights, Program.statements, List.length_append, List.length_append,
      body.length_sights, next.length_sights]

theorem Alternatives.length_sights (a : Alternatives) (here : Names) :
    (a.sights here).length = a.statements.length := by
  cases a with
  | done => rfl
  | otherwise body => exact body.length_sights _
  | elseif condition body next =>
    rw [Alternatives.sights, Alternatives.statements, List.length_append, List.length_append,
      body.length_sights, next.length_sights]

end

namespace Tree

variable {t : Tree} {n q : Nat} {b : Block}

/-- In sight of the root is what the root declares. -/
theorem IsArena.visibleLocals_zero (ht : t.IsArena) (hb : t.block? 0 = some b) :
    t.visibleLocals 0 = (∅ : Names).insertMany b.locals.keys := by
  have hroot : t.parent? 0 = none := by
    rw [parent?, hb, Option.bind_some, (ht.isAt 0 b hb).parent_eq_none_iff]
  rw [visibleLocals, enclosing, path_of_root hroot, List.filterMap_cons_some hb]
  rfl

/-- In sight of a block is what is in sight of its parent, and what it declares. -/
theorem IsArena.visibleLocals_of_parent? (ht : t.IsArena) (hb : t.block? n = some b)
    (hp : b.parent = some q) :
    t.visibleLocals n = (t.visibleLocals q).insertMany b.locals.keys := by
  have hpath := ht.path_of_parent? (parent?_eq_some_iff.2 ⟨b, hb, hp⟩)
  rw [visibleLocals, enclosing, hpath, List.filterMap_append, List.filterMap_cons_some hb,
    List.foldl_append]
  rfl

end Tree

namespace Forest

variable {t : Tree} {owner : Option String} {locals : Locals} {around : Names}

/-- In a tree that holds the blocks of a forest, below a block with the names `around` in sight,
the local variables in sight of the statements are those that the forest says. -/
theorem sights_blocks (ht : t.IsArena) (f : Forest) {parent id : Nat}
    (hblocks : ∀ b ∈ f.blocks parent id,
      t.block? b.id = some { b with script := b.script.or owner })
    (hparent : t.visibleLocals parent = around) :
    ((f.blocks parent id).flatMap fun b => b.lines.map fun _ => t.visibleLocals b.id) =
      f.sights around := by
  induction f generalizing parent id around with
  | nil => rfl
  | cons part below next ihb ihn =>
    simp only [blocks, List.forall_mem_cons, List.forall_mem_append] at hblocks
    obtain ⟨hpart, hbelow, hnext⟩ := hblocks
    have hhere : t.visibleLocals id = around.insertMany part.locals.keys := by
      have h : t.visibleLocals id = (t.visibleLocals parent).insertMany part.locals.keys :=
        ht.visibleLocals_of_parent? hpart rfl
      rwa [hparent] at h
    rw [blocks, List.flatMap_cons, List.flatMap_append, ihb hbelow hhere, ihn hnext hparent,
      sights, ← hhere]
    rfl

/-- The local variables in sight of the statements in the tree of a forest. -/
theorem sights_tree (f : Forest) (ht : (f.tree locals owner).IsArena) :
    ((f.tree locals owner).placed.map fun l => (f.tree locals owner).visibleLocals l.block) =
      f.sights ((∅ : Names).insertMany locals.keys) := by
  have hblocks : (f.tree locals owner).blocks.toList =
      { id := 0, kind := .sequential, script := owner, children := f.roots 1, gate := .forBlock 0,
        locals } :: (f.blocks 0 1).map fun b => { b with script := b.script.or owner } := rfl
  rw [← sights_blocks ht f (fun b hb => block?_tree_of_mem hb)
    (ht.visibleLocals_zero block?_tree_zero), Tree.placed, hblocks, List.flatMap_cons,
    List.flatMap_map, List.map_append, List.map_flatMap]
  refine List.flatMap_congr fun b _ => ?_
  rw [Tree.placedIn, List.map_map]
  rfl

end Forest

/-- The local variables in sight of a statement of a program are the names declared on its level
and around it. -/
theorem Tree.sights_parse {p : Program} {source : String}
    (h : Outline.ofLines (sourceLines source.toList) = p.outline) (t : Translator) :
    ((Tree.parse source t).1.placed.map fun l => (Tree.parse source t).1.visibleLocals l.block) =
      p.sights (p.sight ∅) := by
  have harena := isArena_parse source t
  rw [parse_of_outline h] at harena ⊢
  rw [Forest.sights_tree _ harena, Program.insertMany_keys_locals, Program.forest,
    Forest.sights_withRun, p.sights_rest]

end Questline
