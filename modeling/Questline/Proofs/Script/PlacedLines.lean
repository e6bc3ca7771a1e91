import Questline.Proofs.Script.Layout
import Questline.Proofs.Script.Paths
import Questline.Script.Call

/-!
# Statements in their places

Whatever is looked for in a tree is looked for statement by statement, and is told where the
statement stands: in which block, in which script and behind which requirements. All of this
can be said from the parts of a forest without walking the tree: a statement stands behind the
requirements of the parts around it, from the outermost one inwards.

## Main definitions

* `PlacedLine`: a statement with its place
* `Tree.placed`: the statements of a tree with their places
* `Forest.placed`: those of a forest, from the parts around them
* `Program.statements`, `Program.placed`: the statements of a program, and with their places

## Main results

* `Forest.placed_tree`: the tree of a forest puts the statements where the forest says
* `Tree.calls_eq_flatMap`: calls are found statement by statement
* `Tree.placed_parse`: the statements of a program stand in its tree where the program has them
-/

namespace Questline

/-- A statement and the place where it stands. -/
structure PlacedLine where
  block : Nat
  script : Option String
  /-- The requirements for reaching the statement. -/
  gate : Gate
  text : String

namespace Tree

/-- The statements of a block with their places. -/
def placedIn (t : Tree) (b : Block) : List PlacedLine :=
  b.lines.map fun text => { block := b.id, script := b.script, gate := t.gate b.id, text }

/-- The statements of a tree, block by block. -/
def placed (t : Tree) : List PlacedLine :=
  t.blocks.toList.flatMap t.placedIn

end Tree

namespace Forest

variable {f : Forest} {t : Tree} {owner : Option String} {locals : Locals}

/-- The statements of a forest that is numbered from `id` on and stands behind the
requirements `around`. What belongs to no script belongs to `owner`. -/
def placed (owner : Option String) (around : List Requirement) (id : Nat) :
    Forest → List PlacedLine
  | nil => []
  | cons part below next =>
    let behind := around ++ part.requirements
    (part.lines.map fun text =>
      { block := id, script := part.script.or owner,
        gate := { Gate.ofList behind with block := some id }, text }) ++
      (below.placed owner behind (id + 1) ++
        next.placed owner around (id + 1 + below.size))

/-- The places say nothing new about the statements themselves. -/
theorem map_text_placed (f : Forest) (owner : Option String) (around : List Requirement)
    (id : Nat) : (f.placed owner around id).map (·.text) = f.lines := by
  induction f generalizing around id with
  | nil => rfl
  | cons part below next ihb ihn =>
    simp only [placed, lines_cons, List.map_append, List.map_map, ihb, ihn]
    exact congrArg (· ++ _) (List.map_id part.lines)

/-- The gate of a numbered part: the requirements around it and then its own. -/
theorem gate_of_part (ht : t.IsArena) {part : Part} {parent id : Nat} {children : List Nat}
    {around : List Requirement}
    (hb : t.block? id = some { part.block parent id children with
      script := (part.block parent id children).script.or owner })
    (hparent : (t.gate parent).requirements = (Gate.ofList around).requirements) :
    t.gate id = { Gate.ofList (around ++ part.requirements) with block := some id } := by
  rw [ht.gate_of_parent? hb rfl]
  refine Gate.eq_of_requirements ?_ rfl
  show ((t.gate parent).insertAll (Gate.ofList part.requirements).requirements).requirements = _
  rw [Gate.insertAll_ofList, Gate.requirements_insertAll_congr hparent, Gate.ofList, Gate.ofList,
    Gate.insertAll_append]

/-- In a tree that holds the blocks of a forest, below a block with the requirements `around`,
the statements stand where the forest says. -/
theorem placed_blocks (ht : t.IsArena) (f : Forest) {parent id : Nat}
    {around : List Requirement}
    (hblocks : ∀ b ∈ f.blocks parent id,
      t.block? b.id = some { b with script := b.script.or owner })
    (hparent : (t.gate parent).requirements = (Gate.ofList around).requirements) :
    ((f.blocks parent id).flatMap fun b => t.placedIn { b with script := b.script.or owner }) =
      f.placed owner around id := by
  induction f generalizing parent id around with
  | nil => rfl
  | cons part below next ihb ihn =>
    simp only [blocks, List.forall_mem_cons, List.forall_mem_append] at hblocks
    obtain ⟨hpart, hbelow, hnext⟩ := hblocks
    have hgate : t.gate id = { Gate.ofList (around ++ part.requirements) with block := some id } :=
      gate_of_part ht hpart hparent
    rw [blocks, List.flatMap_cons, List.flatMap_append,
      ihb hbelow (by rw [hgate]), ihn hnext hparent, placed, ← hgate]
    rfl

/-- The tree of a forest puts the statements where the forest says. -/
theorem placed_tree (f : Forest) (ht : (f.tree locals owner).IsArena) :
    (f.tree locals owner).placed = f.placed owner [] 1 := by
  have hroot : ((f.tree locals owner).gate 0).requirements = (Gate.ofList []).requirements := by
    rw [ht.gate_zero block?_tree_zero]
    rfl
  have hblocks : (f.tree locals owner).blocks.toList =
      { id := 0, kind := .sequential, script := owner, children := f.roots 1, gate := .forBlock 0,
        locals } :: (f.blocks 0 1).map fun b => { b with script := b.script.or owner } := rfl
  rw [← placed_blocks ht f (fun b hb => block?_tree_of_mem hb) hroot, Tree.placed, hblocks,
    List.flatMap_cons, List.flatMap_map]
  rfl

end Forest

/-! ### Calls -/

/-- The calls in a statement. -/
def PlacedLine.calls (p : CallPattern) (s : PlacedLine) : List Call :=
  (p.inLine s.text.toList).map fun c =>
    { function := (String.ofList c.function).toLower, scope := c.scope.map nameOf,
      arguments := c.arguments.map fun a => String.ofList (unquote a), block := s.block,
      script := s.script, gate := s.gate, line := s.text }

/-- Calls are found statement by statement. -/
theorem Tree.calls_eq_flatMap (t : Tree) (p : CallPattern) :
    t.calls p = t.placed.flatMap (·.calls p) := by
  rw [Tree.calls, Tree.placed, List.flatMap_assoc]
  refine List.flatMap_congr fun b _ => ?_
  rw [Tree.placedIn, List.flatMap_map]
  rfl

/-! ### Programs -/

mutual

/-- The statements of a program in order. -/
def Program.statements : Program → List Statement
  | .done => []
  | .statement s next => s :: next.statements
  | .declaration _ _ next => next.statements
  | .script _ body next => body.statements ++ next.statements
  | .choice _ body others next => body.statements ++ others.statements ++ next.statements
  | .loop _ body next => body.statements ++ next.statements

def Alternatives.statements : Alternatives → List Statement
  | .done => []
  | .otherwise body => body.statements
  | .elseif _ body next => body.statements ++ next.statements

end

mutual

theorem Program.texts_outline (p : Program) :
    p.outline.texts = p.statements.map fun s => String.ofList s.text := by
  cases p with
  | done => rfl
  | statement s next =>
    rw [Program.outline, Outline.texts, next.texts_outline]
    rfl
  | declaration type i next => exact next.texts_outline
  | script name body next =>
    rw [Program.outline, Outline.texts, body.texts_outline, next.texts_outline, Branches.texts,
      List.append_nil, Program.statements, List.map_append]
  | choice c body others next =>
    rw [Program.outline, Outline.texts, body.texts_outline, others.texts_branches,
      next.texts_outline, Program.statements, List.map_append, List.map_append]
  | loop c body next =>
    rw [Program.outline, Outline.texts, body.texts_outline, next.texts_outline, Branches.texts,
      List.append_nil, Program.statements, List.map_append]

theorem Alternatives.texts_branches (a : Alternatives) :
    a.branches.texts = a.statements.map fun s => String.ofList s.text := by
  cases a with
  | done => rfl
  | otherwise body =>
    rw [Alternatives.branches, Branches.texts, body.texts_outline, Branches.texts, List.append_nil]
    rfl
  | elseif c body next =>
    rw [Alternatives.branches, Branches.texts, body.texts_outline, next.texts_branches,
      Alternatives.statements, List.map_append]

end

/-- The statements of a program with the places that they have in its tree. -/
def Program.placed (p : Program) (globals : Names) : List PlacedLine :=
  (p.forest { globals }).placed p.firstScript [] 1

namespace Tree

variable {p : Program} {source : String}

/-- A script that nests like a program has the tree of the program. -/
theorem parse_of_outline (h : Outline.ofLines (sourceLines source.toList) = p.outline)
    (t : Translator) :
    (Tree.parse source t).1 = (p.forest { globals := t.globals }).tree p.locals p.firstScript := by
  rw [parse_fst, h]
  dsimp only
  rw [Outline.forest, p.run_outline, p.rest_outline, p.locals_outline, p.firstScript_outline]
  rfl

theorem placed_parse (h : Outline.ofLines (sourceLines source.toList) = p.outline)
    (t : Translator) : (Tree.parse source t).1.placed = p.placed t.globals := by
  have harena := isArena_parse source t
  rw [parse_of_outline h] at harena ⊢
  exact Forest.placed_tree _ harena

end Tree

/-- The places say nothing new about the statements of a program. -/
theorem Program.map_text_placed (p : Program) (globals : Names) :
    (p.placed globals).map (·.text) = p.statements.map fun s => String.ofList s.text := by
  rw [Program.placed, Forest.map_text_placed, ← p.texts_outline,
    ← p.outline.lines_rest { globals }, p.run_outline, p.rest_outline, Program.forest,
    Forest.lines_withRun]

end Questline
