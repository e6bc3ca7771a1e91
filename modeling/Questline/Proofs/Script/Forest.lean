import Questline.Proofs.Script.Nesting
import Questline.Script.Layout

/-!
# The tree of a well-nested program

What the tree of a program should be is said without numbers first, as a forest of parts,
and then numbered in the order in which the program has them.

## Main definitions

* `Part`, `Forest`: blocks without their places, and forests of them
* `Forest.blocks`, `Forest.roots`: a forest numbered from the root down
* `Program.run`, `Program.locals`, `Program.firstScript`: what a level says about itself
* `Program.forest`: the parts of a program
* `Program.tree`: its tree

## Main results

* `Program.mem_locals_iff`: the local variables of a level are the names declared on it
-/

namespace Questline

/-- A block without its place in a tree. -/
structure Part where
  kind : BlockKind
  script : Option String
  requirements : List Requirement := []
  locals : Locals := ∅
  lines : List String := []
  label : Option String := none

/-- The part as the block `id`. -/
def Part.block (part : Part) (parent id : Nat) (children : List Nat) : Block where
  id := id
  kind := part.kind
  script := part.script
  parent := some parent
  children := children
  gate := { Gate.ofList part.requirements with block := some id }
  locals := part.locals
  lines := part.lines
  label := part.label

/-- Parts with the parts below them, in order. -/
inductive Forest where
  | nil
  | cons (part : Part) (below next : Forest)

namespace Forest

variable (f g : Forest)

def size : Forest → Nat
  | nil => 0
  | cons _ below next => below.size + 1 + next.size

/-- The numbers of the parts that are below no other, when the first part is `id`. -/
def roots (id : Nat) : Forest → List Nat
  | nil => []
  | cons _ below next => id :: next.roots (id + 1 + below.size)

/-- The blocks of a forest under the block `parent`, numbered from `id` on: a part comes
before the parts below it, and these come before the next one. -/
def blocks (parent id : Nat) : Forest → List Block
  | nil => []
  | cons part below next =>
    part.block parent id (below.roots (id + 1)) ::
      (below.blocks id (id + 1) ++ next.blocks parent (id + 1 + below.size))

/-- The parts of one forest after those of another. -/
def append : Forest → Forest → Forest
  | nil, g => g
  | cons part below next, g => cons part below (next.append g)

instance : Append Forest := ⟨append⟩

@[simp] theorem nil_append : nil ++ g = g := rfl

@[simp] theorem cons_append (part : Part) (below : Forest) :
    cons part below f ++ g = cons part below (f ++ g) := rfl

@[simp] theorem length_blocks (parent id : Nat) : (f.blocks parent id).length = f.size := by
  induction f generalizing parent id with
  | nil => rfl
  | cons part below next ihb ihn =>
    rw [blocks, List.length_cons, List.length_append, ihb, ihn, size]
    omega

theorem roots_append (id : Nat) : (f ++ g).roots id = f.roots id ++ g.roots (id + f.size) := by
  induction f generalizing id with
  | nil => simp [roots, size]
  | cons part below next _ ih =>
    simp only [cons_append, roots, size, ih, List.cons_append, Nat.add_assoc, Nat.add_comm 1]

theorem blocks_append (parent id : Nat) :
    (f ++ g).blocks parent id = f.blocks parent id ++ g.blocks parent (id + f.size) := by
  induction f generalizing id with
  | nil => simp [blocks, size]
  | cons part below next _ ih =>
    simp only [cons_append, blocks, size, ih, List.cons_append, List.append_assoc, Nat.add_assoc,
      Nat.add_comm 1]

/-- A part of the given statements, if there are any, before a forest. -/
def withRun (script : Option String) (run : List String) (f : Forest) : Forest :=
  if run.isEmpty then f else cons { kind := .sequential, script, lines := run } nil f

end Forest

/-! ### What a level says about itself -/

/-- The id that the phrase gives to a script after `begin`, if it names one. -/
def Phrase.scriptId? (p : Phrase) : Option String :=
  if p.scriptName.isEmpty then none else some p.scriptName

namespace Program

/-- The statements before the first label. Declarations are not among them. -/
def run : Program → List String
  | .statement s next => String.ofList s.text :: next.run
  | .declaration _ _ next => next.run
  | .done => []
  | .script _ _ _ => []
  | .choice _ _ _ _ => []
  | .loop _ _ _ => []

/-- The declarations on the level of the program itself. -/
def declarations : Program → List (String × VariableType)
  | .done => []
  | .statement _ next => next.declarations
  | .declaration type i next => (i.name, type) :: next.declarations
  | .script _ _ next => next.declarations
  | .choice _ _ _ next => next.declarations
  | .loop _ _ next => next.declarations

end Program

/-- Declarations added to those before them. -/
def declareAll (locals : Locals) (ds : List (String × VariableType)) : Locals :=
  ds.foldl (fun m d => m.insert d.1 d.2) locals

/-- The local variables that the program declares on its own level. -/
def Program.locals (p : Program) : Locals :=
  declareAll ∅ p.declarations

theorem mem_declareAll {locals : Locals} {ds : List (String × VariableType)} {name : String} :
    name ∈ declareAll locals ds ↔ name ∈ locals ∨ name ∈ ds.map (·.1) := by
  unfold declareAll
  induction ds generalizing locals with
  | nil => simp
  | cons d ds ih =>
    rw [List.foldl_cons, ih, Std.ExtTreeMap.mem_insert, List.map_cons, List.mem_cons,
      Std.compare_eq_iff_eq, eq_comm, ← or_assoc, or_comm (a := name = d.1)]

/-- The local variables of a level are the names declared on it. -/
theorem Program.mem_locals_iff (p : Program) (name : String) :
    name ∈ p.locals ↔ name ∈ p.declarations.map (·.1) := by
  simp [locals, mem_declareAll]

mutual

/-- The id that the program is the first to give to a script, if it names one. -/
def Program.firstScript : Program → Option String
  | .done => none
  | .statement _ next => next.firstScript
  | .declaration _ _ next => next.firstScript
  | .script name body next => (name.scriptId?.or body.firstScript).or next.firstScript
  | .choice _ body others next => (body.firstScript.or others.firstScript).or next.firstScript
  | .loop _ body next => body.firstScript.or next.firstScript

def Alternatives.firstScript : Alternatives → Option String
  | .done => none
  | .otherwise body => body.firstScript
  | .elseif _ body next => body.firstScript.or next.firstScript

end

/-! ### The parts of a program -/

/-- What conditions are read with. -/
structure Context where
  globals : Names := ∅
  /-- The script that the conditions stand in. -/
  script : Option String := none
  /-- The script that was named first so far. -/
  owner : Option String := none
  /-- The local variables declared before, here and around. -/
  locals : Names := ∅

/-- The requirement of a condition, which is kept as it is if it cannot be read. -/
def Context.requirement (c : Context) (condition : List Char) : Requirement :=
  match translate c.globals { script := c.script.or c.owner, locals := c.locals } condition with
  | .ok (r, _) => r
  | .error _ => verbatim condition

mutual

/-- The parts of a program after the statements it begins with. -/
def Program.rest (c : Context) : Program → Forest
  | .done => .nil
  | .statement _ next => next.rest c
  | .declaration _ i next => next.rest { c with locals := c.locals.insert i.name }
  | .script name body next =>
    let inner : Context :=
      { c with script := name.scriptId?.or c.script, owner := c.owner.or name.scriptId? }
    .cons
      { kind := .script, script := inner.script, locals := body.locals,
        label := some name.scriptName }
      (.withRun inner.script body.run (body.rest inner))
      (.withRun c.script next.run
        (next.rest { c with owner := inner.owner.or body.firstScript }))
  | .choice condition body others next =>
    let r := c.requirement condition.condition
    let owner := c.owner.or body.firstScript
    .cons
      { kind := .conditional, script := c.script, requirements := [r], locals := body.locals,
        label := some (String.ofList condition.condition) }
      (.withRun c.script body.run (body.rest c))
      (others.forest c owner [r] ++
        .withRun c.script next.run (next.rest { c with owner := owner.or others.firstScript }))
  | .loop condition body next =>
    .cons
      { kind := .loop, script := c.script, requirements := [c.requirement condition.condition],
        locals := body.locals, label := some (String.ofList condition.condition) }
      (.withRun c.script body.run (body.rest c))
      (.withRun c.script next.run (next.rest { c with owner := c.owner.or body.firstScript }))

/-- The branches of a choice in the context `c`, when `owner` is the script that was named
first before them and the branches before them require `earlier`. A branch requires that
all of these fail and that its own condition holds, if it has one. -/
def Alternatives.forest (c : Context) (owner : Option String) (earlier : List Requirement) :
    Alternatives → Forest
  | .done => .nil
  | .otherwise body =>
    .cons
      { kind := .conditional, script := c.script, requirements := earlier.map .negated,
        locals := body.locals, label := some "else" }
      (.withRun c.script body.run (body.rest { c with owner })) .nil
  | .elseif condition body next =>
    let r := c.requirement condition.condition
    .cons
      { kind := .conditional, script := c.script, requirements := earlier.map .negated ++ [r],
        locals := body.locals, label := some (String.ofList condition.condition) }
      (.withRun c.script body.run (body.rest { c with owner }))
      (next.forest c (owner.or body.firstScript) (earlier ++ [r]))

end

namespace Program

variable (p : Program)

/-- The parts of a program: the statements it begins with, and the rest. -/
def forest (c : Context) : Forest :=
  .withRun c.script p.run (p.rest c)

/-- The tree of a program. What belongs to no script belongs to the one named first. -/
def tree (globals : Names) : Tree :=
  let f := p.forest { globals }
  let root : Block :=
    { id := 0, kind := .sequential, children := f.roots 1, gate := .forBlock 0,
      locals := p.locals }
  { blocks := ((root :: f.blocks 0 1).map fun b =>
      { b with script := b.script.or p.firstScript }).toArray
    script := p.firstScript }

end Program

end Questline
