import Questline.Condition.Translator
import Questline.Script.Outline
import Questline.Script.Tree

/-!
# From outlines to trees

The blocks of a script are laid out level by level. Statements that no label
interrupts share a block; each branch of a label has a block with what is inside
the branch below it. A branch of a choice can be entered when its own condition
holds and those of the branches before it do not.

The conditions of all branches of a label are translated before anything inside
them, with the local variables that were declared before the label.

## Main definitions

* `branchGates`: the requirements of the branches of a choice
* `Outline.lay`: the blocks of a level
* `Tree.parse`, `Tree.parseResult`: the tree of a script and of a dialogue result
-/

namespace Questline

namespace Opening

def kind : Opening → BlockKind
  | script _ => .script
  | result _ => .script
  | choice _ => .conditional
  | loop _ => .loop

def label : Opening → String
  | script name => name
  | result name => name
  | choice c => String.ofList c
  | loop c => String.ofList c

def condition? : Opening → Option (List Char)
  | choice c => some c
  | loop c => some c
  | _ => none

/-- The script that the label begins, if it has a name. -/
def scriptId? : Opening → Option String
  | script name => if name.isEmpty then none else some name
  | _ => none

end Opening

def Branches.conditions : Branches → List (Option (List Char))
  | .done => []
  | .branch c _ next => c :: next.conditions

/-- The gates of branches with the given conditions, when the branches before
them have the conditions `earlier`. -/
def branchGates (earlier : List Requirement) : List (Option Requirement) → List Gate
  | [] => []
  | r :: rs =>
    Gate.ofList (earlier.map Requirement.negated ++ r.toList) ::
      branchGates (earlier ++ r.toList) rs

/-- What is known about the block that a level belongs to. -/
structure Site where
  self : Nat := 0
  script : Option String := none
  /-- The local variables in sight. -/
  locals : Names := ∅

/-- What is known so far about the script as a whole. -/
structure Progress where
  /-- The id of the script, once a label has given it. -/
  owner : Option String := none
  translator : Translator

namespace Progress

def translate (p : Progress) (s : Site) (condition : List Char) : Requirement × Progress :=
  let (r, t) :=
    p.translator.translateOrKeep { script := s.script.or p.owner, locals := s.locals } condition
  (r, { p with translator := t })

def translateAll (p : Progress) (s : Site) :
    List (Option (List Char)) → List (Option Requirement) × Progress
  | [] => ([], p)
  | none :: cs =>
    let (rs, p) := p.translateAll s cs
    (none :: rs, p)
  | some c :: cs =>
    let (r, p) := p.translate s c
    let (rs, p) := p.translateAll s cs
    (some r :: rs, p)

end Progress

/-- The blocks below a block, its children and its local variables. -/
structure Level where
  blocks : List Block := []
  children : List Nat := []
  locals : Locals := ∅
  progress : Progress

/-- The block of statements that no label interrupts, if there are any. -/
def leaf (s : Site) (id : Nat) (lines : List String) : List Block :=
  if lines.isEmpty then []
  else [{ id, kind := .sequential, script := s.script, parent := some s.self,
          gate := .forBlock id, lines }]

/-- The block of a branch with what is below it. -/
def branchBlock (s inner : Site) (kind : BlockKind) (label : String) (gate : Gate)
    (level : Level) : Block where
  id := inner.self
  kind := kind
  script := inner.script
  parent := some s.self
  children := level.children
  gate := { gate with block := some inner.self }
  locals := level.locals
  label := some label

mutual

/-- Lay out a level from the block number `next` on, when the statements `pending`
are waiting for their block and the variables `declared` have been declared on
the level. -/
def Outline.lay (s : Site) (next : Nat) (pending : List String) (declared : Locals)
    (p : Progress) : Outline → Level
  | .done =>
    let leaves := leaf s next pending
    { blocks := leaves, children := leaves.map (·.id), locals := declared, progress := p }
  | .text line o => o.lay s next (pending ++ [line]) declared p
  | .declaration type name o =>
    o.lay { s with locals := s.locals.insert name } next pending (declared.insert name type) p
  | .block opening body others o =>
    let leaves := leaf s next pending
    let next := next + leaves.length
    let p := { p with owner := p.owner.or opening.scriptId? }
    let (rs, p) := p.translateAll s (opening.condition? :: others.conditions)
    let gates := branchGates [] rs
    let inner : Site := { s with self := next, script := opening.scriptId?.or s.script }
    let first := body.lay inner (next + 1) [] ∅ p
    let block := branchBlock s inner opening.kind opening.label (gates.headD {}) first
    let more := others.lay s (next + 1 + first.blocks.length) gates.tail first.progress
    let after :=
      o.lay s (next + 1 + first.blocks.length + more.blocks.length) [] declared more.progress
    { blocks := leaves ++ block :: first.blocks ++ more.blocks ++ after.blocks
      children := leaves.map (·.id) ++ next :: more.children ++ after.children
      locals := after.locals
      progress := after.progress }

/-- Lay out branches with the given gates from the block number `next` on. -/
def Branches.lay (s : Site) (next : Nat) (gates : List Gate) (p : Progress) : Branches → Level
  | .done => { progress := p }
  | .branch c body others =>
    let inner : Site := { s with self := next }
    let first := body.lay inner (next + 1) [] ∅ p
    let block :=
      branchBlock s inner .conditional (c.elim "else" String.ofList) (gates.headD {}) first
    let more := others.lay s (next + 1 + first.blocks.length) gates.tail first.progress
    { blocks := block :: first.blocks ++ more.blocks
      children := next :: more.children
      progress := more.progress }

end

namespace Tree

/-- The tree of an outline. Blocks that belong to no script yet belong to the one
that the outline begins first. -/
def ofOutline (o : Outline) (t : Translator) : Tree × Translator :=
  let level := o.lay {} 1 [] ∅ { translator := t }
  let root : Block :=
    { id := 0, kind := .sequential, children := level.children, gate := .forBlock 0,
      locals := level.locals }
  let owner := level.progress.owner
  ({ blocks := ((root :: level.blocks).map fun b => { b with script := b.script.or owner }).toArray
     script := owner }, level.progress.translator)

def parse (source : String) (t : Translator) : Tree × Translator :=
  ofOutline (.ofLines (sourceLines source.toList)) t

/-- The text of a dialogue result with the labels around it. -/
def resultSource (info result : String) : String :=
  "_dialog_ " ++ info ++ "\n" ++ result ++ "\nend"

/-- The tree of a dialogue result, which can only run when `gate` is passed. -/
def parseResult (info result : String) (gate : Gate) (t : Translator) : Tree × Translator :=
  let (tree, t) := parse (resultSource info result) t
  ({ tree with blocks := tree.blocks.modify 0 fun b =>
      { b with gate := { gate with block := some 0 } } }, t)

end Tree

end Questline
