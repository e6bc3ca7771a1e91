import Std.Data.ExtTreeMap
import Questline.Names
import Questline.Requirement.Gate
import Questline.Script.Line

/-!
# Script trees

A script is a tree of blocks. The blocks are numbered in the order in which the
script has them, and know their parent and their children by number. To reach a
block, the requirements of all the blocks around it have to hold.

## Main definitions

* `Block`, `Tree`: blocks and trees of blocks
* `Tree.path`: the blocks around a block, from the root down
* `Tree.gate`: the requirements for reaching a block
* `Tree.visibleLocals`, `Tree.isLocal`: the local variables in sight of a block
* `Tree.graft`: a tree with a copy of another one in it
-/

namespace Questline

inductive BlockKind where
  | sequential
  | script
  | conditional
  | loop
deriving Repr, DecidableEq

/-- Local variables by their names in lower case. -/
abbrev Locals := Std.ExtTreeMap String VariableType

structure Block where
  id : Nat
  kind : BlockKind
  /-- The id of the script that the block belongs to. -/
  script : Option String := none
  parent : Option Nat := none
  children : List Nat := []
  /-- What has to hold to enter the block from its parent. -/
  gate : Gate
  locals : Locals := ∅
  lines : List String := []
  /-- The text of the label that opened the block. -/
  label : Option String := none

/-- The blocks of a script or a dialogue result, by number. -/
structure Tree where
  blocks : Array Block
  script : Option String

namespace Tree

variable (t : Tree)

/-- A tree of a root only. -/
def empty (script : Option String) : Tree where
  blocks := #[{ id := 0, kind := .sequential, script, gate := .forBlock 0 }]
  script := script

def size : Nat :=
  t.blocks.size

def isEmpty : Bool :=
  t.size ≤ 1

def block? (id : Nat) : Option Block :=
  t.blocks[id]?

def parent? (id : Nat) : Option Nat :=
  (t.block? id).bind (·.parent)

/-- The blocks from the root down to `id`. A parent stands before its children,
so the walk upwards ends. -/
def path (id : Nat) : List Nat :=
  match t.parent? id with
  | some p => if p < id then path p ++ [id] else [id]
  | none => [id]

def depth (id : Nat) : Nat :=
  (t.path id).length - 1

/-- The blocks around `id` and `id` itself. -/
def enclosing (id : Nat) : List Block :=
  (t.path id).filterMap t.block?

/-- The requirements for reaching `id`, outermost first. -/
def gate (id : Nat) : Gate :=
  (t.enclosing id).foldl (fun g b => g.extend b.gate) (.forBlock id)

/-- The local variables declared in `id` or around it. -/
def visibleLocals (id : Nat) : Names :=
  (t.enclosing id).foldl (fun names b => names.insertMany b.locals.keys) ∅

/-- Whether `name`, in any letter case, is a local variable in sight of `id`. -/
def isLocal (id : Nat) (name : String) : Bool :=
  (t.enclosing id).any (·.locals.contains name.toLower)

end Tree

/-- The copy of a block in a tree of `offset` blocks, where its own tree is put
under the block `site` and belongs to `owner`. -/
def Block.shift (b : Block) (offset site : Nat) (owner : Option String) : Block :=
  { b with
    id := b.id + offset
    parent := some (b.parent.elim site (· + offset))
    children := b.children.map (· + offset)
    gate := { b.gate with block := some (b.id + offset) }
    script := b.script.or owner }

namespace Tree

/-- Put a copy of `other` under the block `site`. -/
def graft (t : Tree) (site : Nat) (other : Tree) : Tree :=
  { t with
    blocks := (t.blocks ++ other.blocks.map (·.shift t.size site other.script)).modify site
      fun b => { b with children := b.children ++ [t.size] } }

@[simp] theorem size_graft (t : Tree) (site : Nat) (other : Tree) :
    (t.graft site other).size = t.size + other.size := by
  simp [graft, size]

end Tree

end Questline
