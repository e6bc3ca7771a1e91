import Questline.Script.Assignment

/-!
# The index of variables

To find the assignments to a variable all lines of a tree have to be read. A tree that was
asked for its assignments by variable therefore keeps the answer, until it grows.

## Main definitions

* `VariableIndex`: assignments by variable
* `IndexedTree`: a tree that may keep its index
* `IndexedTree.assignmentsByName`, `IndexedTree.assignmentsTo`: questions that leave the index behind
* `IndexedTree.graft`: a tree that grows
-/

namespace Questline

/-- Assignments by variable. -/
abbrev VariableIndex := Std.ExtTreeMap String (List Assignment)

/-- A tree, with the index of its variables if it was asked for. -/
structure IndexedTree where
  tree : Tree
  index? : Option VariableIndex := none

namespace IndexedTree

variable (x : IndexedTree)

/-- The assignments by variable, which are kept from now on. -/
def assignmentsByName : VariableIndex × IndexedTree :=
  let index := x.index?.getD x.tree.assignmentsByName
  (index, { x with index? := some index })

/-- The assignments to a variable, named in any letter case. -/
def assignmentsTo (name : String) : List Assignment × IndexedTree :=
  let (index, x) := x.assignmentsByName
  ((index[name.toLower]?).getD [], x)

/-- Put a copy of another tree under the block `site`. What was kept is no longer true. -/
def graft (site : Nat) (other : Tree) : IndexedTree :=
  { tree := x.tree.graft site other }

end IndexedTree

end Questline
