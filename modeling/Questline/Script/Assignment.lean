import Questline.Number.Reading
import Questline.Script.Tree
import Questline.Text.Folded

/-!
# Assignments

A statement `set NAME to VALUE` assigns a value to a variable.

## Main definitions

* `Assignment`: a statement that assigns, and where it stands
* `readAssignment?`: the name and the value of a statement, as written
* `Tree.assignments`, `Tree.assignmentsTo`: the assignments in a tree
* `Tree.assignmentsByName`: the assignments by variable
-/

namespace Questline

/-- An assignment, with the requirements for reaching it. -/
structure Assignment where
  /-- The variable, in lower case. -/
  name : String
  script : Option String
  /-- The value as written. -/
  text : String
  value : Option Float
  /-- Whether the variable is declared around the statement. -/
  isLocal : Bool
  block : Nat
  gate : Gate

/-- The name and the value of an assignment, as written. -/
def readAssignment? (line : List Char) : Option (List Char × List Char) := do
  let (_, r) ← matchFolded? "set".toList line
  let r ← afterBlanks? r
  let name := r.takeWhile isWord
  let r ← afterBlanks? (r.dropWhile isWord)
  let (_, r) ← matchFolded? "to".toList r
  let r ← afterBlanks? r
  if name.head?.any isFoldedLetter && !r.isEmpty then some (name, trimEnd r) else none

namespace Tree

variable (t : Tree)

/-- The assignment that a line of a block makes. -/
def assignment? (b : Block) (line : String) : Option Assignment :=
  (readAssignment? line.toList).map fun (name, text) =>
    let name := (String.ofList name).toLower
    { name, script := b.script, text := String.ofList text,
      value := Number.readFloat? (stripParens text), isLocal := t.isLocal b.id name, block := b.id,
      gate := t.gate b.id }

/-- The assignments in the tree, block by block. -/
def assignments : List Assignment :=
  t.blocks.toList.flatMap fun b => b.lines.filterMap (t.assignment? b)

/-- The assignments to a variable, named in any letter case. -/
def assignmentsTo (name : String) : List Assignment :=
  t.assignments.filter (·.name == name.toLower)

/-- The assignments by variable. -/
def assignmentsByName : Std.ExtTreeMap String (List Assignment) :=
  t.assignments.foldl (fun m a => m.alter a.name fun as => some (as.getD [] ++ [a])) ∅

end Tree

end Questline
