import Questline.Script.Assignment

/-!
# Guard variables

Scripts guard code with local variables: `doOnce` is zero until the guarded code
has run. When a variable is assigned in one place only, a requirement on it says
less than the requirements for reaching that place, so it is folded away:

* if the assignment stands in the very block that the gate leads to, and its
  value would shut the gate, the requirement only says that the block did not run
  before, and is dropped;
* if the assignment stands in another block and its value opens the gate, the
  requirement is replaced by the requirements for reaching the assignment, without
  those on the variable itself.

This looks at one assignment at a time; loops and the order of statements are
not taken into account.

## Main definitions

* `Requirement.isGuard`: the requirements that can be folded
* `soleAssignment?`: the only assignment to a guard's variable
* `Gate.fold?`: one requirement folded away
* `Gate.resolve`: a gate with its guards folded
-/

namespace Questline

/-- Whether the requirement compares a local variable of the script itself with a
number. -/
def Requirement.isGuard (r : Requirement) : Bool :=
  r.kind == .localVariable && r.object.isNone && r.operand.isSome && r.value.isSome

/-- Whether an assignment can be to the variable of a requirement: the names are
the same, and so are the scripts if both are known. -/
def Assignment.concerns (a : Assignment) (r : Requirement) : Bool :=
  r.operand.any (fun v => a.name == v.toLower) &&
    match r.script, a.script with
    | some s, some s' => s == s'
    | _, _ => true

/-- The assignment to the variable of a requirement, if there is exactly one. -/
def soleAssignment? (as : List Assignment) (r : Requirement) : Option Assignment :=
  match as.filter (·.concerns r) with
  | [a] => some a
  | _ => none

namespace Gate

/-- Put requirements in order at position `i`, each unless it is there. -/
def splice (g : Gate) (i : Nat) : List Requirement → Gate
  | [] => g
  | r :: rs =>
    match g.insertAt? i r with
    | some g => g.splice (i + 1) rs
    | none => g.splice i rs

/-- The gate with the requirement `r` at position `i` folded away, if it can be. -/
def fold? (as : List Assignment) (g : Gate) (i : Nat) (r : Requirement) : Option Gate := do
  let a ← soleAssignment? as r
  let passes ← a.value.bind r.passes?
  if g.block = some a.block then
    if passes then none else some (g.eraseAt i)
  else if passes then
    some ((g.eraseAt i).splice i (a.gate.requirements.filter fun r => !r.isLocalOn a.name))
  else
    none

/-- Look through the positions below `i` from the last one down for a guard that
was not looked at before and can be folded. The result is the gate after folding
it, if there is one, and the guards looked at. -/
def sweep (as : List Assignment) (g : Gate) : Nat → List Requirement → Option Gate × List Requirement
  | 0, seen => (none, seen)
  | i + 1, seen =>
    match g.get? i with
    | none => g.sweep as i seen
    | some r =>
      if !r.isGuard || seen.contains r then g.sweep as i seen
      else match g.fold? as i r with
        | some g' => (some g', r :: seen)
        | none => g.sweep as i (r :: seen)

/-- Fold guards, starting over after each, until none is left that can be folded and
was not looked at before. Comparands that are numbers are never looked at twice, so
that this ends; one that is not a number is looked at again whenever it comes back. -/
def resolveFrom (as : List Assignment) (g : Gate) (seen : List Requirement) : Gate :=
  match g.sweep as g.size seen with
  | (some g', seen) => g' |>.resolveFrom as seen
  | (none, _) => g
partial_fixpoint

/-- A gate with its guards folded, given the assignments of its tree. -/
def resolve (as : List Assignment) (g : Gate) : Gate :=
  resolveFrom as g []

end Gate

/-- A gate of a tree with its guards folded. -/
def Tree.resolve (t : Tree) (g : Gate) : Gate :=
  g.resolve t.assignments

end Questline
