import Questline.Number.Shortest
import Questline.Requirement.Comparison
import Questline.Requirement.Kind

/-!
# Requirements

A requirement is one condition that has to hold before a script line runs or a
quest stage is reached.

## Main definitions

* `Requirement`: one condition
* `Requirement.describe`: how a requirement is shown
* `Requirement.passes?`: whether a number meets it

Two requirements are equal, in the sense of `==`, when all but their source text
agree; their values are compared as numbers, so one that is not a number makes a
requirement differ from itself.
-/

namespace Questline

/-- The id by which scripts refer to the player. -/
def player : String := "player"

/-- Whether two names differ at most in the case of ASCII letters. -/
def sameName (a b : String) : Bool :=
  a.toLower == b.toLower

/-- One condition. The operand is named by `operand` (a variable, a quest, an
item), `object` is the actor that the condition is about, and the operand is
compared with the number `value` or the text `text`. -/
structure Requirement where
  kind : Kind
  comparison : Comparison
  value : Option Float := none
  text : Option String := none
  operand : Option String := none
  object : Option String := none
  attributeIndex : Option Nat := none
  skillIndex : Option Nat := none
  script : Option String := none
  /-- The source text, for a condition that could not be understood. -/
  raw : Option String := none

namespace Requirement

/-- Equality of all that a requirement says; the source text does not count. -/
instance : BEq Requirement where
  beq a b :=
    a.kind == b.kind && a.comparison == b.comparison && a.value == b.value && a.text == b.text &&
      a.operand == b.operand && a.object == b.object && a.attributeIndex == b.attributeIndex &&
      a.skillIndex == b.skillIndex && a.script == b.script

def isPlayer (r : Requirement) : Bool :=
  r.object.any (sameName · player)

/-- The object other than the player that the requirement is about. -/
def subject? (r : Requirement) : Option String :=
  r.object.filter fun _ => !r.isPlayer

/-- Whether the number `x` meets the requirement, if it compares with a number. -/
def passes? (r : Requirement) (x : Float) : Option Bool :=
  r.value.map (r.comparison.holds x)

def negated (r : Requirement) : Requirement :=
  { r with comparison := r.comparison.negate }

/-- Whether the requirement is about the local variable `name`. -/
def isLocalOn (r : Requirement) (name : String) : Bool :=
  r.kind == .localVariable && r.operand.any (sameName · name)

/-- The text of a number: whole numbers have no point. -/
def showValue (x : Float) : String :=
  String.ofList (Number.render [] x)

/-- How a requirement is shown: the source text if it was not understood, else
the object, the kind with its operand, and the comparison. -/
def describe (r : Requirement) : String :=
  match r.raw with
  | some raw => "?\x7b" ++ raw ++ "\x7d"
  | none =>
    (r.object.elim "" (· ++ "->")) ++ r.kind.key ++ (r.operand.elim "" fun v => "(" ++ v ++ ")") ++
      ((r.attributeIndex.or r.skillIndex).elim "" fun i => "[" ++ toString i ++ "]") ++
      " " ++ r.comparison.symbol ++
      match r.value, r.text with
      | some x, _ => " " ++ showValue x
      | none, some t => " \"" ++ t ++ "\""
      | none, none => ""

@[simp] theorem negated_negated (r : Requirement) : r.negated.negated = r := by
  simp [negated]

end Requirement

end Questline
