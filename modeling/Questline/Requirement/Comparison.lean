import Questline.Text.CharClass

/-!
# Comparisons

The six ways to compare an operand with a value.

## Main definitions

* `Comparison`: the comparisons
* `Comparison.ofSymbol?`: the comparison a symbol stands for
* `Comparison.scan?`: the comparison at the front of a text
* `Comparison.holds`: whether two numbers compare so
* `Comparison.negate`: the comparison that holds exactly when another does not
-/

namespace Questline

inductive Comparison where
  | equal
  | notEqual
  | greater
  | greaterOrEqual
  | less
  | lessOrEqual
deriving Repr, DecidableEq

namespace Comparison

def symbol : Comparison → String
  | equal => "=="
  | notEqual => "!="
  | greater => ">"
  | greaterOrEqual => ">="
  | less => "<"
  | lessOrEqual => "<="

/-- The word for a comparison in data files. -/
def word : Comparison → String
  | equal => "equal"
  | notEqual => "notEqual"
  | greater => "greater"
  | greaterOrEqual => "greaterOrEqual"
  | less => "less"
  | lessOrEqual => "lessOrEqual"

def ofWord? : String → Option Comparison
  | "equal" => some equal
  | "notEqual" => some notEqual
  | "greater" => some greater
  | "greaterOrEqual" => some greaterOrEqual
  | "less" => some less
  | "lessOrEqual" => some lessOrEqual
  | _ => none

/-- The comparison whose symbol stands at the front of a text, and what follows.
A single `=` is read as equality. -/
def scan? : List Char → Option (Comparison × List Char)
  | '=' :: '=' :: r => some (equal, r)
  | '!' :: '=' :: r => some (notEqual, r)
  | '>' :: '=' :: r => some (greaterOrEqual, r)
  | '<' :: '=' :: r => some (lessOrEqual, r)
  | '>' :: r => some (greater, r)
  | '<' :: r => some (less, r)
  | '=' :: r => some (equal, r)
  | _ => none

/-- The comparison that a symbol stands for, white space around it not counted. -/
def ofSymbol? (t : List Char) : Option Comparison :=
  match scan? (trim t) with
  | some (c, []) => some c
  | _ => none

/-- Whether `x` and `y` compare so, as IEEE numbers do. -/
def holds (c : Comparison) (x y : Float) : Bool :=
  match c with
  | equal => x == y
  | notEqual => x != y
  | greater => x > y
  | greaterOrEqual => x ≥ y
  | less => x < y
  | lessOrEqual => x ≤ y

def negate : Comparison → Comparison
  | equal => notEqual
  | notEqual => equal
  | greater => lessOrEqual
  | lessOrEqual => greater
  | greaterOrEqual => less
  | less => greaterOrEqual

@[simp] theorem negate_negate (c : Comparison) : c.negate.negate = c := by
  cases c <;> rfl

@[simp] theorem ofWord?_word (c : Comparison) : ofWord? c.word = some c := by
  cases c <;> rfl

@[simp] theorem ofSymbol?_symbol (c : Comparison) : ofSymbol? c.symbol.toList = some c := by
  cases c <;> decide

end Comparison

end Questline
