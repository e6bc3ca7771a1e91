import Questline.Condition.Basic
import Questline.Condition.Command
import Questline.Names

/-!
# From conditions to requirements

A condition becomes a requirement: its command is looked up among the commands,
then among the local variables in scope, then among the global variables. A name
found nowhere is taken for a local variable and noted. A text that cannot be read
is kept as it is.

## Main definitions

* `Scope`: what is known where a condition stands
* `Misreading`: the reasons for which a text is no condition
* `translate`: the requirement of a text, with the name to note if there is one
* `verbatim`: the requirement that keeps a text that could not be read
* `Translator`: the global variables and what was noted so far
-/

namespace Questline

/-- What is known where a condition stands: the script it belongs to, and the
local variables declared around it. -/
structure Scope where
  script : Option String := none
  locals : Names := ∅

/-- Why a text could not be read as a condition. -/
inductive Misreading where
  | empty
  | noCommand (object member : String)
  | unparsed (text : String)
deriving Repr, DecidableEq

def Misreading.message : Misreading → String
  | empty => "empty condition"
  | noCommand object member => "object variable '" ++ object ++ "." ++ member ++ "' has no command"
  | unparsed text => "unparsed condition: " ++ text

namespace Requirement

/-- Compare with a value as written: a number if it is one, else a text. -/
def against (r : Requirement) (written : List Char) : Requirement :=
  match Number.readFloat? written with
  | some x => { r with value := some x }
  | none => { r with text := some (nameOf written) }

/-- A requirement on a local variable, which belongs to the script in scope. -/
def onLocal (scope : Scope) (c : Comparison) (name : String) : Requirement :=
  { kind := .localVariable, comparison := c, operand := some name,
    script := scope.script.map String.toLower }

def onGlobal (c : Comparison) (name : String) : Requirement :=
  { kind := .globalVariable, comparison := c, operand := some name }

end Requirement

namespace Condition

/-- The comparison; none at all asks for more than zero. -/
def comparison (c : Condition) : Comparison :=
  c.test.elim .greater (·.1)

def commandName (c : Condition) : String :=
  (String.ofList c.command).toLower

/-- The object that the condition is applied to, by itself or because the command
is meant for the player. -/
def object (c : Condition) : Option String :=
  (c.scope.map nameOf).or (if playerOnly.contains c.commandName then some player else none)

/-- What the condition tests, and the name that was found nowhere, if so. -/
def operand (globals : Names) (scope : Scope) (c : Condition) : Requirement × Option String :=
  match Command.find? c.commandName with
  | some k =>
    ({ kind := k.kindFor (c.scope.map nameOf), comparison := c.comparison,
       operand := c.argument.map nameOf, attributeIndex := k.attributeIndex,
       skillIndex := k.skillIndex }, none)
  | none =>
    if scope.locals.contains c.commandName then
      (.onLocal scope c.comparison c.commandName, none)
    else if globals.contains c.commandName then
      (.onGlobal c.comparison c.commandName, none)
    else
      (.onLocal scope c.comparison c.commandName, some c.commandName)

/-- The requirement of a condition, and the name that was found nowhere, if so. -/
def requirement (globals : Names) (scope : Scope) (c : Condition) :
    Requirement × Option String :=
  let (r, novel) := c.operand globals scope
  let r := { r with object := c.object }
  match c.test with
  | some (_, written) => (r.against written, novel)
  | none => ({ r with value := some 0.0 }, novel)

end Condition

/-- The requirement of a condition text, and the name that was found nowhere, if
so. Parentheses around the text do not count. -/
def translate (globals : Names) (scope : Scope) (text : List Char) :
    Except Misreading (Requirement × Option String) :=
  let t := stripParens text
  if t.isEmpty then .error .empty
  else match MemberTest.read? t with
    | some m => .error (.noCommand (nameOf m.object) (String.ofList m.member).toLower)
    | none =>
      match Condition.read? t with
      | some c => .ok (c.requirement globals scope)
      | none => .error (.unparsed (String.ofList t))

/-- What can be said about a text that is no condition: a comparison of
`object.variable` keeps its pieces, anything else is a text. -/
def verbatim (text : List Char) : Requirement :=
  let t := stripParens text
  let raw := some (String.ofList (trim text))
  match MemberTest.read? t with
  | some m =>
    let r : Requirement :=
      { kind := .unknown, comparison := m.test.elim .greater (·.1), object := some (nameOf m.object),
        operand := some (String.ofList m.member).toLower, raw }
    match m.test with
    | some (_, written) => r.against written
    | none => { r with value := some 0.0 }
  | none => { kind := .unknown, comparison := .equal, text := some (String.ofList t), raw }

/-- The known global variables, the names that were found nowhere, and the texts
that could not be read, in the order in which they were met. -/
structure Translator where
  globals : Names := ∅
  unrecognized : Names := ∅
  failed : List String := []

namespace Translator

/-- A translator that knows the given global variables, in any letter case. -/
def withGlobals (names : List String) : Translator :=
  { globals := Std.ExtTreeSet.ofList (names.map String.toLower) }

/-- Note a name that was found nowhere. -/
def note (t : Translator) (novel : Option String) : Translator :=
  { t with unrecognized := novel.elim t.unrecognized t.unrecognized.insert }

/-- The requirement of a condition text. A text that could not be read leaves the
translator as it was. -/
def translate (t : Translator) (scope : Scope) (text : List Char) :
    Except Misreading Requirement × Translator :=
  match Questline.translate t.globals scope text with
  | .ok (r, novel) => (.ok r, t.note novel)
  | .error e => (.error e, t)

/-- The requirement of a condition text, or of the text itself if it could not be
read. -/
def translateOrKeep (t : Translator) (scope : Scope) (text : List Char) :
    Requirement × Translator :=
  match Questline.translate t.globals scope text with
  | .ok (r, novel) => (r, t.note novel)
  | .error _ => (verbatim text, { t with failed := t.failed ++ [String.ofList (trim text)] })

@[simp] theorem globals_translateOrKeep (t : Translator) (scope : Scope) (text : List Char) :
    (t.translateOrKeep scope text).2.globals = t.globals := by
  unfold translateOrKeep
  split <;> rfl

end Translator

end Questline
