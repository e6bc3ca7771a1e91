import Questline.Proofs.Condition.Acceptance
import Questline.Proofs.Requirement.Gate

/-!
# What arguments distinguish

Two conditions that are applied to the same object and have the same command differ in their
comparison, in what they compare with, or in their argument. A requirement has room for the
argument of a known command only: where the command stands for a variable, the name of the
variable takes the place, and conditions with different arguments become one.

## Main definitions

* `Condition.value?`, `Condition.text?`: what a condition compares with

## Main results

* `Condition.requirement_eq`: all of the requirement of a condition
* `Condition.requirement_beq_iff`: when the requirements of two conditions are equal
* `translate_distinguishes_arguments`: which arguments make a difference
* `unknown_arguments_merge`: two arguments that make none
-/

namespace Questline

namespace Condition

/-- The number that a condition compares with; without a comparison it is zero. -/
def value? (c : Condition) : Option Float :=
  c.test.elim (some 0.0) fun test => Number.readFloat? test.2

/-- The text that a condition compares with, if it is not a number. -/
def text? (c : Condition) : Option String :=
  c.test.bind fun test => if (Number.readFloat? test.2).isSome then none else some (nameOf test.2)

variable {globals : Names} {scope : Scope} {c c' : Condition}

theorem operand_of_find? {k : Command} (h : Command.find? c.commandName = some k) :
    c.operand globals scope =
      ({ kind := k.kindFor (c.scope.map nameOf), comparison := c.comparison,
         operand := c.argument.map nameOf, attributeIndex := k.attributeIndex,
         skillIndex := k.skillIndex }, none) := by
  rw [operand, h]

/-- A name that is no command stands for a variable. All conditions with this name are about the
variable, which is called like the name, and none of them keeps an argument. -/
theorem exists_operand_eq {name : String} (h : Command.find? name = none) (globals : Names)
    (scope : Scope) : ∃ kind script novel, ∀ c : Condition, c.commandName = name →
      c.operand globals scope =
        ({ kind, comparison := c.comparison, operand := some name, script }, novel) := by
  by_cases hlocal : scope.locals.contains name = true
  · refine ⟨.localVariable, scope.script.map String.toLower, none, ?_⟩
    rintro c rfl
    rw [operand, h]
    dsimp only
    rw [if_pos hlocal, Requirement.onLocal]
  · by_cases hglobal : globals.contains name = true
    · refine ⟨.globalVariable, none, none, ?_⟩
      rintro c rfl
      rw [operand, h]
      dsimp only
      rw [if_neg hlocal, if_pos hglobal, Requirement.onGlobal]
    · refine ⟨.localVariable, scope.script.map String.toLower, some name, ?_⟩
      rintro c rfl
      rw [operand, h]
      dsimp only
      rw [if_neg hlocal, if_neg hglobal, Requirement.onLocal]

/-- All of the requirement of a condition: what it tests, on an object and with a comparand. -/
theorem requirement_eq (c : Condition) (globals : Names) (scope : Scope) :
    c.requirement globals scope =
      ({ (c.operand globals scope).1 with object := c.object, value := c.value?, text := c.text? },
        (c.operand globals scope).2) := by
  -- what it tests comes without a comparand
  have hnone : (c.operand globals scope).1.value = none ∧
      (c.operand globals scope).1.text = none := by
    cases hfind : Command.find? c.commandName with
    | some k =>
      rw [operand_of_find? hfind]
      exact ⟨rfl, rfl⟩
    | none =>
      obtain ⟨kind, script, novel, hoperand⟩ := exists_operand_eq hfind globals scope
      rw [hoperand c rfl]
      exact ⟨rfl, rfl⟩
  rw [requirement, value?, text?]
  dsimp only
  cases c.test with
  | none => simp [hnone.2]
  | some test =>
    cases hread : Number.readFloat? test.2 with
    | some x => simp [Requirement.against, hread, hnone.2]
    | none => simp [Requirement.against, hread, hnone.1]

/-- What makes a difference between two conditions with the same object and the same command. -/
theorem requirement_beq_iff (hscope : c.scope.map nameOf = c'.scope.map nameOf)
    (hcommand : c.commandName = c'.commandName) :
    ((c.requirement globals scope).1 == (c'.requirement globals scope).1) = true ↔
      c.comparison = c'.comparison ∧ (c.value? == c'.value?) = true ∧ c.text? = c'.text? ∧
        ((Command.find? c.commandName).isSome = true →
          c.argument.map nameOf = c'.argument.map nameOf) := by
  have hobject : c.object = c'.object := by
    rw [object, object, hscope, hcommand]
  rw [requirement_eq, requirement_eq, Requirement.beq_iff]
  cases hfind : Command.find? c.commandName with
  | some k =>
    rw [operand_of_find? hfind, operand_of_find? (hcommand ▸ hfind)]
    simp [hobject, hscope]
  | none =>
    obtain ⟨kind, script, novel, hoperand⟩ := exists_operand_eq hfind globals scope
    rw [hoperand c rfl, hoperand c' hcommand.symm]
    simp [hobject]

end Condition

/-- Two requirements are both in a gate, or the second is left out. -/
theorem Gate.requirements_ofList_pair (r r' : Requirement) :
    (Gate.ofList [r, r']).requirements = if (r == r') = true then [r] else [r, r'] := by
  have hempty : ({} : Gate).insert r = { requirements := [r] } := rfl
  have hcontains : ({ requirements := [r] } : Gate).contains r' = (r == r') := by
    rw [Requirement.beq_comm]
    simp [Gate.contains]
  change ((({} : Gate).insert r).insert r').requirements = _
  rw [hempty, Gate.insert_eq, hcontains]
  split <;> rfl

/-- Conditions with the same object, command, comparison and comparand: those of a known command
are kept apart by their arguments, and a gate holds them both; those of any other name become the
same requirement, whatever their arguments are, and the gate holds one. -/
theorem translate_distinguishes_arguments {globals : Names} {scope : Scope} {t t' : List Char}
    {c c' : Condition} (hc : Condition.ofText? t = some c) (hc' : Condition.ofText? t' = some c')
    (hscope : c.scope.map nameOf = c'.scope.map nameOf)
    (hcommand : c.commandName = c'.commandName) :
    ∃ r r' novel novel', translate globals scope t = .ok (r, novel) ∧
      translate globals scope t' = .ok (r', novel') ∧
      ((r == r') = true ↔ c.comparison = c'.comparison ∧ (c.value? == c'.value?) = true ∧
        c.text? = c'.text? ∧ ((Command.find? c.commandName).isSome = true →
          c.argument.map nameOf = c'.argument.map nameOf)) ∧
      (Gate.ofList [r, r']).requirements = if (r == r') = true then [r] else [r, r'] :=
  ⟨_, _, _, _, translate_of_ofText? hc, translate_of_ofText? hc',
    Condition.requirement_beq_iff hscope hcommand, Gate.requirements_ofList_pair _ _⟩

/-- A command with a name in quotes, compared with one. -/
def quotedCall (command argument : String) : String :=
  command ++ " \"" ++ argument ++ "\" == 1"

/-- What `quotedCall` is read as. -/
def quotedCondition (command argument : String) : Condition :=
  { scope := none, command := command.toList, argument := some ("\"" ++ argument ++ "\"").toList,
    test := some (.equal, "1".toList) }

theorem commandName_quotedCondition (command argument : String) :
    (quotedCondition command argument).commandName = command.toLower := by
  rw [Condition.commandName, quotedCondition, String.ofList_toList]

/-- Two items are two requirements. -/
theorem item_counts_are_kept_apart :
    ∃ r r' novel novel', translate ∅ {} (quotedCall "GetItemCount" "a").toList = .ok (r, novel) ∧
      translate ∅ {} (quotedCall "GetItemCount" "b").toList = .ok (r', novel') ∧
      (r == r') = false ∧ (Gate.ofList [r, r']).requirements = [r, r'] := by
  have ha : Condition.ofText? (quotedCall "GetItemCount" "a").toList =
      some (quotedCondition "GetItemCount" "a") := by
    decide +kernel
  have hb : Condition.ofText? (quotedCall "GetItemCount" "b").toList =
      some (quotedCondition "GetItemCount" "b") := by
    decide +kernel
  have hcommand : (quotedCondition "GetItemCount" "a").commandName =
      (quotedCondition "GetItemCount" "b").commandName := by
    rw [commandName_quotedCondition, commandName_quotedCondition]
  obtain ⟨r, r', novel, novel', hr, hr', hbeq, hgate⟩ :=
    @translate_distinguishes_arguments ∅ {} _ _ _ _ ha hb rfl hcommand
  have hne : (r == r') = false := by
    rw [← Bool.not_eq_true, hbeq]
    rintro ⟨-, -, -, harguments⟩
    exact absurd (harguments (by decide +kernel)) (by decide +kernel)
  refine ⟨r, r', novel, novel', hr, hr', hne, ?_⟩
  rw [hgate, hne, if_neg Bool.false_ne_true]

/-- Two calls of a function that is not known are one requirement on a variable, though their
arguments differ. -/
theorem unknown_arguments_merge :
    ∃ (c c' : Condition) (r r' : Requirement),
      Condition.ofText? (quotedCall "MyFunction" "a").toList = some c ∧
      Condition.ofText? (quotedCall "MyFunction" "b").toList = some c' ∧
      c' = { c with argument := c'.argument } ∧
      c.argument.map nameOf ≠ c'.argument.map nameOf ∧
      translate ∅ {} (quotedCall "MyFunction" "a").toList = .ok (r, some "myfunction") ∧
      translate ∅ {} (quotedCall "MyFunction" "b").toList = .ok (r', some "myfunction") ∧
      (r == r') = true ∧ (Gate.ofList [r, r']).requirements = [r] := by
  have ha : Condition.ofText? (quotedCall "MyFunction" "a").toList =
      some (quotedCondition "MyFunction" "a") := by
    decide +kernel
  have hb : Condition.ofText? (quotedCall "MyFunction" "b").toList =
      some (quotedCondition "MyFunction" "b") := by
    decide +kernel
  let r : Requirement := { Requirement.onLocal {} .equal "myfunction" with value := some 1 }
  have hr : (quotedCondition "MyFunction" "a").requirement ∅ {} = (r, some "myfunction") ∧
      (quotedCondition "MyFunction" "b").requirement ∅ {} = (r, some "myfunction") := by
    decide +kernel
  have hself : (r == r) = true := by decide
  refine ⟨_, _, r, r, ha, hb, rfl, by decide +kernel, ?_, ?_, hself, ?_⟩
  · rw [translate_of_ofText? ha, hr.1]
  · rw [translate_of_ofText? hb, hr.2]
  · rw [Gate.requirements_ofList_pair, if_pos hself]

end Questline
