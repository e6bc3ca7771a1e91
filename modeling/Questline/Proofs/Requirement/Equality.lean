import Questline.Proofs.Number.Equality
import Questline.Requirement.Gate

/-!
# Equality of requirements

Requirements are equal when they say the same. A requirement whose comparand is not
a number differs from all others and from itself; on the other requirements equality
is an equivalence.

## Main definitions

* `Requirement.hasNaN`: a requirement that compares with what is not a number

## Main results

* `Requirement.beq_self_iff`, `Requirement.beq_symm`, `Requirement.beq_trans`
* `Requirement.passes?_congr`: equal requirements are met by the same numbers
-/

namespace Questline

deriving instance DecidableEq for Requirement

namespace Requirement

/-- Whether the comparand is a value that is not a number. -/
def hasNaN (r : Requirement) : Bool :=
  r.value.any Float.isNaN

variable {a b c : Requirement}

theorem beq_iff : (a == b) = true ↔
    a.kind = b.kind ∧ a.comparison = b.comparison ∧ (a.value == b.value) = true ∧
      a.text = b.text ∧ a.operand = b.operand ∧ a.object = b.object ∧
      a.attributeIndex = b.attributeIndex ∧ a.skillIndex = b.skillIndex ∧ a.script = b.script := by
  change (_ && _) = true ↔ _
  simp only [Bool.and_eq_true, beq_iff_eq, and_assoc]

theorem value_beq_symm {x y : Option Float} (h : (x == y) = true) : (y == x) = true := by
  match x, y with
  | none, none => rfl
  | some _, some _ => exact Number.beq_symm h

theorem value_beq_trans {x y z : Option Float} (h : (x == y) = true) (h' : (y == z) = true) :
    (x == z) = true := by
  match x, y, z with
  | none, none, none => rfl
  | some _, some _, some _ => exact Number.beq_trans h h'

theorem value_beq_self_iff {x : Option Float} : (x == x) = true ↔ x.any Float.isNaN = false := by
  match x with
  | none => exact ⟨fun _ => rfl, fun _ => rfl⟩
  | some _ => exact Number.beq_self_iff

/-- Only a requirement whose comparand is not a number differs from itself. -/
theorem beq_self_iff : (a == a) = true ↔ a.hasNaN = false := by
  rw [beq_iff, hasNaN, ← value_beq_self_iff]
  simp

theorem beq_symm (h : (a == b) = true) : (b == a) = true := by
  obtain ⟨hk, hc, hv, ht, hp, ho, ha, hs, hi⟩ := beq_iff.1 h
  exact beq_iff.2 ⟨hk.symm, hc.symm, value_beq_symm hv, ht.symm, hp.symm, ho.symm, ha.symm,
    hs.symm, hi.symm⟩

theorem beq_comm : (a == b) = (b == a) :=
  Bool.eq_iff_iff.2 ⟨beq_symm, beq_symm⟩

theorem beq_trans (h : (a == b) = true) (h' : (b == c) = true) : (a == c) = true := by
  obtain ⟨hk, hc, hv, ht, hp, ho, ha, hs, hi⟩ := beq_iff.1 h
  obtain ⟨hk', hc', hv', ht', hp', ho', ha', hs', hi'⟩ := beq_iff.1 h'
  exact beq_iff.2 ⟨hk.trans hk', hc.trans hc', value_beq_trans hv hv', ht.trans ht',
    hp.trans hp', ho.trans ho', ha.trans ha', hs.trans hs', hi.trans hi'⟩

/-- What equals a requirement has a number for its comparand, if any. -/
theorem hasNaN_eq_false_of_beq (h : (a == b) = true) : a.hasNaN = false :=
  beq_self_iff.1 (beq_trans h (beq_symm h))

/-- Equal requirements are met by the same numbers. -/
theorem passes?_congr (h : (a == b) = true) (x : Float) : a.passes? x = b.passes? x := by
  obtain ⟨-, hc, hv, -⟩ := beq_iff.1 h
  unfold passes?
  rw [hc]
  match a.value, b.value, hv with
  | none, none, _ => rfl
  | some _, some _, hv => exact congrArg some (Comparison.holds_congr hv _ _)

theorem isSome_value_congr (h : (a == b) = true) : a.value.isSome = b.value.isSome := by
  obtain ⟨-, -, hv, -⟩ := beq_iff.1 h
  match a.value, b.value, hv with
  | none, none, _ => rfl
  | some _, some _, _ => rfl

end Requirement

end Questline
