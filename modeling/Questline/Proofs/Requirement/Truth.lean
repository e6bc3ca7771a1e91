import Questline.Proofs.Requirement.Gate

/-!
# Truth of requirements

Requirements can be true or false in many ways. All that is asked of a way is that equal
requirements are both true or both false, and that a requirement and its negation are not.

## Main definitions

* `IsTruth`: truth values that fit together
* `Gate.holds`: whether all requirements of a gate are true

## Main results

* `isTruth_extend`: the requirements without a negative comparison can have any values
* `Gate.holds_ofList`: leaving out repetitions does not change whether a gate holds
-/

namespace Questline

/-- Truth values of requirements that respect equality and negation. -/
structure IsTruth (v : Requirement → Bool) : Prop where
  congr (r s : Requirement) (h : (r == s) = true) : v r = v s
  negated (r : Requirement) : v r.negated = !v r

/-- One comparison of each pair of opposite ones. -/
def Comparison.isPositive : Comparison → Bool
  | equal => true
  | greater => true
  | greaterOrEqual => true
  | notEqual => false
  | less => false
  | lessOrEqual => false

@[simp] theorem Comparison.isPositive_negate (c : Comparison) :
    c.negate.isPositive = !c.isPositive := by
  cases c <;> rfl

namespace Requirement

variable {r s : Requirement}

@[simp] theorem comparison_negated (r : Requirement) :
    r.negated.comparison = r.comparison.negate := rfl

theorem negated_beq_negated (h : (r == s) = true) : (r.negated == s.negated) = true := by
  obtain ⟨hk, hc, hrest⟩ := beq_iff.1 h
  exact beq_iff.2 ⟨hk, congrArg Comparison.negate hc, hrest⟩

end Requirement

/-- Values of the requirements with a positive comparison are values of all of them. -/
def extendTruth (f : Requirement → Bool) (r : Requirement) : Bool :=
  if r.comparison.isPositive then f r else !f r.negated

theorem isTruth_extend {f : Requirement → Bool} (hf : ∀ r s, (r == s) = true → f r = f s) :
    IsTruth (extendTruth f) where
  congr r s h := by
    have hc : r.comparison = s.comparison := (Requirement.beq_iff.1 h).2.1
    rw [extendTruth, extendTruth, hc, hf r s h, hf _ _ (Requirement.negated_beq_negated h)]
  negated r := by
    rw [extendTruth, extendTruth, Requirement.comparison_negated, Comparison.isPositive_negate,
      Requirement.negated_negated]
    cases r.comparison.isPositive <;> simp

namespace Gate

variable {v : Requirement → Bool}

/-- Whether all requirements of the gate are true. -/
def holds (v : Requirement → Bool) (g : Gate) : Bool :=
  g.requirements.all v

theorem holds_insert (hv : IsTruth v) (g : Gate) (r : Requirement) :
    (g.insert r).holds v = (g.holds v && v r) := by
  rw [insert_eq]
  split
  · next hc =>
    -- the requirement is as true as the one that equals it
    obtain ⟨s, hs, hrs⟩ := contains_iff.1 hc
    by_cases hg : g.holds v = true
    · have hvs : v s = true := List.all_eq_true.1 hg s hs
      rw [hg, hv.congr r s hrs, hvs]
      rfl
    · rw [Bool.not_eq_true] at hg
      rw [hg, Bool.false_and]
  · simp [holds]

theorem holds_insertAll (hv : IsTruth v) (g : Gate) (rs : List Requirement) :
    (g.insertAll rs).holds v = (g.holds v && rs.all v) := by
  induction rs generalizing g with
  | nil => simp [insertAll]
  | cons r rs ih =>
    have hstep : (g.insertAll (r :: rs)).holds v = ((g.insert r).holds v && rs.all v) := ih _
    rw [hstep, holds_insert hv, List.all_cons, Bool.and_assoc]

/-- Leaving out repetitions does not change whether a gate holds. -/
theorem holds_ofList (hv : IsTruth v) (rs : List Requirement) : (ofList rs).holds v = rs.all v :=
  holds_insertAll hv {} rs

end Gate

end Questline
