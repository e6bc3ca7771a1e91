import Questline.Requirement.Comparison

/-!
# Equality of comparands

Comparands are compared as IEEE numbers: the two zeros are equal, and a value that
is not a number equals nothing. On numbers this is an equivalence, and no comparison
can tell equal numbers apart.

## Main results

* `Number.beq_self_iff`: only a value that is not a number differs from itself
* `Number.beq_symm`, `Number.beq_trans`: equality of comparands
* `Comparison.holds_congr`: equal comparands are met by the same numbers
-/

namespace Questline

namespace Number

open Float.Model

theorem compare_zero (s s' : UnpackedFloat.Sign) (w : UnpackedFloat) :
    (UnpackedFloat.zero s).compare w = (UnpackedFloat.zero s').compare w := by
  cases w with
  | finite t _ _ _ => cases t <;> rfl
  | infinity t => cases t <;> rfl
  | _ => rfl

theorem compare_zero_right (s s' : UnpackedFloat.Sign) (w : UnpackedFloat) :
    w.compare (UnpackedFloat.zero s) = w.compare (UnpackedFloat.zero s') := by
  cases w with
  | finite t _ _ _ => cases t <;> rfl
  | infinity t => cases t <;> rfl
  | _ => rfl

/-- Magnitudes compare by the exponent, then by the mantissa. -/
theorem then_compare_eq_eq {e e' : Int} {m m' : Nat} :
    (compare e e').then (compare m m') = .eq ↔ e = e' ∧ m = m' := by
  rw [Ordering.then_eq_eq, Std.compare_eq_iff_eq, Std.compare_eq_iff_eq]

/-- What compares as equal is the same, but for the sign of zero. -/
theorem eq_or_zero_of_compare {u v : UnpackedFloat} (h : u.compare v = some .eq) :
    u = v ∨ ∃ s s', u = .zero s ∧ v = .zero s' := by
  cases u with
  | notANumber => cases h
  | infinity s =>
    cases v with
    | infinity s' => cases s <;> cases s' <;> first | exact .inl rfl | cases h
    | zero s' => cases s <;> cases h
    | finite s' _ _ _ => cases s <;> cases h
    | notANumber => cases s <;> cases h
  | zero s =>
    cases v with
    | zero s' => exact .inr ⟨s, s', rfl, rfl⟩
    | finite s' _ _ _ => cases s' <;> cases h
    | infinity s' => cases s' <;> cases h
    | notANumber => cases h
  | finite s m e hm =>
    cases v with
    | zero s' => cases s <;> cases h
    | infinity s' => cases s <;> cases s' <;> cases h
    | notANumber => cases h
    | finite s' m' e' hm' =>
      left
      cases s with
      | positive =>
        cases s' with
        | positive =>
          obtain ⟨rfl, rfl⟩ := then_compare_eq_eq.1 (Option.some.inj h)
          rfl
        | negative => cases h
      | negative =>
        cases s' with
        | positive => cases h
        | negative =>
          have h : ((compare e e').then (compare m m')).swap = .eq := Option.some.inj h
          obtain ⟨rfl, rfl⟩ := then_compare_eq_eq.1 (Ordering.swap_eq_eq.1 h)
          rfl

theorem compare_congr {u v : UnpackedFloat} (h : u.compare v = some .eq) (w : UnpackedFloat) :
    u.compare w = v.compare w ∧ w.compare u = w.compare v := by
  obtain rfl | ⟨s, s', rfl, rfl⟩ := eq_or_zero_of_compare h
  · exact ⟨rfl, rfl⟩
  · exact ⟨compare_zero s s' w, compare_zero_right s s' w⟩

theorem compare_self (u : UnpackedFloat) :
    u.compare u = if u.isNaN then none else some .eq := by
  cases u with
  | notANumber => rfl
  | zero s => rfl
  | infinity s => cases s <;> rfl
  | finite s m e hm =>
    have hself : (compare e e).then (compare m m) = .eq := then_compare_eq_eq.2 ⟨rfl, rfl⟩
    cases s with
    | positive => exact congrArg some hself
    | negative => exact congrArg (fun o => some (Ordering.swap o)) hself

variable {x y z : Float}

theorem compare_of_beq (h : (x == y) = true) :
    x.toModel.unpack.compare y.toModel.unpack = some .eq := by
  have h' : (x.toModel.unpack.compare y.toModel.unpack == some .eq) = true := h
  exact eq_of_beq h'

theorem beq_of_compare (h : x.toModel.unpack.compare y.toModel.unpack = some .eq) :
    (x == y) = true := by
  have h' : (x.toModel.unpack.compare y.toModel.unpack == some .eq) = true := by rw [h]; rfl
  exact h'

theorem lt_iff_compare : x < y ↔ x.toModel.unpack.compare y.toModel.unpack = some .lt := by
  have h : x < y ↔ (x.toModel.unpack.compare y.toModel.unpack == some .lt) = true :=
    decide_eq_true_iff
  exact h.trans beq_iff_eq

theorem le_iff_compare :
    x ≤ y ↔ (x.toModel.unpack.compare y.toModel.unpack).any (·.isLE) = true :=
  decide_eq_true_iff

/-- Only a value that is not a number differs from itself. -/
theorem beq_self_iff : (x == x) = true ↔ x.isNaN = false := by
  have hs := compare_self x.toModel.unpack
  cases hx : x.toModel.unpack.isNaN with
  | true =>
    rw [hx] at hs
    have hn : x.isNaN = true := hx
    refine ⟨fun h => ?_, fun h => ?_⟩
    · cases hs.symm.trans (compare_of_beq h)
    · cases h.symm.trans hn
  | false =>
    rw [hx] at hs
    exact ⟨fun _ => hx, fun _ => beq_of_compare hs⟩

theorem beq_symm (h : (x == y) = true) : (y == x) = true := by
  have hc := compare_of_beq h
  have hx : x.toModel.unpack.compare x.toModel.unpack = some .eq :=
    ((compare_congr hc _).2).trans hc
  exact beq_of_compare (((compare_congr hc _).1).symm.trans hx)

theorem beq_trans (h : (x == y) = true) (h' : (y == z) = true) : (x == z) = true :=
  beq_of_compare ((compare_congr (compare_of_beq h) _).1.trans (compare_of_beq h'))

end Number

/-- Equal comparands are met by the same numbers. -/
theorem Comparison.holds_congr {x y : Float} (h : (x == y) = true) (c : Comparison) (z : Float) :
    c.holds z x = c.holds z y := by
  obtain ⟨hl, hr⟩ := Number.compare_congr (Number.compare_of_beq h) z.toModel.unpack
  have heq : (z == x) = (z == y) := by
    rw [Bool.eq_iff_iff]
    exact ⟨fun hz => Number.beq_trans hz h, fun hz => Number.beq_trans hz (Number.beq_symm h)⟩
  cases c with
  | equal => exact heq
  | notEqual => exact congrArg (!·) heq
  | greater => exact decide_eq_decide.2 (by simp only [GT.gt, Number.lt_iff_compare, hl])
  | greaterOrEqual => exact decide_eq_decide.2 (by simp only [GE.ge, Number.le_iff_compare, hl])
  | less => exact decide_eq_decide.2 (by simp only [Number.lt_iff_compare, hr])
  | lessOrEqual => exact decide_eq_decide.2 (by simp only [Number.le_iff_compare, hr])

end Questline
