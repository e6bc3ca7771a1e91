import Questline.Number.Reading
import Questline.Proofs.Number.Equality
import Questline.Proofs.Text.Lines

/-!
# Numbers written in decimal

A number that is written with digits is always read as a number: rounding gives zero, a finite
value or infinity, whatever the number of digits.

## Main definitions

* `Decimal`: digits with an optional fraction, after an optional minus sign
* `Decimal.toFloat`: the double that a decimal stands for

## Main results

* `Number.isNaN_ofScientific`: what is written with digits is a number
* `Decimal.readFloat?_text_eq`: what a decimal is read as
* `Decimal.readInt?_text`: a decimal without a fraction is read as a whole number
-/

namespace Questline

namespace Number

open Float.Model

/-! ### Packing and rounding -/

variable {spec : Format} {u v : UnpackedFloat}

theorem unpack_of_isNaN {b : BitVec spec.numBits}
    (h : (UnpackedFloat.unpack spec b).isNaN = true) :
    UnpackedFloat.unpackExponent b = -1#_ ∧ UnpackedFloat.unpackMantissa b ≠ 0#_ := by
  unfold UnpackedFloat.unpack at h
  dsimp only at h
  by_cases he : UnpackedFloat.unpackExponent b = -1#_
  · rw [if_pos he] at h
    by_cases hm : UnpackedFloat.unpackMantissa b = 0#_
    · rw [if_pos hm] at h
      cases h
    · exact ⟨he, hm⟩
  · rw [if_neg he] at h
    by_cases hz : UnpackedFloat.unpackExponent b = 0#_
    · rw [if_pos hz] at h
      by_cases hm : UnpackedFloat.unpackMantissa b = 0#_
      · rw [dif_pos hm] at h
        cases h
      · rw [dif_neg hm] at h
        cases h
    · rw [if_neg hz] at h
      cases h

theorem packComponents_of_isNaN {s : UnpackedFloat.Sign} {e : BitVec spec.exponentBits}
    {m : BitVec spec.mantissaBitsWithoutImplicit}
    (h : (UnpackedFloat.unpack spec (UnpackedFloat.packComponents spec s e m)).isNaN = true) :
    e = -1#_ ∧ m ≠ 0#_ := by
  have hbits := unpack_of_isNaN h
  rwa [UnpackedFloat.unpackMantissa_packComponents,
    UnpackedFloat.unpackExponent_packComponents] at hbits

/-- A number is still a number when it is packed. -/
theorem isNaN_unpack_pack (h : u.isNaN = false) :
    (UnpackedFloat.unpack spec (UnpackedFloat.pack spec u)).isNaN = false := by
  rw [← Bool.not_eq_true]
  intro hnan
  have hpos := Nat.pow_lt_pow_right (Nat.lt_succ_self 1) spec.he
  cases u with
  | notANumber => cases h
  | infinity s => exact (packComponents_of_isNaN hnan).2 rfl
  | zero s => exact (packComponents_of_isNaN hnan).2 rfl
  | finite s m e hm =>
    unfold UnpackedFloat.pack at hnan
    dsimp only at hnan
    split at hnan
    · exact (packComponents_of_isNaN hnan).2 rfl
    · next hlt =>
      split at hnan
      · have he := congrArg BitVec.toNat (packComponents_of_isNaN hnan).1
        rw [BitVec.neg_one_eq_allOnes, BitVec.toNat_allOnes, BitVec.toNat_ofNat,
          Nat.mod_eq_of_lt (by omega)] at he
        omega
      · have he := congrArg BitVec.toNat (packComponents_of_isNaN hnan).1
        rw [BitVec.neg_one_eq_allOnes, BitVec.toNat_allOnes, BitVec.toNat_ofNat, Nat.zero_mod] at he
        omega

theorem isNaN_dite {p : Prop} [Decidable p] {a : p → UnpackedFloat} {b : ¬p → UnpackedFloat}
    (ha : ∀ h, (a h).isNaN = false) (hb : ∀ h, (b h).isNaN = false) :
    (dite p a b).isNaN = false := by
  split
  · exact ha _
  · exact hb _

theorem isNaN_ite {p : Prop} [Decidable p] (hu : u.isNaN = false) (hv : v.isNaN = false) :
    (if p then u else v).isNaN = false := by
  split
  · exact hu
  · exact hv

theorem isNaN_roundWithAccuracy (s : UnpackedFloat.Sign) (m : Nat) (e : Int)
    (accuracy : UnpackedFloat.Accuracy) :
    (UnpackedFloat.roundWithAccuracy spec s m e accuracy).isNaN = false := by
  unfold UnpackedFloat.roundWithAccuracy
  exact isNaN_dite (fun _ => rfl) fun _ => rfl

/-- A finite value other than zero. -/
def IsNonzero : UnpackedFloat → Prop
  | .finite .. => True
  | _ => False

instance : DecidablePred IsNonzero := fun u =>
  match u with
  | .finite .. => isTrue trivial
  | .infinity _ => isFalse id
  | .notANumber => isFalse id
  | .zero _ => isFalse id

theorem isNaN_mul (hu : u.isNaN = false) (hv : IsNonzero v) :
    (UnpackedFloat.mul spec u v).isNaN = false := by
  cases v with
  | finite s m e hm =>
    cases u with
    | notANumber => cases hu
    | infinity s' => rfl
    | zero s' => rfl
    | finite s' m' e' hm' => exact isNaN_roundWithAccuracy _ _ _ _
  | _ => exact hv.elim

theorem isNaN_div (hu : u.isNaN = false) (hv : IsNonzero v) :
    (UnpackedFloat.div spec u v).isNaN = false := by
  cases v with
  | finite s m e hm =>
    cases u with
    | notANumber => cases hu
    | infinity s' => rfl
    | zero s' => rfl
    | finite s' m' e' hm' => exact isNaN_roundWithAccuracy _ _ _ _
  | _ => exact hv.elim

theorem isNaN_normalize (m e : Int) (s : UnpackedFloat.Sign) :
    (UnpackedFloat.normalize spec m e s).isNaN = false := by
  unfold UnpackedFloat.normalize
  split
  · exact isNaN_roundWithAccuracy _ _ _ _
  · rfl
  · exact isNaN_roundWithAccuracy _ _ _ _

theorem isNaN_unpacked_ofScientific (m : Nat) (e : Int) :
    (UnpackedFloat.ofScientific spec m e).isNaN = false := by
  unfold UnpackedFloat.ofScientific
  refine isNaN_dite (fun _ => rfl) fun _ => isNaN_ite rfl <| isNaN_ite rfl <| isNaN_ite ?_ ?_
  · exact isNaN_mul rfl trivial
  · exact isNaN_div rfl trivial

/-! ### Doubles -/

theorem isNaN_toFloat (n : UInt64) : n.toFloat.isNaN = false :=
  isNaN_unpack_pack (isNaN_normalize _ _ _)

theorem isNaN_neg {x : Float} (h : x.isNaN = false) : (-x).isNaN = false := by
  have hx : x.toModel.unpack.isNaN = false := h
  have hneg : x.toModel.unpack.neg.isNaN = false := by
    cases hu : x.toModel.unpack with
    | notANumber => rw [hu] at hx; cases hx
    | _ => rfl
  exact isNaN_unpack_pack hneg

/-- The powers of ten in the table are finite and not zero. -/
theorem isNonzero_powersOfTen :
    ∀ x ∈ Float.exactlyRepresentablePowersOfTen, IsNonzero x.toModel.unpack := by
  decide +kernel

/-- What is written with digits is a number. -/
theorem isNaN_ofScientific (m : Nat) (s : Bool) (e : Nat) :
    (Float.ofScientific m s e).isNaN = false := by
  unfold Float.ofScientific
  split
  · next h =>
    have hlt : e < Float.exactlyRepresentablePowersOfTen.size := by
      simp [Float.exactlyRepresentablePowersOfTen]
      omega
    have hpower := isNonzero_powersOfTen _ (Array.getElem_mem hlt)
    have hm := isNaN_toFloat m.toUInt64
    dsimp only
    split
    · exact isNaN_unpack_pack (isNaN_div hm hpower)
    · exact isNaN_unpack_pack (isNaN_mul hm hpower)
  · exact isNaN_unpack_pack (isNaN_unpacked_ofScientific m _)

theorem isNaN_scaled (m : Nat) (e : Int) : (scaled m e).isNaN = false :=
  isNaN_ofScientific m _ _

end Number

/-! ### Texts -/

/-- Digits with an optional fraction, after an optional minus sign. -/
structure Decimal where
  negative : Bool
  whole : List Char
  fraction? : Option (List Char)
  whole_ne_nil : whole ≠ []
  isDigit_whole : ∀ c ∈ whole, c.isDigit = true
  fraction_ne_nil : ∀ ds ∈ fraction?, ds ≠ []
  isDigit_fraction : ∀ ds ∈ fraction?, ∀ c ∈ ds, c.isDigit = true

namespace Decimal

variable (d : Decimal)

/-- The digits and the point. -/
def magnitude : List Char :=
  d.whole ++ d.fraction?.elim [] ('.' :: ·)

def text : List Char :=
  if d.negative then '-' :: d.magnitude else d.magnitude

/-- The first digit. -/
theorem exists_magnitude_eq : ∃ c r, d.magnitude = c :: r ∧ c.isDigit = true := by
  obtain ⟨c, r, hwhole⟩ := List.exists_cons_of_ne_nil d.whole_ne_nil
  refine ⟨c, r ++ d.fraction?.elim [] ('.' :: ·), ?_, ?_⟩
  · rw [magnitude, hwhole, List.cons_append]
  · exact d.isDigit_whole c (hwhole ▸ List.mem_cons_self)

/-- The last digit. -/
theorem exists_magnitude_concat : ∃ r c, d.magnitude = r ++ [c] ∧ c.isDigit = true := by
  cases hf : d.fraction? with
  | none =>
    refine ⟨d.whole.dropLast, d.whole.getLast d.whole_ne_nil, ?_, ?_⟩
    · rw [magnitude, hf, Option.elim_none, List.append_nil, List.dropLast_concat_getLast]
    · exact d.isDigit_whole _ (List.getLast_mem _)
  | some ds =>
    have hds := d.fraction_ne_nil ds hf
    refine ⟨d.whole ++ '.' :: ds.dropLast, ds.getLast hds, ?_, ?_⟩
    · rw [magnitude, hf, Option.elim_some, List.append_assoc, List.cons_append,
        List.dropLast_concat_getLast]
    · exact d.isDigit_fraction ds hf _ (List.getLast_mem _)

/-- A decimal starts with the minus sign or a digit. -/
theorem exists_text_eq : ∃ c r, d.text = c :: r ∧ (c = '-' ∨ c.isDigit = true) := by
  obtain ⟨c, r, hc, hdigit⟩ := d.exists_magnitude_eq
  cases hn : d.negative with
  | true => exact ⟨'-', d.magnitude, by rw [text, hn]; rfl, .inl rfl⟩
  | false => exact ⟨c, r, by rw [text, hn, ← hc]; rfl, .inr hdigit⟩

theorem head?_text_ne {a : Char} (ha : a ≠ '-') (hdigit : a.isDigit = false) :
    d.text.head? ≠ some a := by
  obtain ⟨c, r, hc, h⟩ := d.exists_text_eq
  rw [hc, List.head?_cons]
  intro hca
  obtain rfl := Option.some.inj hca
  obtain h | h := h
  · exact ha h
  · exact Bool.false_ne_true (hdigit.symm.trans h)

theorem exists_text_concat : ∃ r c, d.text = r ++ [c] ∧ isBlank c = false := by
  obtain ⟨r, c, hr, hc⟩ := d.exists_magnitude_concat
  have hblank := isBlank_eq_false_of_isWord (isWord_of_isDigit hc)
  cases hn : d.negative with
  | true => exact ⟨'-' :: r, c, by rw [text, hn, hr]; rfl, hblank⟩
  | false => exact ⟨r, c, by rw [text, hn, hr]; rfl, hblank⟩

theorem isBlank_head_text : ∀ c ∈ d.text.head?, isBlank c = false := by
  obtain ⟨a, r, ha, h⟩ := d.exists_text_eq
  rw [ha]
  intro c hc
  obtain rfl := Option.some.inj hc
  obtain rfl | hdigit := h
  · decide
  · exact isBlank_eq_false_of_isWord (isWord_of_isDigit hdigit)

theorem trimStart_text : trimStart d.text = d.text :=
  dropWhile_append_of_stop (w := []) (by simp) d.isBlank_head_text

theorem trim_text : trim d.text = d.text := by
  refine trim_eq_self d.isBlank_head_text fun c hc => ?_
  obtain ⟨r, a, ha, hblank⟩ := d.exists_text_concat
  rw [ha, List.getLast?_concat] at hc
  obtain rfl := Option.some.inj hc
  exact hblank

theorem unquote_text : unquote d.text = d.text := by
  have hhead : (trim d.text).head? ≠ some '"' := by
    rw [trim_text]
    exact d.head?_text_ne (by decide) (by decide)
  rw [unquote_of_head? hhead, trim_text]

theorem sign_text : Number.sign d.text = (d.negative, d.magnitude) := by
  cases hn : d.negative with
  | true => rw [text, hn]; rfl
  | false =>
    obtain ⟨c, r, hc, hdigit⟩ := d.exists_magnitude_eq
    rw [text, hn, if_neg Bool.false_ne_true, hc]
    unfold Number.sign
    split
    · next heq =>
      obtain ⟨rfl, -⟩ := List.cons.inj heq
      cases hdigit
    · next heq =>
      obtain ⟨rfl, -⟩ := List.cons.inj heq
      cases hdigit
    · rfl

/-- The digits of the fraction, if there are any. -/
def fraction : List Char :=
  d.fraction?.getD []

/-- The double nearest to what a decimal without its sign says. -/
def absolute : Float :=
  Number.scaled (Nat.ofDigitChars 10 (d.whole ++ d.fraction) 0) (-d.fraction.length)

/-- The double nearest to what a decimal says. -/
def toFloat : Float :=
  if d.negative then -d.absolute else d.absolute

theorem magnitude?_magnitude : Number.magnitude? d.magnitude = some d.absolute := by
  have hstop : ∀ c ∈ (d.fraction?.elim [] ('.' :: ·)).head?, c.isDigit = false := by
    cases d.fraction? <;> simp
  have htake := takeWhile_append_of_stop d.isDigit_whole hstop
  have hdrop := dropWhile_append_of_stop d.isDigit_whole hstop
  rw [← magnitude] at htake hdrop
  have hwhole : d.whole.isEmpty = false := List.isEmpty_eq_false_iff.2 d.whole_ne_nil
  have habsolute : Number.scaled (Number.ofDigits (d.whole ++ d.fraction)) (0 - d.fraction.length) =
      d.absolute := by
    rw [Int.zero_sub]
    rfl
  rw [fraction] at habsolute
  cases hf : d.fraction? with
  | none =>
    have hfraction : Number.fraction [] = ([], []) := rfl
    rw [hf] at habsolute
    rw [Number.magnitude?, htake, hdrop, hf, Option.elim_none, hfraction, hwhole, ← habsolute]
    rfl
  | some ds =>
    have hds := d.isDigit_fraction ds hf
    have hnil : ∀ c ∈ ([] : List Char).head?, c.isDigit = false := by simp
    have hfraction : Number.fraction ('.' :: ds) = (ds, []) := by
      have htake := takeWhile_append_of_stop hds hnil
      have hdrop := dropWhile_append_of_stop hds hnil
      rw [List.append_nil] at htake hdrop
      rw [Number.fraction, htake, hdrop]
    rw [hf] at habsolute
    rw [Number.magnitude?, htake, hdrop, hf, Option.elim_some, hfraction, hwhole, ← habsolute]
    rfl

/-- A decimal is read as the double nearest to what it says. -/
theorem readFloat?_text_eq : Number.readFloat? d.text = some d.toFloat := by
  rw [Number.readFloat?, d.sign_text]
  dsimp only
  rw [d.magnitude?_magnitude, toFloat]
  cases d.negative <;> rfl

theorem isNaN_toFloat : d.toFloat.isNaN = false := by
  have habsolute : d.absolute.isNaN = false := Number.isNaN_scaled _ _
  rw [toFloat]
  split
  · exact Number.isNaN_neg habsolute
  · exact habsolute

/-- A decimal is read as a number. -/
theorem readFloat?_text : ∃ x, Number.readFloat? d.text = some x ∧ x.isNaN = false :=
  ⟨d.toFloat, d.readFloat?_text_eq, d.isNaN_toFloat⟩

/-! ### Whole numbers -/

/-- The value of a decimal, its fraction not counted. -/
def toInt : Int :=
  if d.negative then -(Nat.ofDigitChars 10 d.whole 0 : Int) else Nat.ofDigitChars 10 d.whole 0

variable {d}

theorem magnitude_eq_whole (hd : d.fraction? = none) : d.magnitude = d.whole := by
  rw [magnitude, hd, Option.elim_none, List.append_nil]

theorem of_mem_text (hd : d.fraction? = none) {c : Char} (hc : c ∈ d.text) :
    c = '-' ∨ c.isDigit = true := by
  rw [text, magnitude_eq_whole hd] at hc
  split at hc
  · exact (List.mem_cons.1 hc).imp_right (d.isDigit_whole c)
  · exact .inr (d.isDigit_whole c hc)

/-- A decimal without a fraction is read as a whole number of the range that it lies in. -/
theorem readInt?_text (hd : d.fraction? = none) {lo hi : Int}
    (hrange : lo ≤ d.toInt ∧ d.toInt ≤ hi) : Number.readInt? lo hi d.text = some d.toInt := by
  have hdigits : Number.digits? d.whole = some (Nat.ofDigitChars 10 d.whole 0) := by
    have hne : d.whole.isEmpty = false := List.isEmpty_eq_false_iff.2 d.whole_ne_nil
    have hall : d.whole.all Char.isDigit = true := List.all_eq_true.2 d.isDigit_whole
    rw [Number.digits?, hne, hall]
    rfl
  have hsigned : Number.signed? d.text = some d.toInt := by
    rw [Number.signed?, d.sign_text, magnitude_eq_whole hd]
    dsimp only
    rw [hdigits]
    rfl
  rw [Number.readInt?, hsigned, Option.filter_some, if_pos (by simpa using hrange)]

end Decimal

end Questline
