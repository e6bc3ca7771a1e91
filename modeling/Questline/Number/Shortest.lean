/-!
# Shortest decimal digits

A double stands for every real number that rounds to it. Of the decimal numbers
among these, the one to show lies on the coarsest grid of multiples of a power
of ten that has any, and there it is the one nearest to the double. It is
written out in full, without an exponent.

## Main definitions

* `Number.Binary`: a positive double as a mantissa and a power of two
* `Number.Binary.shortest`: the digits to show and their power of ten
* `Number.render`: the text of a double
-/

namespace Questline.Number

/-- The positive number `mantissa * 2 ^ exponent`. In a `narrow` one the next
double below is only half as far away as the one above. -/
structure Binary where
  mantissa : Nat
  exponent : Int
  narrow : Bool
deriving Repr, DecidableEq

namespace Binary

/-- The number of fractions of a double; the bits of its power stand above them. -/
def fractions : Nat := 0x10000000000000

/-- The absolute value of the finite double with the given bits. -/
def ofBits (bits : Nat) : Binary :=
  let power := bits / fractions % 0x800
  let fraction := bits % fractions
  if power = 0 then ⟨fraction, -1074, false⟩
  else ⟨fractions + fraction, (power : Int) - 1075, fraction == 0 && power != 1⟩

/-- The number `2 ^ b.exponent * 10 ^ (-k)`, by which multiples of `10 ^ k` are
compared with `b`, as a fraction. -/
def scale (b : Binary) (k : Int) : Nat × Nat :=
  (Nat.pow 2 b.exponent.toNat * Nat.pow 10 (-k).toNat,
    Nat.pow 2 (-b.exponent).toNat * Nat.pow 10 k.toNat)

def overPower (b : Binary) (k : Int) : Nat × Nat :=
  ((b.scale k).1 * b.mantissa, (b.scale k).2)

/-- Whether `c * 10 ^ k` rounds to `b`. All is measured in quarters of the last
place of `b`, and the ends of the interval belong to it when the mantissa is even. -/
def covers (b : Binary) (k : Int) (c : Nat) : Bool :=
  let (unit, whole) := b.scale k
  let point := 4 * c * whole
  let low := (4 * b.mantissa - if b.narrow then 1 else 2) * unit
  let high := (4 * b.mantissa + 2) * unit
  if b.mantissa % 2 = 0 then low ≤ point && point ≤ high else low < point && point < high

/-- The multiple of `10 ^ k` that rounds to `b` and is nearest to it, if any does. -/
def onGrid? (b : Binary) (k : Int) : Option Nat :=
  let (n, d) := b.overPower k
  let below := n / d
  match b.covers k below, b.covers k (below + 1) with
  | true, true => some (if 2 * (n % d) < d then below else below + 1)
  | true, false => some below
  | false, true => some (below + 1)
  | false, false => none

/-- The first grid that has a point, from `10 ^ k` on towards finer ones. -/
def search (b : Binary) : Nat → Int → Nat × Int
  | 0, k => ((b.overPower k).1 / (b.overPower k).2, k)
  | n + 1, k =>
    match b.onGrid? k with
    | some c => (c, k)
    | none => b.search n (k - 1)

/-- The shortest digits and their power of ten. The search starts above the
number, and seventeen digits always suffice. -/
def shortest (b : Binary) : Nat × Int :=
  b.search 20 (((b.mantissa.log2 + 1 : Int) + b.exponent) * 30103 / 100000 + 1)

end Binary

/-- The digits of `c * 10 ^ k`, written out in full; `mark` ends a whole number. -/
def positional (mark : List Char) (c : Nat) (k : Int) : List Char :=
  let ds := Nat.toDigits 10 c
  if 0 ≤ k then ds ++ List.replicate k.toNat '0' ++ mark
  else
    let places := (-k).toNat
    if places < ds.length then ds.take (ds.length - places) ++ '.' :: ds.drop (ds.length - places)
    else '0' :: '.' :: List.replicate (places - ds.length) '0' ++ ds

/-- The highest bit of a double, which negative ones have. -/
def signBit : Nat := 0x8000000000000000

/-- The text of a double; `mark` ends a whole number. -/
def render (mark : List Char) (x : Float) : List Char :=
  if x.isNaN then "NaN".toList
  else
    let bits := x.toBits.toNat
    let minus := if bits < signBit then [] else ['-']
    if x.isInf then minus ++ "inf".toList
    else if bits % signBit = 0 then minus ++ '0' :: mark
    else
      let (c, k) := (Binary.ofBits bits).shortest
      minus ++ positional mark c k

end Questline.Number
