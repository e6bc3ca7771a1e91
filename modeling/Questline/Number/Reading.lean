/-!
# Reading numbers

Numbers in scripts and records are written in decimal. A floating point number
has an optional sign, digits with at most one point among or around them, and an
optional exponent; the words for infinity and for "not a number" are accepted in
any letter case. Only ASCII digits count. The value is the double nearest to
what is written.

## Main definitions

* `Number.ofDigits`: the value of a string of digits
* `Number.readFloat?`: a floating point number
* `Number.readInt?`: an integer in a given range
-/

namespace Questline.Number

/-- The value of a string of decimal digits. -/
def ofDigits (ds : List Char) : Nat :=
  ds.foldl (fun n c => 10 * n + (c.toNat - '0'.toNat)) 0

/-- A sign at the front, and what follows it; `true` stands for minus. -/
def sign : List Char → Bool × List Char
  | '-' :: r => (true, r)
  | '+' :: r => (false, r)
  | r => (false, r)

def digits? (ds : List Char) : Option Nat :=
  if ds.isEmpty || !ds.all Char.isDigit then none else some (ofDigits ds)

def signed? (t : List Char) : Option Int :=
  let (negative, ds) := sign t
  (digits? ds).map fun n => if negative then -(n : Int) else n

/-- The exponent part of a number; nothing at all stands for zero. -/
def exponent? : List Char → Option Int
  | [] => some 0
  | c :: r => if c == 'e' || c == 'E' then signed? r else none

/-- The double nearest to `m * 10 ^ e`. -/
def scaled (m : Nat) (e : Int) : Float :=
  Float.ofScientific m (e < 0) e.natAbs

/-- The digits after a decimal point, if there is one, and what follows them. -/
def fraction : List Char → List Char × List Char
  | '.' :: r => (r.takeWhile Char.isDigit, r.dropWhile Char.isDigit)
  | r => ([], r)

def magnitude? (t : List Char) : Option Float :=
  let whole := t.takeWhile Char.isDigit
  let (part, rest) := fraction (t.dropWhile Char.isDigit)
  if whole.isEmpty && part.isEmpty then none
  else (exponent? rest).map fun e => scaled (ofDigits (whole ++ part)) (e - part.length)

/-- Infinity, and the value that is not a number. -/
def word? (t : List Char) : Option Float :=
  let w := t.map Char.toLower
  if w == "inf".toList || w == "infinity".toList then some (1.0 / 0.0)
  else if w == "nan".toList then some (0.0 / 0.0)
  else none

def readFloat? (t : List Char) : Option Float :=
  let (negative, r) := sign t
  ((magnitude? r).or (word? r)).map fun x => if negative then -x else x

def readInt? (lo hi : Int) (t : List Char) : Option Int :=
  (signed? t).filter fun n => lo ≤ n ∧ n ≤ hi

end Questline.Number
