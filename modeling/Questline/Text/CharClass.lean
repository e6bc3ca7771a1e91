/-!
# Character classes

A class of characters is written down as the code points at which membership
changes, in increasing order: the first is in, the second is out again, and so
on. Tables of Unicode properties then stay short, and an ASCII character is
settled by the first few entries.

## Main definitions

* `CharClass`: a set of characters, by its boundaries
* `CharClass.contains`: membership
* `CharClass.blank`: the property White_Space
-/

namespace Questline

/-- A set of characters: `bounds` lists the code points at which membership
changes, starting outside the set. -/
structure CharClass where
  bounds : List Nat
deriving Repr, DecidableEq

namespace CharClass

/-- A character is in the class when an odd number of changes lie at or below it. -/
def contains (k : CharClass) (c : Char) : Bool :=
  (k.bounds.takeWhile (· ≤ c.toNat)).length % 2 == 1

def blank : CharClass where
  bounds := [0x9, 0xE, 0x20, 0x21, 0x85, 0x86, 0xA0, 0xA1, 0x1680, 0x1681, 0x2000, 0x200B,
    0x2028, 0x202A, 0x202F, 0x2030, 0x205F, 0x2060, 0x3000, 0x3001]

end CharClass

def isBlank (c : Char) : Bool :=
  CharClass.blank.contains c

def trimStart (t : List Char) : List Char :=
  t.dropWhile isBlank

def trimEnd (t : List Char) : List Char :=
  (t.reverse.dropWhile isBlank).reverse

def trim (t : List Char) : List Char :=
  trimEnd (trimStart t)

@[simp] theorem trim_nil : trim [] = [] := rfl

theorem trimStart_cons_of_not_isBlank {c : Char} {t : List Char} (h : isBlank c = false) :
    trimStart (c :: t) = c :: t := by
  simp [trimStart, h]

/-- What follows the white space at the front does not start with any. -/
theorem head_trimStart_not_isBlank {t : List Char} {c : Char} (h : (trimStart t).head? = some c) :
    isBlank c = false := by
  have hd := List.head?_dropWhile_not isBlank t
  rw [show t.dropWhile isBlank = trimStart t from rfl, h] at hd
  exact hd

end Questline
