import Std.Data.ExtTreeMap
import Questline.Names

/-!
# Objects of the world

What an object is, which quests it matters to, what it contains and what contains
it.

## Main definitions

* `ObjectKind`: what an object is
* `Mention`: a stage that mentions an object
* `Edge`: how much of one object another one contains
* `WorldObject`: an object
-/

namespace Questline

inductive ObjectKind where
  | object
  | owner
  | dialogue
  | script
  | localVariable
deriving Repr, DecidableEq

namespace ObjectKind

def word : ObjectKind → String
  | object => "object"
  | owner => "owner"
  | dialogue => "dialogue"
  | script => "script"
  | localVariable => "local"

def ofWord? (w : String) : Option ObjectKind :=
  [object, owner, dialogue, script, localVariable].find? (·.word == w)

/-- What an object is after it is registered as `new`: a generic object only takes
the place of an owner, everything else takes the place of anything. -/
def update (old new : ObjectKind) : ObjectKind :=
  if new = object ∧ old ≠ owner then old else new

end ObjectKind

/-- A stage of a quest that mentions an object. -/
structure Mention where
  quest : String
  index : Int
deriving Repr, DecidableEq

namespace Mention

/-- Mentions are ordered by quest, then by index. -/
instance : Ord Mention where
  compare := compareLex (compareOn (·.quest)) (compareOn (·.index))

instance : Std.TransOrd Mention :=
  inferInstanceAs (Std.TransCmp (compareLex (compareOn Mention.quest) (compareOn Mention.index)))

instance : Std.LawfulEqOrd Mention where
  eq_of_compare {a b} h := by
    have h' : (compare a.quest b.quest).then (compare a.index b.index) = .eq := h
    rw [Ordering.then_eq_eq] at h'
    cases a
    cases b
    simp_all

end Mention

/-- How much of one object another one contains. -/
structure Edge where
  count : Nat := 0
  /-- The count weighted by the chance of being present. -/
  weighted : Float := 0.0
  chance : Float := 0.0

namespace Edge

/-- The larger of two numbers; one that is not a number does not count. -/
def larger (x y : Float) : Float :=
  if x.isNaN then y else if y.isNaN then x else if x < y then y else x

/-- Add copies that are present with a chance. -/
def add (e : Edge) (count : Nat) (chance : Float) : Edge where
  count := e.count + count
  weighted := e.weighted + Float.ofNat count * chance
  chance := larger e.chance chance

end Edge

structure WorldObject where
  id : String
  kind : ObjectKind := .object
  /-- The stages whose requirements mention the object. -/
  involved : Std.ExtTreeSet Mention := ∅
  starts : Names := ∅
  contains : Std.ExtTreeMap String Edge := ∅
  containedIn : Std.ExtTreeMap String Edge := ∅
  /-- How often the object is placed in the world. -/
  positions : Nat := 0
  /-- An estimate of how many there are, placed or carried. -/
  total : Float := 0.0

end Questline
