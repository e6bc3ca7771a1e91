import Questline.Requirement.Basic

/-!
# Gates

A gate is the list of requirements that must all hold, in the order in which they
were met, without one that equals an earlier one. It remembers the script block
it was collected for.

## Main definitions

* `Gate`: a list of requirements and the block they lead to
* `Gate.insert`, `Gate.insertAt`, `Gate.extend`: adding requirements not yet there
* `Gate.describe`: how a gate is shown
-/

namespace Questline

/-- Requirements that must all hold. -/
structure Gate where
  requirements : List Requirement := []
  /-- The block that the requirements lead to. -/
  block : Option Nat := none

namespace Gate

instance : Inhabited Gate := ⟨{}⟩

/-- Equality of the requirements; the block does not count. -/
instance : BEq Gate where
  beq a b := a.requirements == b.requirements

def forBlock (block : Nat) : Gate :=
  { block := some block }

def size (g : Gate) : Nat :=
  g.requirements.length

def isEmpty (g : Gate) : Bool :=
  g.requirements.isEmpty

def get? (g : Gate) (i : Nat) : Option Requirement :=
  g.requirements[i]?

def contains (g : Gate) (r : Requirement) : Bool :=
  g.requirements.contains r

/-- The gate with `r` before position `i`, or at the end if it is not that long;
nothing if it has `r` already. -/
def insertAt? (g : Gate) (i : Nat) (r : Requirement) : Option Gate :=
  if g.contains r then none
  else some { g with requirements := g.requirements.take i ++ r :: g.requirements.drop i }

/-- The gate with `r` at the end; nothing if it has `r` already. -/
def insert? (g : Gate) (r : Requirement) : Option Gate :=
  if g.contains r then none else some { g with requirements := g.requirements ++ [r] }

/-- Add `r` at the end unless it is there. -/
def insert (g : Gate) (r : Requirement) : Gate :=
  (g.insert? r).getD g

/-- Add `r` before position `i` unless it is there. -/
def insertAt (g : Gate) (i : Nat) (r : Requirement) : Gate :=
  (g.insertAt? i r).getD g

/-- Add the requirements `rs` in order, each unless it is there. -/
def insertAll (g : Gate) (rs : List Requirement) : Gate :=
  rs.foldl insert g

def extend (g other : Gate) : Gate :=
  g.insertAll other.requirements

/-- The gate of a list of requirements, without those that equal an earlier one. -/
def ofList (rs : List Requirement) : Gate :=
  insertAll {} rs

def eraseAt (g : Gate) (i : Nat) : Gate :=
  { g with requirements := g.requirements.eraseIdx i }

def filter (g : Gate) (keep : Requirement → Bool) : Gate :=
  { g with requirements := g.requirements.filter keep }

def describe (g : Gate) : String :=
  "[" ++ " && ".intercalate (g.requirements.map (·.describe)) ++ "]"

theorem insert_eq (g : Gate) (r : Requirement) :
    g.insert r =
      if g.contains r then g else { g with requirements := g.requirements ++ [r] } := by
  unfold insert insert?
  split <;> rfl

@[simp] theorem block_insert (g : Gate) (r : Requirement) : (g.insert r).block = g.block := by
  rw [insert_eq]
  split <;> rfl

@[simp] theorem block_insertAll (g : Gate) (rs : List Requirement) :
    (g.insertAll rs).block = g.block := by
  induction rs generalizing g with
  | nil => rfl
  | cons r rs ih => exact (ih (g.insert r)).trans (block_insert g r)

@[simp] theorem block_extend (g other : Gate) : (g.extend other).block = g.block :=
  block_insertAll g other.requirements

/-- Adding requirements keeps those that are there in front. -/
theorem isPrefix_requirements_insertAll (g : Gate) (rs : List Requirement) :
    g.requirements <+: (g.insertAll rs).requirements := by
  induction rs generalizing g with
  | nil => exact List.prefix_rfl
  | cons r rs ih =>
    have h : g.requirements <+: (g.insert r).requirements := by
      rw [insert_eq]
      split
      · exact List.prefix_rfl
      · exact List.prefix_append _ _
    exact h.trans (ih (g.insert r))

end Gate

end Questline
