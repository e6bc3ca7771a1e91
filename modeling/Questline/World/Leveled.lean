import Questline.Names
import Questline.Records.Basic

/-!
# Flattening leveled lists

A leveled list can have other lists as members, and even itself. Its flat members
are all that can be reached through lists and is no list.

## Main definitions

* `LeveledLists`: the lists, and the flat members found so far
* `LeveledLists.walk`: all flat members that can be reached from some lists
* `LeveledLists.flatten`: the flat members of a list
-/

namespace Questline

/-- Leveled lists by their ids in lower case, and the flat members of those that
were asked for. -/
structure LeveledLists where
  lists : Std.ExtTreeMap String (List String) := ∅
  flattened : Std.ExtTreeMap String Names := ∅

/-- A walk through leveled lists: the lists met, those still to be looked at, and
the flat members found. -/
structure LeveledWalk where
  met : List String
  pending : List String
  flat : Names := ∅

namespace LeveledLists

/-- The lists of some records; of two with one id the later counts. -/
def ofRecords (records : List LeveledList) : LeveledLists where
  lists := Std.ExtTreeMap.ofList
    (records.map fun l => (l.id.toLower, l.members.map String.toLower))

variable (ls : LeveledLists)

def isList (id : String) : Bool :=
  ls.lists.contains id.toLower

def visit (w : LeveledWalk) (member : String) : LeveledWalk :=
  match ls.flattened[member]? with
  | some done => { w with flat := w.flat.insertMany done.toList }
  | none =>
    if member ∈ ls.lists then
      if member ∈ w.met then w
      else { w with met := member :: w.met, pending := member :: w.pending }
    else { w with flat := w.flat.insert member }

/-- The number of lists that were not met yet. -/
def unmet (met : List String) : Nat :=
  ls.lists.keys.countP (!met.contains ·)

/-- A list that is met for the first time is one less to meet. -/
theorem unmet_cons_lt {met : List String} {x : String} (h : x ∈ ls.lists) (hm : x ∉ met) :
    ls.unmet (x :: met) < ls.unmet met := by
  have hx : x ∈ ls.lists.keys := Std.ExtTreeMap.mem_keys.2 h
  unfold unmet
  generalize ls.lists.keys = ks at hx
  induction ks with
  | nil => cases hx
  | cons k ks ih =>
    have hle : ks.countP (fun y => !(x :: met).contains y) ≤ ks.countP (fun y => !met.contains y) :=
      List.countP_mono_left fun y _ => by simp
    rw [List.countP_cons, List.countP_cons]
    rcases List.mem_cons.1 hx with rfl | hx
    · have h₁ : (!(x :: met).contains x) = false := by simp
      have h₂ : (!met.contains x) = true := by simpa using hm
      rw [h₁, h₂]
      simp only [Bool.false_eq_true, if_false, if_true]
      omega
    · have := ih hx
      have hk : (if (!(x :: met).contains k) = true then 1 else 0) ≤
          (if (!met.contains k) = true then 1 else 0) := by
        by_cases hk : k ∈ met <;> by_cases hkx : k = x <;> simp [hk, hkx]
      omega

/-- Every list that a visit adds to those pending is one less to meet. -/
theorem visit_bound (w : LeveledWalk) (member : String) :
    2 * ls.unmet (ls.visit w member).met + (ls.visit w member).pending.length ≤
      2 * ls.unmet w.met + w.pending.length := by
  unfold visit
  split
  · exact Nat.le_refl _
  · split
    · split
      · exact Nat.le_refl _
      · rename_i h hm
        have := ls.unmet_cons_lt h hm
        simp only [List.length_cons]
        omega
    · exact Nat.le_refl _

theorem foldl_visit_bound (members : List String) (w : LeveledWalk) :
    2 * ls.unmet (members.foldl ls.visit w).met + (members.foldl ls.visit w).pending.length ≤
      2 * ls.unmet w.met + w.pending.length := by
  induction members generalizing w with
  | nil => exact Nat.le_refl _
  | cons m ms ih => exact Nat.le_trans (ih (ls.visit w m)) (ls.visit_bound w m)

/-- Look at the pending lists until none is left, the last one met first. -/
def walk (w : LeveledWalk) : Names :=
  match w with
  | ⟨_, [], flat⟩ => flat
  | ⟨met, l :: rest, flat⟩ =>
    have := ls.foldl_visit_bound ((ls.lists[l]?).getD []) ⟨met, rest, flat⟩
    walk (((ls.lists[l]?).getD []).foldl ls.visit ⟨met, rest, flat⟩)
termination_by 2 * ls.unmet w.met + w.pending.length
decreasing_by
  simp only [List.length_cons] at *
  omega

/-- The flat members of a list, or the id itself if it names no list; the answer
for a list is remembered. -/
def flatten (id : String) : Names × LeveledLists :=
  let id := id.toLower
  match ls.flattened[id]? with
  | some done => (done, ls)
  | none =>
    if id ∈ ls.lists then
      let flat := ls.walk { met := [id], pending := [id] }
      (flat, { ls with flattened := ls.flattened.insert id flat })
    else
      (Std.ExtTreeSet.ofList [id], ls)

end LeveledLists

end Questline
