import Mathlib.Data.List.Induction
import Questline.Proofs.Requirement.Gate

/-!
# Any edits of a gate

A gate stays a list of requirements without two equal ones whatever is done to it, and leads to the
same block. Since a requirement whose comparand is not a number differs from itself, it is no
duplicate of itself either, and can be added again and again.

## Main definitions

* `Gate.Edit`, `Gate.editAll`: a gate that is edited step by step
* `Gate.fresh`: the requirements of a list that say something new

## Main results

* `Gate.Distinct.edit`: one more edit
* `Gate.contains_insertAll_eq_any`: what a gate has after requirements were added
* `Gate.requirements_insertAll`: which of them were added
* `Gate.distinct_editAll`: a gate after any edits
-/

namespace Questline

namespace Gate

/-- What can be done to a gate. -/
inductive Edit where
  | insert (r : Requirement)
  | insertAt (i : Nat) (r : Requirement)
  | extend (other : Gate)
  | eraseAt (i : Nat)
  | filter (keep : Requirement → Bool)

/-- The gate after an edit. -/
def edit (g : Gate) : Edit → Gate
  | .insert r => g.insert r
  | .insertAt i r => g.insertAt i r
  | .extend other => g.extend other
  | .eraseAt i => g.eraseAt i
  | .filter keep => g.filter keep

/-- The gate after some edits, in order. -/
def editAll (g : Gate) (es : List Edit) : Gate :=
  es.foldl edit g

/-- The requirements among `rs` that equal none of `earlier` and none before them among `rs`. -/
def fresh (earlier rs : List Requirement) : List Requirement :=
  (rs.zipIdx.filter fun p => !(earlier ++ rs.take p.2).any (· == p.1)).map Prod.fst

/-- What it means to put `r` into a gate at position `i` unless the gate has one that equals it: the
answer says whether this was done, and the gate is `after` then. -/
structure Puts (g : Gate) (i : Nat) (r : Requirement) (answer : Bool) (after : Gate) : Prop where
  block_eq : after.block = g.block
  answer_iff : answer = true ↔ ∀ s ∈ g.requirements, (s == r) = false
  grown_iff : answer = true ↔ after.requirements = g.requirements.insertIdx i r
  refused (h : answer = false) : after = g

variable {g : Gate}

/-! ### One requirement -/

/-- To stand before a position past the end is to stand at the end. -/
theorem take_append_cons_drop (rs : List Requirement) (i : Nat) (r : Requirement) :
    rs.take i ++ r :: rs.drop i = rs.insertIdx (min i rs.length) r := by
  induction rs generalizing i with
  | nil => simp
  | cons s rs ih =>
    cases i with
    | zero => simp
    | succ i =>
      rw [List.take_succ_cons, List.drop_succ_cons, List.cons_append, ih, List.length_cons,
        Nat.succ_min_succ, List.insertIdx_succ_cons]

theorem insertAt_eq (g : Gate) (i : Nat) (r : Requirement) : g.insertAt i r =
    if g.contains r then g
    else { g with requirements := g.requirements.insertIdx (min i g.size) r } := by
  unfold insertAt insertAt?
  split
  · rfl
  · rw [Option.getD_some, take_append_cons_drop, size]

theorem contains_eq_any (g : Gate) (r : Requirement) :
    g.contains r = g.requirements.any (· == r) := by
  unfold contains
  rw [List.contains_eq_any_beq]
  congr 1
  funext s
  exact Requirement.beq_comm

theorem puts_insertAt (g : Gate) (i : Nat) (r : Requirement) :
    g.Puts (min i g.size) r (g.insertAt? i r).isSome (g.insertAt i r) := by
  have hanswer : (g.insertAt? i r).isSome = !g.contains r := by
    unfold insertAt?
    cases g.contains r <;> rfl
  have hnone : (!g.contains r) = true ↔ ∀ s ∈ g.requirements, (s == r) = false := by
    rw [contains_eq_any, List.not_any_eq_all_not, List.all_eq_true]
    simp only [Bool.not_eq_true']
  rw [hanswer, insertAt_eq]
  cases hr : g.contains r with
  | false =>
    rw [hr] at hnone
    exact ⟨rfl, hnone, iff_of_true rfl rfl, fun h => nomatch h⟩
  | true =>
    rw [hr] at hnone
    have hgrown : g.requirements ≠ g.requirements.insertIdx (min i g.size) r := by
      intro h
      have hlength := congrArg List.length h
      rw [List.length_insertIdx_of_le_length (Nat.min_le_right i g.size)] at hlength
      exact Nat.ne_of_lt (Nat.lt_succ_self _) hlength
    exact ⟨rfl, hnone, iff_of_false Bool.false_ne_true hgrown, fun _ => rfl⟩

/-- To put a requirement behind all others is to put it before the position past the end. -/
theorem insert?_eq_insertAt? (g : Gate) (r : Requirement) : g.insert? r = g.insertAt? g.size r := by
  rw [insert?, insertAt?, size, List.take_length, List.drop_length]

theorem puts_insert (g : Gate) (r : Requirement) :
    g.Puts g.size r (g.insert? r).isSome (g.insert r) := by
  have hputs := g.puts_insertAt g.size r
  rwa [Nat.min_self, insertAt, ← insert?_eq_insertAt?] at hputs

/-! ### Any edits -/

theorem Distinct.edit (hd : g.Distinct) (e : Edit) : (g.edit e).Distinct := by
  cases e with
  | insert r => exact hd.insert r
  | insertAt i r =>
    rw [Gate.edit, Gate.insertAt]
    cases h : g.insertAt? i r with
    | none => exact hd
    | some g' => exact hd.insertAt? h
  | extend other => exact hd.insertAll other.requirements
  | eraseAt i => exact hd.eraseAt i
  | filter keep => exact hd.sublist List.filter_sublist

theorem block_edit (g : Gate) (e : Edit) : (g.edit e).block = g.block := by
  cases e with
  | insert r => exact g.block_insert r
  | insertAt i r =>
    rw [edit, insertAt_eq]
    split <;> rfl
  | extend other => exact g.block_extend other
  | eraseAt i => rfl
  | filter keep => rfl

theorem Distinct.editAll (hd : g.Distinct) (es : List Edit) : (g.editAll es).Distinct := by
  induction es generalizing g with
  | nil => exact hd
  | cons e es ih => exact ih (hd.edit e)

theorem block_editAll (g : Gate) (es : List Edit) : (g.editAll es).block = g.block := by
  induction es generalizing g with
  | nil => rfl
  | cons e es ih => exact (ih (g.edit e)).trans (g.block_edit e)

/-! ### Many requirements -/

theorem contains_insert (g : Gate) (r s : Requirement) :
    (g.insert r).contains s = (g.contains s || r == s) := by
  rw [insert_eq]
  split
  · next hr =>
    -- what equals the requirement that is there is there as well
    cases hrs : r == s with
    | false => rw [Bool.or_false]
    | true => rw [contains_congr (Requirement.beq_symm hrs) hr, Bool.true_or]
  · rw [contains_eq_any, contains_eq_any, List.any_append, List.any_cons, List.any_nil,
      Bool.or_false]

/-- After requirements were added, a gate has what equals one that was there or one of them. -/
theorem contains_insertAll_eq_any (g : Gate) (rs : List Requirement) (s : Requirement) :
    (g.insertAll rs).contains s = (g.requirements ++ rs).any (· == s) := by
  induction rs generalizing g with
  | nil => rw [List.append_nil, ← contains_eq_any, insertAll, List.foldl_nil]
  | cons r rs ih =>
    have hstep : (g.insertAll (r :: rs)).contains s = ((g.insert r).requirements ++ rs).any (· == s) :=
      ih (g.insert r)
    rw [hstep, List.any_append, ← contains_eq_any, contains_insert, contains_eq_any, List.any_append,
      List.any_cons, Bool.or_assoc]

theorem fresh_concat (earlier rs : List Requirement) (r : Requirement) :
    fresh earlier (rs ++ [r]) =
      fresh earlier rs ++ if (earlier ++ rs).any (· == r) then [] else [r] := by
  have hfront : (rs.zipIdx.filter fun p => !(earlier ++ (rs ++ [r]).take p.2).any (· == p.1)) =
      rs.zipIdx.filter fun p => !(earlier ++ rs.take p.2).any (· == p.1) := by
    refine List.filter_congr fun p hp => ?_
    have hlt : p.2 < rs.length := by
      simpa using List.snd_lt_add_of_mem_zipIdx hp
    rw [List.take_append_of_le_length (Nat.le_of_lt hlt)]
  have hback : (rs ++ [r]).take (0 + rs.length) = rs := by
    rw [Nat.zero_add, List.take_left]
  rw [fresh, fresh, List.zipIdx_append, List.filter_append, List.map_append, hfront,
    List.zipIdx_singleton, List.filter_cons, List.filter_nil]
  dsimp only
  rw [hback]
  cases (earlier ++ rs).any (· == r) <;> rfl

/-- Added to a gate are the requirements that say something new, in order. -/
theorem requirements_insertAll (g : Gate) (rs : List Requirement) :
    (g.insertAll rs).requirements = g.requirements ++ fresh g.requirements rs := by
  induction rs using List.reverseRecOn with
  | nil => simp [insertAll, fresh]
  | append_singleton rs r ih =>
    have hstep : g.insertAll (rs ++ [r]) = (g.insertAll rs).insert r := insertAll_append g rs [r]
    rw [hstep, insert_eq, contains_insertAll_eq_any, fresh_concat, ← List.append_assoc, ← ih]
    split
    · rw [List.append_nil]
    · rfl

theorem extend_extend (g h k : Gate) : (g.extend h).extend k = g.extend (h.extend k) :=
  (insertAll_requirements g h k.requirements).symm

/-- Every gate without two equal requirements can be made by edits of an empty one. -/
theorem Distinct.exists_editAll (hd : g.Distinct) :
    ∃ es, g = ({ block := g.block } : Gate).editAll es := by
  refine ⟨g.requirements.map .insert, ?_⟩
  have hadded : ({ block := g.block } : Gate).insertAll g.requirements = g :=
    insertAll_of_distinct hd
  rw [Gate.editAll, List.foldl_map]
  exact hadded.symm

/-- A gate that was empty, and then edited in any way, has no two equal requirements and leads to the
same block as before. It may lose any of its requirements, chosen by a test that remembers what it
has seen, and is one of these gates still. A requirement is put in, before the position that was asked
for or at the end if the gate is not that long, exactly when the gate has none that equals it, and the
answer says so. To extend a gate leaves what it has in front and puts behind it, in order, what is
new; to extend it by one gate and then by another is to extend it by the first, extended by the other.
A gate made from a list is one of those that was empty before. -/
theorem distinct_editAll (block : Option Nat) (es : List Edit) :
    let g := ({ block := block } : Gate).editAll es
    (g.Distinct ∧ g.block = block) ∧
    (∀ rs : List Requirement, rs.Sublist g.requirements →
      ∃ es', { g with requirements := rs } = ({ block := block } : Gate).editAll es') ∧
    (∀ r, g.Puts g.size r (g.insert? r).isSome (g.insert r)) ∧
    (∀ i r, g.Puts (min i g.size) r (g.insertAt? i r).isSome (g.insertAt i r)) ∧
    (∀ h : Gate, (g.extend h).requirements =
      g.requirements ++ fresh g.requirements h.requirements) ∧
    (∀ h k : Gate, (g.extend h).extend k = g.extend (h.extend k)) ∧
    ∀ rs : List Requirement, ofList rs = ({} : Gate).editAll (rs.map .insert) := by
  intro g
  have hempty : ({ block := block } : Gate).Distinct := List.Pairwise.nil
  have hd : g.Distinct := hempty.editAll es
  have hblock : g.block = block := block_editAll _ es
  refine ⟨⟨hd, hblock⟩, fun rs hrs => ?_, g.puts_insert, g.puts_insertAt, fun h => ?_,
    g.extend_extend, fun rs => ?_⟩
  · have hkept : ({ g with requirements := rs } : Gate).Distinct := hd.sublist hrs
    obtain ⟨es', hes'⟩ := hkept.exists_editAll
    exact ⟨es', hblock ▸ hes'⟩
  · exact g.requirements_insertAll h.requirements
  · exact (List.foldl_map (f := Edit.insert) (g := edit)).symm

end Gate

end Questline
