import Questline.Proofs.Requirement.Equality

/-!
# Gates as lists without duplicates

A gate never holds two equal requirements when it is built by adding requirements
one at a time.

## Main definitions

* `Gate.NaNFree`: the gate compares with nothing that is not a number
* `Gate.Distinct`: no two requirements of the gate are equal

## Main results

* `Gate.mem_extend`: what is in an extended gate comes from one of the two
* `Gate.Distinct.insertAll`, `Gate.Distinct.insertAt?`, `Gate.Distinct.eraseAt`: operations that
  keep a gate distinct
* `Gate.distinct_ofList`: a gate made from a list is distinct
* `Gate.insertAll_ofList`: leaving out repetitions first changes nothing
* `Gate.insertAll_of_distinct`: nor does adding requirements without repetitions leave any out
-/

namespace Questline

deriving instance DecidableEq for Gate

namespace Gate

variable {g g' : Gate} {r s : Requirement} {i : Nat}

/-- A gate whose comparands are all numbers or texts. -/
def NaNFree (g : Gate) : Prop :=
  ∀ r ∈ g.requirements, r.hasNaN = false

instance : Decidable g.NaNFree :=
  inferInstanceAs (Decidable (∀ r ∈ g.requirements, r.hasNaN = false))

/-- No two requirements of the gate are equal. -/
def Distinct (g : Gate) : Prop :=
  g.requirements.Pairwise fun r s => (r == s) = false

instance : Decidable g.Distinct :=
  inferInstanceAs (Decidable (g.requirements.Pairwise fun r s => (r == s) = false))

theorem contains_iff : g.contains r = true ↔ ∃ s ∈ g.requirements, (r == s) = true := by
  unfold contains
  rw [List.contains_eq_any_beq, List.any_eq_true]

theorem mem_insert (h : s ∈ (g.insert r).requirements) : s ∈ g.requirements ∨ s = r := by
  rw [insert_eq] at h
  split at h
  · exact .inl h
  · simpa using h

theorem mem_insertAll (rs : List Requirement) (h : s ∈ (g.insertAll rs).requirements) :
    s ∈ g.requirements ∨ s ∈ rs := by
  induction rs generalizing g with
  | nil => exact .inl h
  | cons r rs ih =>
    obtain hs | hs := ih h
    · obtain hs | rfl := mem_insert hs
      · exact .inl hs
      · exact .inr List.mem_cons_self
    · exact .inr (List.mem_cons_of_mem r hs)

/-- What is in an extended gate comes from one of the two. -/
theorem mem_extend (other : Gate) (h : s ∈ (g.extend other).requirements) :
    s ∈ g.requirements ∨ s ∈ other.requirements :=
  mem_insertAll other.requirements h

theorem NaNFree.extend {other : Gate} (hg : g.NaNFree) (ho : other.NaNFree) :
    (g.extend other).NaNFree := fun s hs => (mem_extend other hs).elim (hg s) (ho s)

theorem Distinct.insertAt? (hd : g.Distinct) (hg : g.insertAt? i r = some g') : g'.Distinct := by
  unfold Gate.insertAt? at hg
  split at hg
  · cases hg
  · next hc =>
    cases hg
    have hr : ∀ s ∈ g.requirements, (r == s) = false := by
      intro s hs
      rw [← Bool.not_eq_true]
      exact fun hrs => hc (contains_iff.2 ⟨s, hs, hrs⟩)
    have hperm : (g.requirements.take i ++ r :: g.requirements.drop i).Perm
        (r :: g.requirements) := by
      apply List.perm_middle.trans
      rw [List.take_append_drop]
    exact (hperm.pairwise_iff fun h => Requirement.beq_comm.trans h).2
      (List.Pairwise.cons hr hd)

theorem Distinct.insert (hd : g.Distinct) (r : Requirement) : (g.insert r).Distinct := by
  rw [insert_eq]
  split
  · exact hd
  · next hc =>
    refine List.pairwise_append.2 ⟨hd, List.pairwise_singleton _ r, ?_⟩
    intro s hs r' hr'
    obtain rfl := List.mem_singleton.1 hr'
    rw [← Bool.not_eq_true]
    exact fun hsr => hc (contains_iff.2 ⟨s, hs, Requirement.beq_symm hsr⟩)

theorem Distinct.insertAll (hd : g.Distinct) (rs : List Requirement) :
    (g.insertAll rs).Distinct := by
  induction rs generalizing g with
  | nil => exact hd
  | cons r rs ih => exact ih (hd.insert r)

/-- A gate made from a list is distinct, whatever the list. -/
theorem distinct_ofList (rs : List Requirement) : (ofList rs).Distinct := by
  have hempty : ({} : Gate).Distinct := List.Pairwise.nil
  exact hempty.insertAll rs

theorem insertAll_append (g : Gate) (rs ss : List Requirement) :
    g.insertAll (rs ++ ss) = (g.insertAll rs).insertAll ss :=
  List.foldl_append

/-- What is added does not depend on the block that a gate leads to. -/
theorem requirements_insertAll_congr {g h : Gate} (hg : g.requirements = h.requirements)
    (rs : List Requirement) : (g.insertAll rs).requirements = (h.insertAll rs).requirements := by
  induction rs generalizing g h with
  | nil => exact hg
  | cons r rs ih =>
    refine ih ?_
    rw [insert_eq, insert_eq, contains, contains, hg]
    split
    · exact hg
    · rfl

theorem eq_of_requirements {h : Gate} (hr : g.requirements = h.requirements)
    (hb : g.block = h.block) : g = h := by
  cases g
  cases h
  cases hr
  cases hb
  rfl

/-! ### Repetitions -/

theorem contains_congr (h : (r == s) = true) (hs : g.contains s = true) : g.contains r = true := by
  obtain ⟨q, hq, hsq⟩ := contains_iff.1 hs
  exact contains_iff.2 ⟨q, hq, Requirement.beq_trans h hsq⟩

theorem contains_insertAll (hr : g.contains r = true) (rs : List Requirement) :
    (g.insertAll rs).contains r = true := by
  obtain ⟨s, hs, hrs⟩ := contains_iff.1 hr
  exact contains_iff.2 ⟨s, (isPrefix_requirements_insertAll g rs).subset hs, hrs⟩

/-- What was added is there, if it equals itself at all. -/
theorem contains_insertAll_of_mem {rs : List Requirement} (hr : r ∈ rs) (hself : (r == r) = true) :
    (g.insertAll rs).contains r = true := by
  induction rs generalizing g with
  | nil => cases hr
  | cons s rs ih =>
    obtain rfl | hr := List.mem_cons.1 hr
    · have hins : (g.insert r).contains r = true := by
        rw [insert_eq]
        split
        · assumption
        · exact contains_iff.2 ⟨r, List.mem_append_right _ List.mem_cons_self, hself⟩
      exact contains_insertAll hins rs
    · exact ih hr

/-- A requirement that one gate has already says nothing new where all of that gate is added. -/
theorem insertAll_insert (g h : Gate) (r : Requirement) :
    g.insertAll (h.insert r).requirements = (g.insertAll h.requirements).insert r := by
  by_cases hc : h.contains r = true
  · obtain ⟨s, hs, hrs⟩ := contains_iff.1 hc
    have hself : (s == s) = true := Requirement.beq_trans (Requirement.beq_symm hrs) hrs
    have hthere : (g.insertAll h.requirements).contains r = true :=
      contains_congr hrs (contains_insertAll_of_mem hs hself)
    rw [insert_eq h, if_pos hc, insert_eq, if_pos hthere]
  · rw [insert_eq h, if_neg hc, insertAll_append]
    rfl

theorem insertAll_requirements (g h : Gate) (rs : List Requirement) :
    g.insertAll (h.insertAll rs).requirements = (g.insertAll h.requirements).insertAll rs := by
  induction rs generalizing h with
  | nil => rfl
  | cons r rs ih =>
    have hr := congrArg (insertAll · rs) (insertAll_insert g h r)
    exact (ih (h.insert r)).trans hr

/-- Leaving out repetitions before adding requirements changes nothing. -/
theorem insertAll_ofList (g : Gate) (rs : List Requirement) :
    g.insertAll (ofList rs).requirements = g.insertAll rs :=
  insertAll_requirements g {} rs

/-- Requirements without repetitions are all added, if none of them is there yet. -/
theorem insertAll_of_distinct {rs : List Requirement}
    (hd : ({ g with requirements := g.requirements ++ rs } : Gate).Distinct) :
    g.insertAll rs = { g with requirements := g.requirements ++ rs } := by
  induction rs generalizing g with
  | nil => simp [insertAll]
  | cons r rs ih =>
    have hnew : ¬g.contains r = true := fun hc => by
      obtain ⟨s, hs, hrs⟩ := contains_iff.1 hc
      have hsr := (List.pairwise_append.1 hd).2.2 s hs r List.mem_cons_self
      exact Bool.false_ne_true (hsr.symm.trans (Requirement.beq_symm hrs))
    have hins : g.insert r = { g with requirements := g.requirements ++ [r] } := by
      rw [insert_eq, if_neg hnew]
    have hrest : (g.insert r).requirements ++ rs = g.requirements ++ r :: rs := by
      rw [hins, List.append_assoc, List.singleton_append]
    show (g.insert r).insertAll rs = _
    rw [ih (by rw [hrest, Distinct]; exact hd), hrest, hins]

theorem Distinct.eraseAt (hd : g.Distinct) (i : Nat) : (g.eraseAt i).Distinct :=
  List.Pairwise.sublist (List.eraseIdx_sublist g.requirements i) hd

end Gate

end Questline
