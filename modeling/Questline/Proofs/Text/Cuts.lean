import Questline.Text.Quoted
import Questline.Text.Split

/-!
# Cutting texts that were put together

What is cut off the front of a text that starts with a piece of one class of characters, or
with a quoted string.

## Main results

* `takeWhile_append_of_stop`, `dropWhile_append_of_stop`: a piece that cannot go on
* `head?_runs`: the first cut after characters of two classes
* `mem_runs_iff`, `pairwise_runs`: all such cuts, and their order
* `exists_of_mem_runs`: every cut of a text that starts with a piece that cannot go on
* `quoted?_append`, `stringToken?_append`: strings in double quotes
-/

namespace Questline

variable {p q : Char → Bool} {w t u : List Char}

/-- A list is gone through to decide something about its members, rather than all characters
that there are. -/
theorem forall_mem_of_all {α : Type} {P : α → Prop} [DecidablePred P] {l : List α}
    (h : l.all (fun a => decide (P a)) = true) : ∀ a ∈ l, P a :=
  fun a ha => of_decide_eq_true (List.all_eq_true.1 h a ha)

/-! ### One class -/

theorem takeWhile_append_of_stop (hw : ∀ c ∈ w, p c = true) (ht : ∀ c ∈ t.head?, p c = false) :
    (w ++ t).takeWhile p = w := by
  rw [List.takeWhile_append_of_pos hw]
  cases t with
  | nil => simp
  | cons c t => simp [ht c rfl]

theorem dropWhile_append_of_stop (hw : ∀ c ∈ w, p c = true) (ht : ∀ c ∈ t.head?, p c = false) :
    (w ++ t).dropWhile p = t := by
  rw [List.dropWhile_append_of_pos hw]
  cases t with
  | nil => rfl
  | cons c t => simp [ht c rfl]

/-- The piece of one class at the front of a text, up to where it cannot go on. -/
theorem exists_append_stop (p : Char → Bool) (t : List Char) :
    ∃ w u, t = w ++ u ∧ (∀ c ∈ w, p c = true) ∧ ∀ c ∈ u.head?, p c = false := by
  refine ⟨t.takeWhile p, t.dropWhile p, List.takeWhile_append_dropWhile.symm, ?_, ?_⟩
  · exact List.all_eq_true.1 List.all_takeWhile
  · intro c hc
    have hnot := List.head?_dropWhile_not p t
    rwa [hc] at hnot

/-- A piece of one class in front of a text, and the rest of the piece with the text after it. -/
theorem exists_append_of_append_eq (hu : ∀ c ∈ u, p c = true) (ht : ∀ c ∈ t.head?, p c = false)
    {r : List Char} (h : u ++ r = w ++ t) : ∃ v, w = u ++ v ∧ r = v ++ t := by
  obtain ⟨v, hw, hr⟩ | ⟨v, hu', ht'⟩ := List.append_eq_append_iff.1 h
  · exact ⟨v, hw, hr⟩
  · cases v with
    | nil => exact ⟨[], by simpa using hu'.symm, by simpa using ht'.symm⟩
    | cons c v =>
      rw [ht'] at ht
      have hc := hu c (hu' ▸ List.mem_append_right w List.mem_cons_self)
      exact absurd (ht c rfl) (by simp [hc])

/-- The first cut takes all of a piece of one class. -/
theorem head?_splits_of_all (hw : ∀ c ∈ w, p c = true) :
    (splits p w).head? = some (w, []) := by
  have htake := takeWhile_append_of_stop (t := []) hw (by simp)
  have hdrop := dropWhile_append_of_stop (t := []) hw (by simp)
  rw [List.append_nil] at htake hdrop
  rw [head?_splits, htake, hdrop]

/-- A piece that goes on with one more character can do without it. -/
theorem splits_append_cons {c : Char} (hw : ∀ c ∈ w, p c = true) (hc : p c = true)
    (ht : ∀ c ∈ t.head?, p c = false) :
    splits p (w ++ c :: t) =
      (w ++ [c], t) :: (splits p w).map (fun s => (s.1, s.2 ++ c :: t)) := by
  have hstop : splits p t = [([], t)] := by
    cases t with
    | nil => rfl
    | cons d t => rw [splits, if_neg (by simp [ht d rfl])]
  induction w with
  | nil => simp [splits, hc, hstop]
  | cons a w ih =>
    rw [List.forall_mem_cons] at hw
    simp [splits, hw.1, ih hw.2]

theorem mem_splits_iff {s : List Char × List Char} :
    s ∈ splits p t ↔ s.1 ++ s.2 = t ∧ ∀ c ∈ s.1, p c = true := by
  refine ⟨fun h => ⟨append_of_mem_splits h, List.all_eq_true.1 (all_of_mem_splits h)⟩, ?_⟩
  obtain ⟨w, u⟩ := s
  rintro ⟨rfl, hw⟩
  dsimp only at hw ⊢
  induction w with
  | nil =>
    -- cutting off nothing is the last choice
    rw [List.nil_append]
    cases u with
    | nil => exact List.mem_singleton_self _
    | cons c u =>
      rw [splits]
      split
      · exact List.mem_append_right _ (List.mem_singleton_self _)
      · exact List.mem_singleton_self _
  | cons c w ih =>
    obtain ⟨hc, hw⟩ := List.forall_mem_cons.1 hw
    rw [List.cons_append, splits, if_pos hc]
    exact List.mem_append_left _ (List.mem_map_of_mem (ih hw))

/-- Longer cuts come first. -/
theorem pairwise_splits (p : Char → Bool) (t : List Char) :
    (splits p t).Pairwise fun s s' => s'.1.length < s.1.length := by
  induction t with
  | nil => exact List.pairwise_singleton _ _
  | cons c t ih =>
    rw [splits]
    split
    · refine List.pairwise_append.2 ⟨?_, List.pairwise_singleton _ _, ?_⟩
      · exact List.pairwise_map.2 (ih.imp Nat.succ_lt_succ)
      · intro s hs s' hs'
        obtain ⟨u, -, rfl⟩ := List.mem_map.1 hs
        obtain rfl := List.mem_singleton.1 hs'
        exact Nat.succ_pos _
    · exact List.pairwise_singleton _ _

/-! ### Two classes -/

theorem head?_runs {c : Char} (hc : p c = true) (r : List Char) :
    (runs p q (c :: r)).head? = some (c :: r.takeWhile q, r.dropWhile q) := by
  rw [runs, if_pos hc, List.head?_map, head?_splits]
  rfl

/-- The first two cuts of a piece with one more character. -/
theorem exists_runs_append_cons {c : Char} (hw : ∀ c ∈ w, p c = true) (hne : w ≠ [])
    (hc : p c = true) (ht : ∀ c ∈ t.head?, p c = false) :
    ∃ l, runs p p (w ++ c :: t) = (w ++ [c], t) :: (w, c :: t) :: l := by
  obtain ⟨a, v, rfl⟩ := List.exists_cons_of_ne_nil hne
  rw [List.forall_mem_cons] at hw
  obtain ⟨l, hl⟩ := List.head?_eq_some_iff.1 (head?_splits_of_all hw.2)
  refine ⟨l.map fun s => (a :: s.1, s.2 ++ c :: t), ?_⟩
  rw [List.cons_append, runs, if_pos hw.1, splits_append_cons hw.2 hc ht, hl]
  simp

theorem runs_eq_nil (h : ∀ c ∈ t.head?, p c = false) : runs p q t = [] := by
  cases t with
  | nil => rfl
  | cons c t => rw [runs, if_neg (by simp [h c rfl])]

theorem append_of_mem_runs {s : List Char × List Char} (h : s ∈ runs p q t) : s.1 ++ s.2 = t := by
  cases t with
  | nil => cases h
  | cons c t =>
    rw [runs] at h
    split at h
    · obtain ⟨s, hs, rfl⟩ := List.mem_map.1 h
      rw [List.cons_append, append_of_mem_splits hs]
    · cases h

theorem mem_runs_iff {s : List Char × List Char} :
    s ∈ runs p q t ↔ ∃ c v, s.1 = c :: v ∧ p c = true ∧ (∀ d ∈ v, q d = true) ∧ s.1 ++ s.2 = t := by
  constructor
  · intro h
    have happend := append_of_mem_runs h
    cases t with
    | nil => cases h
    | cons c t =>
      rw [runs] at h
      split at h
      · next hc =>
        obtain ⟨u, hu, rfl⟩ := List.mem_map.1 h
        exact ⟨c, u.1, rfl, hc, (mem_splits_iff.1 hu).2, happend⟩
      · cases h
  · obtain ⟨w, u⟩ := s
    rintro ⟨c, v, rfl, hc, hv, rfl⟩
    rw [List.cons_append, runs, if_pos hc]
    exact List.mem_map.2 ⟨(v, u), mem_splits_iff.2 ⟨rfl, hv⟩, rfl⟩

/-- Longer cuts come first. -/
theorem pairwise_runs (p q : Char → Bool) (t : List Char) :
    (runs p q t).Pairwise fun s s' => s'.1.length < s.1.length := by
  cases t with
  | nil => exact List.Pairwise.nil
  | cons c t =>
    rw [runs]
    split
    · exact List.pairwise_map.2 ((pairwise_splits q t).imp Nat.succ_lt_succ)
    · exact List.Pairwise.nil

theorem all_of_mem_runs {s : List Char × List Char} (h : s ∈ runs p p t) :
    ∀ c ∈ s.1, p c = true := by
  cases t with
  | nil => cases h
  | cons c t =>
    rw [runs] at h
    split at h
    · next hc =>
      obtain ⟨s, hs, rfl⟩ := List.mem_map.1 h
      exact List.forall_mem_cons.2 ⟨hc, List.all_eq_true.1 (all_of_mem_splits hs)⟩
    · cases h

/-- Every cut of a text that starts with a piece that cannot go on leaves the end of the piece. -/
theorem exists_of_mem_runs {s : List Char × List Char} (ht : ∀ c ∈ t.head?, p c = false)
    (h : s ∈ runs p p (w ++ t)) : ∃ v, w = s.1 ++ v ∧ s.2 = v ++ t :=
  exists_append_of_append_eq (all_of_mem_runs h) ht (append_of_mem_runs h)

/-! ### Strings -/

theorem quoted?_append (hw : '"' ∉ w) (t : List Char) :
    quoted? ('"' :: (w ++ '"' :: t)) = some (w, t) := by
  have hall : ∀ c ∈ w, (c != '"') = true := fun c hc => by
    simpa using fun h : c = '"' => hw (h ▸ hc)
  have hstop : ∀ c ∈ ('"' :: t).head?, (c != '"') = false := by simp
  rw [quoted?, dropWhile_append_of_stop hall hstop, takeWhile_append_of_stop hall hstop]

theorem stringToken?_append (hw : '"' ∉ w) (t : List Char) :
    stringToken? ('"' :: (w ++ '"' :: t)) = some ('"' :: (w ++ ['"']), t) := by
  rw [stringToken?, quoted?_append hw]
  rfl

theorem stringToken?_eq_none (h : ∀ c ∈ t.head?, c ≠ '"') : stringToken? t = none := by
  cases t with
  | nil => rfl
  | cons c t =>
    have hc := h c rfl
    unfold stringToken? quoted?
    split
    · next heq => exact absurd (List.cons.inj heq).1 hc
    · rfl

/-! ### Choices -/

/-- A choice that the first candidate settles. -/
theorem findSome?_of_head? {α β : Type} {f : α → Option β} {l : List α} {a : α} {b : β}
    (h : l.head? = some a) (hf : f a = some b) : l.findSome? f = some b := by
  obtain ⟨l, rfl⟩ := List.head?_eq_some_iff.1 h
  rw [List.findSome?_cons, hf]

/-- The choice is settled by the largest candidate that says something, if larger ones come
first. -/
theorem exists_largest_of_findSome? {α β : Type} {f : α → Option β} {size : α → Nat} {l : List α}
    {b : β} (hl : l.Pairwise fun a a' => size a' < size a) (h : l.findSome? f = some b) :
    ∃ a ∈ l, f a = some b ∧ ∀ a' ∈ l, size a < size a' → f a' = none := by
  obtain ⟨before, a, after, rfl, ha, hnone⟩ := List.findSome?_eq_some_iff.1 h
  refine ⟨a, List.mem_append_right _ List.mem_cons_self, ha, fun a' ha' hlt => ?_⟩
  obtain ha' | ha' := List.mem_append.1 ha'
  · exact hnone a' ha'
  · obtain rfl | ha' := List.mem_cons.1 ha'
    · exact absurd hlt (Nat.lt_irrefl _)
    · have hsmaller := (List.pairwise_cons.1 (List.pairwise_append.1 hl).2.1).1 a' ha'
      exact absurd hlt (Nat.lt_asymm hsmaller)

/-- Candidates that all say the same, if anything. -/
theorem findSome?_eq_some {α β : Type} {f : α → Option β} {l : List α} {b : β}
    (h : ∀ a ∈ l, f a = some b ∨ f a = none) (hex : ∃ a ∈ l, f a = some b) :
    l.findSome? f = some b := by
  cases hfind : l.findSome? f with
  | none =>
    obtain ⟨a, ha, hfa⟩ := hex
    rw [List.findSome?_eq_none_iff.1 hfind a ha] at hfa
    cases hfa
  | some b' =>
    obtain ⟨a, ha, hfa⟩ := List.exists_of_findSome?_eq_some hfind
    obtain hb | hnone := h a ha
    · exact hfa.symm.trans hb
    · cases hnone.symm.trans hfa

end Questline
