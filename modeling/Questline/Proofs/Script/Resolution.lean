import Questline.Proofs.Script.Termination

/-!
# What folding leaves of a gate

Folding is sound: it takes away only guards that say less than it puts in their place,
and everything else stays where it was. It is complete up to guards that come back: a
guard is considered once in a run, so one that a later fold brings back stays, although
another run would fold it again.

## Main results

* `Gate.Folds.others_sublist`, `Gate.Folds.isFoldable_of_gone`, `Gate.Folds.reaches`: what a
  run keeps, takes away and brings
* `Gate.Folds.isFoldable_iff`: what a run leaves to be folded
* `Tree.resolve_sound`: soundness of folding in a tree
* `Tree.resolve_resolve`: folding twice
-/

namespace Questline

open scoped List

variable {as : List Assignment} {r s : Requirement}

/-- What can be folded, said of the assignments to the variable. -/
theorem isFoldable_iff {block : Option Nat} : IsFoldable as block r ↔
    ∃ a v, as.filter (·.concerns r) = [a] ∧ a.value = some v ∧
      ((block = some a.block ∧ r.passes? v = some false) ∨
        (block ≠ some a.block ∧ r.passes? v = some true)) := by
  unfold IsFoldable IsDropped IsReplacedBy
  simp only [soleAssignment?_eq_some_iff]
  constructor
  · rintro (⟨a, v, ha, hv, hp, hb⟩ | ⟨a, v, ha, hv, hp, hb⟩)
    · exact ⟨a, v, ha, hv, .inl ⟨hb, hp⟩⟩
    · exact ⟨a, v, ha, hv, .inr ⟨hb, hp⟩⟩
  · rintro ⟨a, v, ha, hv, ⟨hb, hp⟩ | ⟨hb, hp⟩⟩
    · exact .inl ⟨a, v, ha, hv, hp, hb⟩
    · exact .inr ⟨a, v, ha, hv, hp, hb⟩

namespace Gate

variable {g g' h : Gate} {seen folded : List Requirement}

/-! ### What a run keeps, takes away and brings -/

/-- A fold leaves all that is no guard, in the same order. -/
theorem Fold.others_sublist (hf : Fold as g r g') (hr : r.isGuard = true) :
    g.requirements.filter (!·.isGuard) <+ g'.requirements.filter (!·.isGuard) := by
  cases hf with
  | drop hg => simp [hg, hr]
  | replace hg =>
    rw [hg]
    simp only [List.filter_append, List.filter_cons, hr, Bool.not_true, List.append_assoc]
    apply List.Sublist.append_left
    exact List.sublist_append_right _ _

namespace Folds

theorem others_sublist (hf : Folds as g seen folded h) :
    g.requirements.filter (!·.isGuard) <+ h.requirements.filter (!·.isGuard) := by
  induction hf using round_induction with
  | stop => exact List.Sublist.refl _
  | restart _ _ hround ih => exact (hround.fold.others_sublist hround.isGuard).trans ih

/-- A requirement that is gone after a run was folded. -/
theorem isFoldable_of_gone (hf : Folds as g seen folded h) (hr : r ∈ g.requirements)
    (hgone : r ∉ h.requirements) : IsFoldable as g.block r := by
  induction hf using round_induction with
  | stop => exact absurd hr hgone
  | restart _ _ hround ih =>
    obtain hr | rfl := hround.fold.mem_of_ne hr
    · exact hround.fold.block_eq ▸ ih hr
    · exact hround.fold.isFoldable

/-- All that a run leaves was there or was brought by a fold. -/
theorem reaches {g₀ : Gate} (hf : Folds as g seen folded h)
    (hreach : ∀ r ∈ g.requirements, Reaches as g₀ r) (hblock : g.block = g₀.block) :
    ∀ r ∈ h.requirements, Reaches as g₀ r := by
  induction hf using round_induction with
  | stop => exact hreach
  | restart _ _ hround ih =>
    exact ih (hround.reaches hreach hblock) (hround.fold.block_eq.trans hblock)

/-- There is only one run from a gate. -/
theorem unique {h' : Gate} {folded' : List Requirement} (hf : Folds as g seen folded h)
    (hf' : Folds as g seen folded' h') : folded = folded' ∧ h = h' := by
  induction hf generalizing folded' with
  | stop hs =>
    cases hf' with
    | stop => exact ⟨rfl, rfl⟩
    | restart hs' => simp [hs] at hs'
  | restart hs _ ih =>
    cases hf' with
    | stop hs' => simp [hs] at hs'
    | restart hs' hrun =>
      rw [hs] at hs'
      cases hs'
      obtain ⟨rfl, rfl⟩ := ih hrun
      exact ⟨rfl, rfl⟩

theorem eq_of_run? {n : Nat} {rs folded' : List Requirement} {block : Option Nat}
    (hf : Folds as g seen folded h) (hr : run? as n g seen = some (folded', ⟨rs, block⟩)) :
    folded = folded' ∧ h.requirements = rs := by
  obtain ⟨rfl, rfl⟩ := hf.unique (folds_of_run? hr)
  exact ⟨rfl, rfl⟩

/-! ### What a run leaves to be folded -/

theorem isFoldable_of_mem_folded (hf : Folds as g seen folded h) (hs : s ∈ folded) :
    IsFoldable as g.block s := by
  induction hf using round_induction with
  | stop => cases hs
  | restart _ _ hround ih =>
    obtain rfl | hs := List.mem_cons.1 hs
    · exact hround.fold.isFoldable
    · exact hround.fold.block_eq ▸ ih hs

/-- A guard that is left and can be folded was folded before, or looked at before the run:
what a run looks at without folding it cannot be folded later either. -/
theorem exists_folded_of_isFoldable (hf : Folds as g seen folded h) (hr : r ∈ h.requirements)
    (hguard : r.isGuard = true) (hfold : IsFoldable as g.block r) :
    (∃ s ∈ seen, (r == s) = true) ∨ ∃ s ∈ folded, (r == s) = true := by
  induction hf using round_induction with
  | stop _ hstuck =>
    obtain hs | hn := hstuck r hr hguard
    · exact .inl hs
    · exact absurd hfold hn
  | restart _ _ hround ih =>
    obtain ⟨skipped, rfl, hskip⟩ := hround.looked
    obtain ⟨s, hs, hrs⟩ | ⟨s, hs, hrs⟩ := ih (hround.fold.block_eq ▸ hfold)
    · obtain rfl | hs := List.mem_cons.1 hs
      · exact .inr ⟨s, List.mem_cons_self, hrs⟩
      obtain hs | hs := List.mem_append.1 hs
      -- looked at in this round and stuck, while `r`, which equals it, can be folded
      · exact absurd (hfold.congr hrs) (hskip s hs).2.2
      · exact .inl ⟨s, hs, hrs⟩
    · exact .inr ⟨s, List.mem_cons_of_mem _ hs, hrs⟩

/-- The guards that a run leaves to be folded are those that it folded before. -/
theorem isFoldable_iff (hf : Folds as g [] folded h) (hr : r ∈ h.requirements)
    (hguard : r.isGuard = true) :
    IsFoldable as g.block r ↔ ∃ s ∈ folded, (r == s) = true := by
  constructor
  · intro hfold
    obtain ⟨s, hs, -⟩ | hs := hf.exists_folded_of_isFoldable hr hguard hfold
    · cases hs
    · exact hs
  · rintro ⟨s, hs, hrs⟩
    exact (hf.isFoldable_of_mem_folded hs).congr (Requirement.beq_symm hrs)

end Folds

/-- A gate without guards that can be folded is left as it is. -/
theorem resolve_of_not_isFoldable
    (hn : ∀ r ∈ g.requirements, r.isGuard = true → ¬IsFoldable as g.block r) :
    g.resolve as = g := by
  match hs : g.sweep as g.size [] with
  | (none, _) => exact (Folds.stop hs).eq_resolve
  | (some g', _) =>
    obtain ⟨r, _, -, hround⟩ := round_of_sweep hs
    exact absurd hround.fold.isFoldable (hn r hround.fold.mem hround.isGuard)

end Gate

namespace Tree

variable {t : Tree} {g : Gate}

theorem resolve_eq_of_run? {n : Nat} {folded : List Requirement} {h : Gate}
    (hr : Gate.run? t.assignments n g [] = some (folded, h)) : t.resolve g = h :=
  (Gate.folds_of_run? hr).eq_resolve

instance (t : Tree) : Decidable t.NaNFree :=
  decidable_of_iff (∀ b ∈ t.blocks.toList, b.gate.NaNFree) (by simp [NaNFree])

/-- Guards that build on each other: `b` is set behind a guard on `a`, and the journal
entry stands behind guards on both. -/
def chainedGuards : String :=
  "begin t\nshort a\nshort b\nif ( GetDisabled == 0 )\nset a to 1\nendif\n" ++
    "if ( a == 1 )\nset b to 1\nendif\n" ++
    "if ( b == 1 )\nif ( a == 1 )\nJournal q 10\nendif\nendif\nend"

def chainedTree : Tree :=
  (Tree.parse chainedGuards {}).1

/-- The gates of `chainedTree` and the runs on two of them: the way to where `b` is set
(block 5) and the way to the journal entry (block 8). -/
theorem chainedTree_runs :
    chainedTree.NaNFree ∧ (chainedTree.gate 5).NaNFree ∧
    (chainedTree.gate 8).NaNFree ∧ (chainedTree.gate 8).Distinct ∧
    Gate.run? chainedTree.assignments 2 (chainedTree.gate 5) [] =
      some ((chainedTree.gate 5).requirements,
        { requirements := (chainedTree.gate 2).requirements, block := some 5 }) ∧
    (∀ r ∈ (chainedTree.gate 2).requirements, ∀ s ∈ (chainedTree.gate 5).requirements,
      (r == s) = false) ∧
    Gate.run? chainedTree.assignments 3 (chainedTree.gate 8) [] =
      some ((chainedTree.gate 4).requirements ++ (chainedTree.gate 6).requirements,
        { requirements := (chainedTree.gate 4).requirements ++ (chainedTree.gate 2).requirements
          block := some 8 }) ∧
    Gate.run? chainedTree.assignments 2
        { requirements := (chainedTree.gate 4).requirements ++ (chainedTree.gate 2).requirements
          block := some 8 } [] =
      some ((chainedTree.gate 4).requirements,
        { requirements := (chainedTree.gate 2).requirements, block := some 8 }) ∧
    (chainedTree.gate 4).requirements ≠ [] := by
  decide +kernel

/-- Folding the guards of a gate comes to an end. It keeps what is no guard, in order;
a guard that is gone has one assignment, which either shuts the gate from its own block
or opens it from another; what is left was there or was brought by such an assignment;
and no two requirements that are left are equal. -/
theorem resolve_sound (ht : t.NaNFree) (hg : g.NaNFree) (hd : g.Distinct) :
    (∃ folded, Gate.Folds t.assignments g [] folded (t.resolve g)) ∧
    g.requirements.filter (!·.isGuard) <+ (t.resolve g).requirements ∧
    (∀ r ∈ g.requirements, r.isGuard = true → r ∉ (t.resolve g).requirements →
      ∃ a v, t.assignments.filter (·.concerns r) = [a] ∧ a.value = some v ∧
        ((g.block = some a.block ∧ r.passes? v = some false) ∨
          (g.block ≠ some a.block ∧ r.passes? v = some true))) ∧
    (∀ r ∈ (t.resolve g).requirements, Gate.Reaches t.assignments g r) ∧
    (t.resolve g).Distinct ∧ (t.resolve g).block = g.block := by
  obtain ⟨folded, hf⟩ := ht.exists_folds hg
  refine ⟨⟨folded, hf⟩, ?_, ?_, ?_, hf.distinct hd, hf.block_eq⟩
  · exact hf.others_sublist.trans List.filter_sublist
  · intro r hr _ hgone
    exact isFoldable_iff.1 (hf.isFoldable_of_gone hr hgone)
  · exact hf.reaches (fun r hr => ⟨r, hr, .refl⟩) rfl

/-- The guards on the way to the journal entry. -/
theorem chainedTree_resolve_sound :
    chainedTree.NaNFree ∧ (chainedTree.gate 8).NaNFree ∧ (chainedTree.gate 8).Distinct ∧
    (∀ r ∈ (chainedTree.gate 8).requirements, r.isGuard = true →
      r ∉ (chainedTree.resolve (chainedTree.gate 8)).requirements →
      ∃ a v, chainedTree.assignments.filter (·.concerns r) = [a] ∧ a.value = some v ∧
        (((chainedTree.gate 8).block = some a.block ∧ r.passes? v = some false) ∨
          ((chainedTree.gate 8).block ≠ some a.block ∧ r.passes? v = some true))) ∧
    (chainedTree.resolve (chainedTree.gate 8)).Distinct := by
  obtain ⟨ht, -, hg, hd, -⟩ := chainedTree_runs
  obtain ⟨-, -, hgone, -, hdistinct, -⟩ := resolve_sound ht hg hd
  exact ⟨ht, hg, hd, hgone, hdistinct⟩

/-- The guards that a run leaves to be folded are those that it folded once and that came
back. When none came back, folding again changes nothing. -/
theorem resolve_resolve (ht : t.NaNFree) (hg : g.NaNFree) :
    ∃ folded, Gate.Folds t.assignments g [] folded (t.resolve g) ∧
      (∀ r ∈ (t.resolve g).requirements, r.isGuard = true →
        (IsFoldable t.assignments g.block r ↔ ∃ s ∈ folded, (r == s) = true)) ∧
      ((∀ r ∈ (t.resolve g).requirements, ∀ s ∈ folded, (r == s) = false) →
        t.resolve (t.resolve g) = t.resolve g) := by
  obtain ⟨folded, hf⟩ := ht.exists_folds hg
  refine ⟨folded, hf, fun r hr hguard => hf.isFoldable_iff hr hguard, fun hback => ?_⟩
  apply Gate.resolve_of_not_isFoldable
  intro r hr hguard hfold
  rw [hf.block_eq] at hfold
  obtain ⟨s, hs, hrs⟩ := (hf.isFoldable_iff hr hguard).1 hfold
  exact Bool.false_ne_true ((hback r hr s hs).symm.trans hrs)

/-- The guard on `a` does not come back to the gate of the block that sets `b`. -/
theorem chainedTree_resolve_settled :
    chainedTree.NaNFree ∧ (chainedTree.gate 5).NaNFree ∧
    chainedTree.resolve (chainedTree.resolve (chainedTree.gate 5)) =
      chainedTree.resolve (chainedTree.gate 5) := by
  obtain ⟨ht, hg, -, -, hrun, hnew, -⟩ := chainedTree_runs
  obtain ⟨folded, hf, -, hsettled⟩ := resolve_resolve ht hg
  obtain ⟨rfl, hleft⟩ := hf.eq_of_run? hrun
  refine ⟨ht, hg, hsettled ?_⟩
  rw [hleft]
  exact hnew

/-- Folding `b` brings the guard on `a` back after it was folded, so that folding again
takes it away. -/
theorem chainedTree_resolve_twice :
    chainedTree.NaNFree ∧ (chainedTree.gate 8).NaNFree ∧
    chainedTree.resolve (chainedTree.resolve (chainedTree.gate 8)) ≠
      chainedTree.resolve (chainedTree.gate 8) := by
  obtain ⟨ht, -, hg, -, -, -, hfirst, hsecond, hne⟩ := chainedTree_runs
  have honce := resolve_eq_of_run? hfirst
  have htwice := resolve_eq_of_run? hsecond
  refine ⟨ht, hg, ?_⟩
  rw [honce, htwice, ne_eq, Gate.mk.injEq, List.self_eq_append_left]
  exact fun heq => hne heq.1

end Tree

end Questline
