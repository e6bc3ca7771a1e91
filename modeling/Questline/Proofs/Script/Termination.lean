import Mathlib.Logic.Hydra
import Mathlib.Logic.Relation
import Mathlib.Order.WellFounded
import Mathlib.Data.Fintype.Card
import Questline.Proofs.Script.Folding
import Questline.Script.Layout

/-!
# When folding stops

A guard is looked at once as long as it equals itself, so only guards whose comparand is
not a number can keep the loop going. Folding stops exactly when no such guard, met on
the way, leads back to itself through guards of the same sort.

## Main definitions

* `LeadsNaN`: what folding brings, among comparands that are not numbers
* `Gate.HasNaNLoop`: a guard that is met and leads back to itself

## Main results

* `Gate.not_hasNaNLoop_of_folds`: a run that stops meets no such guard
* `Gate.exists_folds`: without such a guard every run stops
* `Tree.resolve_stops_iff`: both together
* `mutualTree_resolve_never_stops`: two guards against `nan` that lead to each other
-/

namespace Questline

open Relation

variable {as : List Assignment} {block : Option Nat} {r s : Requirement}

/-- As `Leads`, between requirements whose comparands are not numbers. -/
def LeadsNaN (as : List Assignment) (block : Option Nat) (r s : Requirement) : Prop :=
  Leads as block r s ∧ r.hasNaN = true ∧ s.hasNaN = true

/-- A requirement on a loop takes its first step to another one on the loop. -/
theorem exists_leadsNaN_of_loop (h : TransGen (LeadsNaN as block) r r) :
    ∃ s, LeadsNaN as block r s ∧ TransGen (LeadsNaN as block) s s := by
  obtain ⟨s, hrs, hsr⟩ := TransGen.head'_iff.1 h
  exact ⟨s, hrs, TransGen.tail' hsr hrs⟩

namespace Gate

variable {g g' h : Gate} {seen seen' folded : List Requirement}

/-- A guard that folding comes to leads back to itself through guards that compare with
what is not a number. -/
def HasNaNLoop (as : List Assignment) (g : Gate) : Prop :=
  ∃ r, Reaches as g r ∧ TransGen (LeadsNaN as g.block) r r

/-! ### A loop keeps the run going -/

/-- A gate from which a run stops has no requirement on a loop: it could be folded at any
time, and folding it brings the next one on the loop. -/
theorem not_loop_of_mem (hf : Folds as g seen folded h) (hr : r ∈ g.requirements) :
    ¬TransGen (LeadsNaN as g.block) r r := by
  induction hf using Folds.round_induction generalizing r with
  | stop _ hstuck =>
    intro hl
    -- `r` can be folded and nothing that was looked at equals it
    obtain ⟨s, ⟨hrs, hn, -⟩, -⟩ := exists_leadsNaN_of_loop hl
    obtain ⟨t, -, hrt⟩ | hnf := hstuck r hr hrs.1
    · exact Bool.false_ne_true ((Requirement.hasNaN_eq_false_of_beq hrt).symm.trans hn)
    · exact hnf hrs.isFoldable
  | restart _ _ hround ih =>
    rw [hround.fold.block_eq] at ih
    obtain hr | rfl := hround.fold.mem_of_ne hr
    · exact ih hr
    -- `r` is the guard folded in this round, and the next one on the loop comes in
    · intro hl
      obtain ⟨s, ⟨⟨-, a, ha, hs⟩, -, hn⟩, hsl⟩ := exists_leadsNaN_of_loop hl
      obtain hs | ⟨t, -, hst⟩ := hround.fold.mem_of_brings ha hs
      · exact ih hs hsl
      · exact Bool.false_ne_true ((Requirement.hasNaN_eq_false_of_beq hst).symm.trans hn)

/-- The gate has `s` or an equal requirement, or one was looked at. -/
def IsMet (g : Gate) (seen : List Requirement) (s : Requirement) : Prop :=
  ∃ t, (t ∈ g.requirements ∨ t ∈ seen) ∧ (s = t ∨ (s == t) = true)

theorem IsMet.round {q : Requirement} (hround : Round as g seen q g' seen')
    (hs : IsMet g seen s) : IsMet g' (q :: seen') s := by
  obtain ⟨skipped, rfl, -⟩ := hround.looked
  obtain ⟨t, ht | ht, hst⟩ := hs
  · obtain ht | rfl := hround.fold.mem_of_ne ht
    · exact ⟨t, .inl ht, hst⟩
    · exact ⟨t, .inr List.mem_cons_self, hst⟩
  · exact ⟨t, .inr (by simp [ht]), hst⟩

/-- What the guards looked at bring is met. -/
def IsClosed (as : List Assignment) (g : Gate) (seen : List Requirement) : Prop :=
  ∀ r ∈ seen, ∀ s, Leads as g.block r s → IsMet g seen s

theorem IsClosed.round {q : Requirement} (hround : Round as g seen q g' seen')
    (hc : IsClosed as g seen) : IsClosed as g' (q :: seen') := by
  intro r hr s hl
  rw [hround.fold.block_eq] at hl
  obtain rfl | hr := List.mem_cons.1 hr
  · obtain ⟨-, a, ha, hs⟩ := hl
    obtain hs | ⟨t, ht, hst⟩ := hround.fold.mem_of_brings ha hs
    · exact ⟨s, .inl hs, .inl rfl⟩
    · exact ⟨t, .inl ht, .inr hst⟩
  · obtain ⟨skipped, rfl, hskip⟩ := hround.looked
    obtain hr | hr := List.mem_append.1 hr
    · exact absurd hl.isFoldable (hskip r hr).2.2
    · exact (hc r hr s hl).round hround

/-- What a run that stops has met is closed under `Leads` and holds no loop. -/
theorem exists_met (hf : Folds as g seen folded h) (hclosed : IsClosed as g seen)
    (hloop : ∀ r ∈ seen, ¬TransGen (LeadsNaN as g.block) r r) :
    ∃ met : Requirement → Prop, (∀ s, IsMet g seen s → met s) ∧
      (∀ r s, met r → Leads as g.block r s → met s) ∧
      ∀ r, met r → ¬TransGen (LeadsNaN as g.block) r r := by
  induction hf using Folds.round_induction with
  | @stop seen hf hstuck =>
    refine ⟨IsMet h seen, fun _ => id, ?_, ?_⟩
    · rintro r s ⟨t, ht, hrt⟩ hl
      have htl : Leads as h.block t s := by
        obtain rfl | hrt := hrt
        · exact hl
        · exact hl.congr hrt
      obtain ht | ht := ht
      · obtain ⟨u, hu, htu⟩ | hnf := hstuck t ht htl.1
        · exact hclosed u hu s (htl.congr htu)
        · exact absurd htl.isFoldable hnf
      · exact hclosed t ht s htl
    · rintro r ⟨t, ht, rfl | hrt⟩ hl
      · exact ht.elim (fun ht => not_loop_of_mem hf ht hl) (fun ht => hloop r ht hl)
      · obtain ⟨s, ⟨-, hn, -⟩, -⟩ := exists_leadsNaN_of_loop hl
        exact Bool.false_ne_true ((Requirement.hasNaN_eq_false_of_beq hrt).symm.trans hn)
  | @restart g g' seen seen' folded q hf hf' hround ih =>
    have hloop' : ∀ r ∈ q :: seen', ¬TransGen (LeadsNaN as g.block) r r := by
      intro r hr
      obtain rfl | hr := List.mem_cons.1 hr
      · exact not_loop_of_mem hf' hround.fold.mem
      · obtain ⟨skipped, rfl, hskip⟩ := hround.looked
        obtain hr | hr := List.mem_append.1 hr
        · exact not_loop_of_mem hf' (hskip r hr).1
        · exact hloop r hr
    rw [hround.fold.block_eq] at ih
    -- what is met at the start of the round is still met after it
    obtain ⟨met, hmet, hm⟩ := ih (hclosed.round hround) hloop'
    exact ⟨met, fun s hs => hmet s (hs.round hround), hm⟩

/-- A run that stops comes to no loop. -/
theorem not_hasNaNLoop_of_folds (hf : Folds as g [] folded h) : ¬HasNaNLoop as g := by
  obtain ⟨met, hmet, hclosed, hloop⟩ := exists_met hf (by simp [IsClosed]) (by simp)
  rintro ⟨r, ⟨q, hq, hqr⟩, hl⟩
  refine hloop r ?_ hl
  clear hl
  induction hqr with
  | refl => exact hmet q ⟨q, .inl hq, .inl rfl⟩
  | tail _ hst ih => exact hclosed _ _ ih hst

/-! ### Without a loop the run stops -/

/-- The requirements that a run from the gate can ever hold. -/
def pool (as : List Assignment) (g : Gate) : List Requirement :=
  g.requirements ++ as.flatMap (·.gate.requirements)

theorem mem_pool (h : Reaches as g r) : r ∈ pool as g := by
  obtain ⟨q, hq, hqr⟩ := h
  cases hqr with
  | refl => exact List.mem_append_left _ hq
  | tail _ hst =>
    obtain ⟨-, a, ⟨-, ha, -⟩, hr⟩ := hst
    exact List.mem_append_right _
      (List.mem_flatMap.2 ⟨a, mem_of_soleAssignment? ha, (List.mem_filter.1 hr).1⟩)

/-- `s` takes the place of `r`, which compares with what is not a number, in a run from
the gate. -/
def Below (as : List Assignment) (g : Gate) (s r : Requirement) : Prop :=
  Reaches as g r ∧ r.hasNaN = true ∧ Leads as g.block r s

theorem hasNaN_of_transGen_below (h : TransGen (Below as g) s r) :
    Reaches as g r ∧ r.hasNaN = true := by
  cases h with
  | single h => exact ⟨h.1, h.2.1⟩
  | tail _ h => exact ⟨h.1, h.2.1⟩

theorem loop_of_transGen_below (h : TransGen (Below as g) s r) (hs : s.hasNaN = true) :
    TransGen (LeadsNaN as g.block) r s := by
  induction h with
  | single h => exact .single ⟨h.2.2, h.2.1, hs⟩
  | tail h hb ih => exact ih.head ⟨hb.2.2, hb.2.1, (hasNaN_of_transGen_below h).2⟩

/-- Without a loop, what takes the place of guards that do not compare with numbers goes
down, because there are only finitely many of them. -/
theorem wellFounded_below (hn : ¬HasNaNLoop as g) : WellFounded (Below as g) := by
  -- among the finitely many requirements of the pool, having no loop is enough
  let P := {r // r ∈ pool as g}
  have hfin : Finite P := (pool as g).finite_toSet.to_subtype
  let R : P → P → Prop := fun s r => TransGen (Below as g) s.1 r.1
  have htrans : IsTrans P R := ⟨fun _ _ _ => TransGen.trans⟩
  have hirrefl : Std.Irrefl R := ⟨fun r hr =>
    have ⟨hreach, hnan⟩ := hasNaN_of_transGen_below hr
    hn ⟨r.1, hreach, loop_of_transGen_below hr hnan⟩⟩
  have hwf : WellFounded R := Finite.wellFounded_of_trans_of_irrefl R
  have hacc : ∀ r : P, Acc (Below as g) r.1 := by
    intro r
    induction r using hwf.induction with
    | _ r ih =>
      refine ⟨_, fun s hs => ?_⟩
      exact ih ⟨s, mem_pool (hs.1.tail hs.2.2)⟩ (.single hs)
  -- what is below a requirement is in the pool, wherever the requirement itself is
  refine ⟨fun r => ⟨_, fun s hs => ?_⟩⟩
  exact hacc ⟨s, mem_pool (hs.1.tail hs.2.2)⟩

/-- The requirements that compare with numbers and were not looked at yet. -/
def unseen (as : List Assignment) (g : Gate) (seen : List Requirement) : List Requirement :=
  (pool as g).filter fun r => !r.hasNaN && !seen.contains r

theorem unseen_append (g₀ : Gate) (new seen : List Requirement) :
    unseen as g₀ (new ++ seen) = (unseen as g₀ seen).filter fun r => !new.contains r := by
  unfold unseen
  rw [List.filter_filter]
  refine List.filter_congr fun r _ => ?_
  rw [List.contains_append, Bool.not_or]
  cases r.hasNaN <;> cases new.contains r <;> rfl

theorem length_unseen_le (g₀ : Gate) (new seen : List Requirement) :
    (unseen as g₀ (new ++ seen)).length ≤ (unseen as g₀ seen).length := by
  rw [unseen_append]
  exact List.length_filter_le _ _

theorem length_unseen_lt {g₀ : Gate} {q : Requirement} (new : List Requirement)
    (hq : q ∈ pool as g₀) (hnan : q.hasNaN = false) (hfresh : ∀ s ∈ seen, (q == s) = false)
    (hnew : q ∈ new) : (unseen as g₀ (new ++ seen)).length < (unseen as g₀ seen).length := by
  rw [unseen_append, List.length_filter_lt_length_iff_exists]
  have hself : (q == q) = true := Requirement.beq_self_iff.2 hnan
  refine ⟨q, List.mem_filter.2 ⟨hq, ?_⟩, ?_⟩
  · rw [hnan, Bool.not_false, Bool.true_and, Bool.not_eq_true', ← Bool.not_eq_true,
      List.contains_iff_exists_mem_beq]
    rintro ⟨s, hs, hqs⟩
    exact Bool.false_ne_true ((hfresh s hs).symm.trans hqs)
  · rw [Bool.not_eq_true, Bool.not_eq_false', List.contains_iff_exists_mem_beq]
    exact ⟨q, hnew, hself⟩

/-- What a fold leaves is the old list with the guard cut out and what it leads to put in. -/
theorem Fold.cutExpand {g₀ : Gate} {q : Requirement} (hf : Fold as g q g')
    (hq : ∀ s, Leads as g.block q s → Below as g₀ s q) (hg : q.isGuard = true) :
    CutExpand (Below as g₀) (g'.requirements : Multiset Requirement) g.requirements := by
  cases hf with
  | drop hl =>
    refine ⟨0, q, by simp, ?_⟩
    rw [hl]
    simp only [← Multiset.coe_add, ← Multiset.cons_coe, ← Multiset.singleton_add, add_zero]
    ac_rfl
  | @replace l₁ new l₂ a hl ha hsub =>
    refine ⟨new, q, fun s hs => hq s ⟨hg, a, ha, hsub.subset hs⟩, ?_⟩
    rw [hl]
    simp only [← Multiset.coe_add, ← Multiset.cons_coe, ← Multiset.singleton_add]
    ac_rfl

/-- A round either looks at a requirement for good or cuts one out for others below it. -/
theorem Round.decreases {g₀ : Gate} {q : Requirement} (hround : Round as g seen q g' seen')
    (hreach : ∀ r ∈ g.requirements, Reaches as g₀ r) (hblock : g.block = g₀.block) :
    Prod.Lex (· < ·) (CutExpand (Below as g₀))
      ((unseen as g₀ (q :: seen')).length, (g'.requirements : Multiset Requirement))
      ((unseen as g₀ seen).length, (g.requirements : Multiset Requirement)) := by
  obtain ⟨skipped, rfl, -⟩ := hround.looked
  have hq := hreach q hround.fold.mem
  cases hnan : q.hasNaN with
  | false =>
    exact .left _ _ (length_unseen_lt (q :: skipped) (mem_pool hq) hnan hround.fresh (by simp))
  -- the folded guard may come back, but other numbers may have been looked at before it
  | true =>
    have hle : (unseen as g₀ (q :: skipped ++ seen)).length ≤ (unseen as g₀ seen).length :=
      length_unseen_le g₀ (q :: skipped) seen
    obtain hlt | heq := Nat.lt_or_eq_of_le hle
    · exact .left _ _ hlt
    · rw [← List.cons_append, heq]
      exact .right _ (hround.fold.cutExpand (fun s hl => ⟨hq, hnan, hblock ▸ hl⟩) hround.isGuard)

/-- Without a loop every run stops. -/
theorem exists_folds {g₀ : Gate} (hn : ¬HasNaNLoop as g₀) :
    ∃ folded h, Folds as g₀ [] folded h := by
  have hwf : WellFounded (Prod.Lex (· < ·) (CutExpand (Below as g₀)) :
      Nat × Multiset Requirement → Nat × Multiset Requirement → Prop) :=
    WellFounded.prod_lex Nat.lt_wfRel.wf (wellFounded_below hn).cutExpand
  suffices hall : ∀ (m : Nat × Multiset Requirement) (g : Gate) (seen : List Requirement),
      m = ((unseen as g₀ seen).length, (g.requirements : Multiset Requirement)) →
      (∀ r ∈ g.requirements, Reaches as g₀ r) → g.block = g₀.block →
      ∃ folded h, Folds as g seen folded h from
    hall _ g₀ [] rfl (fun r hr => ⟨r, hr, .refl⟩) rfl
  intro m
  induction m using hwf.induction with
  | _ m ih =>
    rintro g seen rfl hreach hblock
    match hs : g.sweep as g.size seen with
    | (none, seen') => exact ⟨[], g, .stop hs⟩
    | (some g', seen'') =>
      obtain ⟨q, seen', rfl, hround⟩ := round_of_sweep hs
      obtain ⟨folded, h, hrun⟩ := ih _ (hround.decreases hreach hblock) g' (q :: seen') rfl
        (hround.reaches hreach hblock) (hround.fold.block_eq.trans hblock)
      exact ⟨q :: folded, h, .restart hs hrun⟩

theorem exists_folds_resolve (hn : ¬HasNaNLoop as g) :
    ∃ folded, Folds as g [] folded (g.resolve as) := by
  obtain ⟨folded, h, hf⟩ := exists_folds hn
  exact ⟨folded, hf.eq_resolve ▸ hf⟩

/-- A gate that compares with numbers only, as the assignments do, meets no loop. -/
theorem not_hasNaNLoop_of_nanFree (hg : g.NaNFree) (has : ∀ a ∈ as, a.gate.NaNFree) :
    ¬HasNaNLoop as g := by
  rintro ⟨r, hr, hl⟩
  obtain ⟨s, ⟨-, hnan, -⟩, -⟩ := exists_leadsNaN_of_loop hl
  obtain hr | hr := List.mem_append.1 (mem_pool hr)
  · exact Bool.false_ne_true ((hg r hr).symm.trans hnan)
  · obtain ⟨a, ha, hr⟩ := List.mem_flatMap.1 hr
    exact Bool.false_ne_true ((has a ha r hr).symm.trans hnan)

end Gate

namespace Tree

variable {t : Tree} {g : Gate}

/-- A tree whose blocks compare with numbers only. -/
def NaNFree (t : Tree) : Prop :=
  ∀ b ∈ t.blocks, b.gate.NaNFree

theorem NaNFree.gate (ht : t.NaNFree) (id : Nat) : (t.gate id).NaNFree := by
  have hall : ∀ (bs : List Block) (g : Gate), (∀ b ∈ bs, b.gate.NaNFree) → g.NaNFree →
      (bs.foldl (fun g b => g.extend b.gate) g).NaNFree := by
    intro bs
    induction bs with
    | nil => exact fun _ _ hg => hg
    | cons b bs ih =>
      intro g hbs hg
      exact ih _ (fun c hc => hbs c (List.mem_cons_of_mem b hc))
        (hg.extend (hbs b List.mem_cons_self))
  refine hall _ _ (fun b hb => ?_) (by simp [Gate.NaNFree, Gate.forBlock])
  obtain ⟨i, -, hi⟩ := List.mem_filterMap.1 hb
  exact ht b (Array.mem_of_getElem? hi)

theorem NaNFree.assignments (ht : t.NaNFree) : ∀ a ∈ t.assignments, a.gate.NaNFree := by
  intro a ha
  obtain ⟨b, -, ha⟩ := List.mem_flatMap.1 ha
  obtain ⟨line, -, ha⟩ := List.mem_filterMap.1 ha
  obtain ⟨p, -, rfl⟩ := Option.map_eq_some_iff.1 ha
  exact ht.gate b.id

/-- When all comparands are numbers, the loop stops. -/
theorem NaNFree.exists_folds (ht : t.NaNFree) (hg : g.NaNFree) :
    ∃ folded, Gate.Folds t.assignments g [] folded (t.resolve g) :=
  Gate.exists_folds_resolve (Gate.not_hasNaNLoop_of_nanFree hg ht.assignments)

/-- The loop stops exactly when no guard that it comes to, and that compares with what is
not a number, leads back to itself through such guards. -/
theorem resolve_stops_iff (t : Tree) (g : Gate) :
    (∃ folded, Gate.Folds t.assignments g [] folded (t.resolve g)) ↔
      ¬Gate.HasNaNLoop t.assignments g := by
  constructor
  · rintro ⟨folded, hf⟩
    exact Gate.not_hasNaNLoop_of_folds hf
  · exact Gate.exists_folds_resolve

end Tree

/-! ### A loop that never stops -/

/-- Two variables that are each set behind a guard on the other. -/
def mutualGuards : String :=
  "begin t\nif ( x != nan )\nset y to 1\nendif\nif ( y != nan )\nset x to 1\nendif\n" ++
    "if ( x != nan )\nJournal q 10\nendif\nend"

def mutualTree : Tree :=
  (Tree.parse mutualGuards {}).1

/-- The requirement that a variable is not equal to `nan`, which always holds. -/
def unequalNaN (name : String) : Requirement :=
  { Requirement.onLocal { script := some "t" } .notEqual name with value := some (0.0 / 0.0) }

/-- The guards of `mutualTree` take each other's place for ever. -/
theorem mutualTree_resolve_never_stops :
    ¬∃ folded, Gate.Folds mutualTree.assignments (mutualTree.gate 7) [] folded
      (mutualTree.resolve (mutualTree.gate 7)) := by
  -- all three facts come from one evaluation of the tree
  obtain ⟨hgate, hx, hy⟩ : (mutualTree.gate 7).requirements = [unequalNaN "x"] ∧
      brought mutualTree.assignments (mutualTree.gate 7).block (unequalNaN "x") =
        [unequalNaN "y"] ∧
      brought mutualTree.assignments (mutualTree.gate 7).block (unequalNaN "y") =
        [unequalNaN "x"] := by
    decide +kernel
  have hxy : LeadsNaN mutualTree.assignments (mutualTree.gate 7).block (unequalNaN "x")
      (unequalNaN "y") :=
    ⟨leads_iff_mem_brought.2 (hx ▸ List.mem_singleton_self _), by decide, by decide⟩
  have hyx : LeadsNaN mutualTree.assignments (mutualTree.gate 7).block (unequalNaN "y")
      (unequalNaN "x") :=
    ⟨leads_iff_mem_brought.2 (hy ▸ List.mem_singleton_self _), by decide, by decide⟩
  rintro ⟨folded, hf⟩
  apply Gate.not_hasNaNLoop_of_folds hf
  exact ⟨_, ⟨_, hgate ▸ List.mem_singleton_self _, .refl⟩, .tail (.single hxy) hyx⟩

end Questline
