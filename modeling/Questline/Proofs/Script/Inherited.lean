import Questline.Proofs.Script.Resolution

/-!
# What folding inherits

A guard that is folded away gives its place to the requirements for reaching the
assignment. Those that are no guards themselves are never folded afterwards, so all of
them end up in the gate, except for what `Requirement.isLocalOn` takes for a requirement
on the assigned variable. It looks at names only: the variable of another object is left
out too if it has the same name.

## Main definitions

* `Gate.Demands`: what a gate asks for, up to equality
* `Assignment.Imposes`: what an assignment asks for in place of a guard on its variable

## Main results

* `Gate.Folds.demands_iff`: what a run asks for when it stops, guards aside
* `Tree.resolve_inherits`: folding loses nothing but what is local to the assigned name
* `borrowedTree_resolve_forgets`: a condition on another object's variable that is lost
-/

namespace Questline

/-- The gate has the requirement or an equal one. -/
def Gate.Demands (g : Gate) (r : Requirement) : Prop :=
  ∃ s ∈ g.requirements, r = s ∨ (r == s) = true

/-- The requirement, or an equal one, has to hold to reach the assignment, and does not
count as one on the assigned variable. -/
def Assignment.Imposes (a : Assignment) (r : Requirement) : Prop :=
  ∃ s ∈ a.brings, r = s ∨ (r == s) = true

instance (g : Gate) (r : Requirement) : Decidable (g.Demands r) :=
  inferInstanceAs (Decidable (∃ s ∈ g.requirements, r = s ∨ (r == s) = true))

variable {as : List Assignment} {a : Assignment} {r s q : Requirement}

theorem Assignment.imposes_of_mem (hr : r ∈ a.gate.requirements) (hl : r.isLocalOn a.name = false) :
    a.Imposes r :=
  ⟨r, List.mem_filter.2 ⟨hr, by rw [hl, Bool.not_false]⟩, .inl rfl⟩

namespace Gate

variable {g g' h : Gate} {seen folded : List Requirement}

theorem demands_of_mem (hr : r ∈ g.requirements) : g.Demands r :=
  ⟨r, hr, .inl rfl⟩

theorem Demands.congr (hrs : r = s ∨ (r == s) = true) (hs : g.Demands s) : g.Demands r := by
  obtain ⟨t, ht, hst⟩ := hs
  refine ⟨t, ht, ?_⟩
  obtain rfl | hrs := hrs
  · exact hst
  · obtain rfl | hst := hst
    · exact .inr hrs
    · exact .inr (Requirement.beq_trans hrs hst)

/-- One fold changes what a gate asks for, guards aside, by what the assignment imposes. -/
theorem Fold.demands_iff (hf : Fold as g q g') (hq : q.isGuard = true) (hr : r.isGuard = false) :
    g'.Demands r ↔ g.Demands r ∨ ∃ a, IsReplacedBy as g.block q a ∧ a.Imposes r := by
  constructor
  · rintro ⟨s, hs, hrs⟩
    obtain hs | ⟨a, ha, hs⟩ := hf.mem_or_brings hs
    · exact .inl ⟨s, hs, hrs⟩
    · exact .inr ⟨a, ha, s, hs, hrs⟩
  · rintro (⟨s, hs, hrs⟩ | ⟨a, ha, s, hs, hrs⟩)
    · obtain hs | rfl := hf.mem_of_ne hs
      · exact ⟨s, hs, hrs⟩
      -- the folded guard equals no requirement that is not a guard
      · obtain rfl | hrs := hrs
        · exact absurd hq (by rw [hr]; decide)
        · rw [Requirement.isGuard_congr hrs, hq] at hr
          cases hr
    · refine Demands.congr hrs ?_
      obtain hs | ⟨t, ht, hst⟩ := hf.mem_of_brings ha hs
      · exact demands_of_mem hs
      · exact ⟨t, ht, .inr hst⟩

/-- A run changes what a gate asks for, guards aside, by what the assignments impose with
which it replaces guards. -/
theorem Folds.demands_iff (hf : Folds as g seen folded h) (hr : r.isGuard = false) :
    h.Demands r ↔
      g.Demands r ∨ ∃ q ∈ folded, ∃ a, IsReplacedBy as g.block q a ∧ a.Imposes r := by
  induction hf using round_induction with
  | stop => simp
  | @restart g g' seen seen' folded q _ _ hround ih =>
    rw [ih, hround.fold.block_eq, hround.fold.demands_iff hround.isGuard hr, or_assoc]
    simp only [List.mem_cons, exists_eq_or_imp]

end Gate

namespace Tree

variable {t : Tree} {g : Gate}

/-- Folding comes to an end and loses nothing. Of the requirements for reaching an
assignment that takes the place of a guard, all that are no guards themselves and do not
count as local to the assigned name are in the result; apart from these, the result asks
for what the gate asked for and for nothing else, guards aside. -/
theorem resolve_inherits (hn : ¬Gate.HasNaNLoop t.assignments g) :
    ∃ folded, Gate.Folds t.assignments g [] folded (t.resolve g) ∧
      (∀ q ∈ folded, ∀ a, IsReplacedBy t.assignments g.block q a →
        ∀ r ∈ a.gate.requirements, r.isGuard = false → r.isLocalOn a.name = false →
          (t.resolve g).Demands r) ∧
      ∀ r, r.isGuard = false → ((t.resolve g).Demands r ↔
        g.Demands r ∨ ∃ q ∈ folded, ∃ a, IsReplacedBy t.assignments g.block q a ∧ a.Imposes r) := by
  obtain ⟨folded, hf⟩ := Gate.exists_folds_resolve hn
  refine ⟨folded, hf, ?_, fun r hr => hf.demands_iff hr⟩
  intro q hq a ha r hmem hr hl
  exact (hf.demands_iff hr).2 (.inr ⟨q, hq, a, ha, Assignment.imposes_of_mem hmem hl⟩)

/-! ### A condition that is lost -/

/-- `x` is set where the `x` of an actor is 1 and the object of the script is enabled. -/
def borrowedName : String :=
  "begin t\nshort x\nif ( \"npc\"->x == 1 )\nif ( GetDisabled == 0 )\nset x to 1\nendif\nendif\n" ++
    "if ( x == 1 )\nJournal q 10\nendif\nend"

def borrowedTree : Tree :=
  (Tree.parse borrowedName {}).1

/-- The requirement that `x` is 1, for the variable of the script or of an object. -/
def isOne (object : Option String) : Requirement :=
  { Requirement.onLocal { script := some "t" } .equal "x" with value := some 1, object }

def isEnabled : Requirement :=
  { kind := .disabled, comparison := .equal, value := some 0 }

/-- The assignment in `borrowedTree`, and the run that puts only one of its two requirements
in place of the guard. -/
theorem borrowedTree_run :
    borrowedTree.NaNFree ∧ ({ requirements := [isOne none] } : Gate).NaNFree ∧
    ((soleAssignment? borrowedTree.assignments (isOne none)).map fun a =>
      (a.value, a.name, a.gate.requirements)) =
        some (some 1, "x", [isOne (some "npc"), isEnabled]) ∧
    Gate.run? borrowedTree.assignments 2 { requirements := [isOne none] } [] =
      some ([isOne none], { requirements := [isEnabled] }) := by
  decide +kernel

/-- The assignment that takes the place of the guard in `borrowedTree`. -/
theorem exists_isReplacedBy_borrowedTree :
    ∃ a, IsReplacedBy borrowedTree.assignments none (isOne none) a ∧ a.name = "x" ∧
      a.gate.requirements = [isOne (some "npc"), isEnabled] := by
  obtain ⟨-, -, hsole, -⟩ := borrowedTree_run
  obtain ⟨a, ha, hfields⟩ := Option.map_eq_some_iff.1 hsole
  obtain ⟨hv, hname, hgate⟩ : a.value = some 1 ∧ a.name = "x" ∧ a.gate.requirements = _ := by
    simpa only [Prod.mk.injEq] using hfields
  have hopens : (isOne none).passes? 1 = some true := by decide
  exact ⟨a, ⟨1, ha, hv, hopens, (Option.some_ne_none _).symm⟩, hname, hgate⟩

/-- The requirement on `disabled` is inherited. -/
theorem borrowedTree_resolve_inherits :
    ¬Gate.HasNaNLoop borrowedTree.assignments { requirements := [isOne none] } ∧
      (borrowedTree.resolve { requirements := [isOne none] }).Demands isEnabled := by
  obtain ⟨ht, hg, -, hrun⟩ := borrowedTree_run
  obtain ⟨a, ha, hname, hgate⟩ := exists_isReplacedBy_borrowedTree
  have hn := Gate.not_hasNaNLoop_of_nanFree hg ht.assignments
  obtain ⟨folded, hf, hkeeps, -⟩ := resolve_inherits hn
  obtain ⟨rfl, -⟩ := hf.eq_of_run? hrun
  refine ⟨hn, hkeeps _ List.mem_cons_self a ha isEnabled ?_ (by decide) ?_⟩
  · simp [hgate]
  · rw [hname]
    decide

/-- The requirement on the actor's variable is no guard and not about the variable of the
script, but it is lost, because the two variables have the same name. -/
theorem borrowedTree_resolve_forgets :
    borrowedTree.NaNFree ∧ ({ requirements := [isOne none] } : Gate).NaNFree ∧
    ∃ a, Gate.Folds borrowedTree.assignments { requirements := [isOne none] } [] [isOne none]
        (borrowedTree.resolve { requirements := [isOne none] }) ∧
      IsReplacedBy borrowedTree.assignments none (isOne none) a ∧
      isOne (some "npc") ∈ a.gate.requirements ∧ (isOne (some "npc")).isGuard = false ∧
      (isOne (some "npc")).object ≠ none ∧
      ¬(borrowedTree.resolve { requirements := [isOne none] }).Demands (isOne (some "npc")) := by
  obtain ⟨ht, hg, -, hrun⟩ := borrowedTree_run
  obtain ⟨a, ha, -, hgate⟩ := exists_isReplacedBy_borrowedTree
  have hresolve := resolve_eq_of_run? hrun
  refine ⟨ht, hg, a, ?_, ha, ?_, by decide, Option.some_ne_none _, ?_⟩
  · rw [hresolve]
    exact Gate.folds_of_run? hrun
  · simp [hgate]
  · rw [hresolve]
    decide

end Tree

end Questline
