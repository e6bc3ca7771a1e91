import Mathlib.Logic.Relation
import Questline.Proofs.Requirement.Gate
import Questline.Script.Guard

/-!
# Runs of folding

Folding the guards of a gate starts over after every change. This module says once
what one round can do, and turns the loop into a relation between the gate it starts
from, the guards it folds and the gate it stops at.

## Main definitions

* `IsDropped`, `IsReplacedBy`: the two ways in which a guard is folded away
* `Leads`, `Gate.Reaches`: what folding brings into a gate
* `Gate.Fold`, `Gate.Round`: one guard of a gate folded away, and the round that does it
* `Gate.Folds`: a run of the loop, with the guards that it folds, one for each restart

## Main results

* `Gate.round_of_sweep`, `Gate.sweep_eq_none`: what a round does and what it leaves
* `Gate.fold_of_fold?`: what folding a guard does to the list of requirements
* `Gate.Folds.eq_resolveFrom`: the loop returns the gate at which its run stops
-/

namespace Questline

open scoped List

/-! ### Equal guards are folded alike -/

theorem Requirement.isGuard_congr {r s : Requirement} (h : (r == s) = true) :
    r.isGuard = s.isGuard := by
  obtain ⟨hk, -, -, -, hp, ho, -⟩ := Requirement.beq_iff.1 h
  rw [Requirement.isGuard, Requirement.isGuard, hk, hp, ho, Requirement.isSome_value_congr h]

theorem Assignment.concerns_congr {r s : Requirement} (h : (r == s) = true) (a : Assignment) :
    a.concerns r = a.concerns s := by
  obtain ⟨-, -, -, -, hp, -, -, -, hs⟩ := Requirement.beq_iff.1 h
  rw [Assignment.concerns, Assignment.concerns, hp, hs]

theorem soleAssignment?_congr {r s : Requirement} (h : (r == s) = true) (as : List Assignment) :
    soleAssignment? as r = soleAssignment? as s := by
  unfold soleAssignment?
  rw [funext (Assignment.concerns_congr h)]

theorem soleAssignment?_eq_some_iff {as : List Assignment} {r : Requirement} {a : Assignment} :
    soleAssignment? as r = some a ↔ as.filter (·.concerns r) = [a] := by
  unfold soleAssignment?
  split
  · next b hb => simp [hb]
  · next hb => simpa using hb a

theorem mem_of_soleAssignment? {as : List Assignment} {r : Requirement} {a : Assignment}
    (h : soleAssignment? as r = some a) : a ∈ as :=
  (List.mem_filter.1 (soleAssignment?_eq_some_iff.1 h ▸ List.mem_singleton_self a)).1

/-! ### The two ways to fold -/

/-- The requirements that take the place of a guard on the assigned variable. -/
def Assignment.brings (a : Assignment) : List Requirement :=
  a.gate.requirements.filter fun r => !r.isLocalOn a.name

variable {as : List Assignment} {block : Option Nat} {r s : Requirement} {a : Assignment}

/-- The only assignment to the variable of `r` stands in `block` itself and shuts the
gate. -/
def IsDropped (as : List Assignment) (block : Option Nat) (r : Requirement) : Prop :=
  ∃ a v, soleAssignment? as r = some a ∧ a.value = some v ∧ r.passes? v = some false ∧
    block = some a.block

/-- The only assignment to the variable of `r` is `a`, which stands outside `block` and
opens the gate. -/
def IsReplacedBy (as : List Assignment) (block : Option Nat) (r : Requirement) (a : Assignment) :
    Prop :=
  ∃ v, soleAssignment? as r = some a ∧ a.value = some v ∧ r.passes? v = some true ∧
    block ≠ some a.block

/-- A requirement that can be folded in a gate that leads to `block`. -/
def IsFoldable (as : List Assignment) (block : Option Nat) (r : Requirement) : Prop :=
  IsDropped as block r ∨ ∃ a, IsReplacedBy as block r a

theorem IsDropped.congr (h : (r == s) = true) (hr : IsDropped as block r) :
    IsDropped as block s := by
  obtain ⟨a, v, ha, hv, hp, hb⟩ := hr
  exact ⟨a, v, soleAssignment?_congr h as ▸ ha, hv, Requirement.passes?_congr h v ▸ hp, hb⟩

theorem IsReplacedBy.congr (h : (r == s) = true) (hr : IsReplacedBy as block r a) :
    IsReplacedBy as block s a := by
  obtain ⟨v, ha, hv, hp, hb⟩ := hr
  exact ⟨v, soleAssignment?_congr h as ▸ ha, hv, Requirement.passes?_congr h v ▸ hp, hb⟩

theorem IsFoldable.congr (h : (r == s) = true) (hr : IsFoldable as block r) :
    IsFoldable as block s := by
  obtain hd | ⟨a, ha⟩ := hr
  · exact .inl (hd.congr h)
  · exact .inr ⟨a, ha.congr h⟩

theorem IsReplacedBy.unique {b : Assignment} (ha : IsReplacedBy as block r a)
    (hb : IsReplacedBy as block r b) : a = b := by
  obtain ⟨_, ha, -⟩ := ha
  obtain ⟨_, hb, -⟩ := hb
  exact Option.some.inj (ha.symm.trans hb)

theorem IsReplacedBy.not_isDropped (ha : IsReplacedBy as block r a) : ¬IsDropped as block r := by
  rintro ⟨b, _, hb, -, -, heq⟩
  obtain ⟨_, ha, -, -, hne⟩ := ha
  obtain rfl := Option.some.inj (ha.symm.trans hb)
  exact hne heq

/-- Folding the guard `r` in a gate that leads to `block` brings `s` into the gate. -/
def Leads (as : List Assignment) (block : Option Nat) (r s : Requirement) : Prop :=
  r.isGuard = true ∧ ∃ a, IsReplacedBy as block r a ∧ s ∈ a.brings

theorem Leads.congr {r' : Requirement} (h : (r == r') = true) (hl : Leads as block r s) :
    Leads as block r' s := by
  obtain ⟨hg, a, ha, hs⟩ := hl
  exact ⟨Requirement.isGuard_congr h ▸ hg, a, ha.congr h, hs⟩

theorem Leads.isFoldable (hl : Leads as block r s) : IsFoldable as block r :=
  let ⟨_, a, ha, _⟩ := hl
  .inr ⟨a, ha⟩

/-- The requirements that folding `r` brings into the gate. -/
def brought (as : List Assignment) (block : Option Nat) (r : Requirement) : List Requirement :=
  match soleAssignment? as r with
  | none => []
  | some a =>
    if r.isGuard = true ∧ a.value.bind r.passes? = some true ∧ block ≠ some a.block then a.brings
    else []

theorem leads_iff_mem_brought : Leads as block r s ↔ s ∈ brought as block r := by
  unfold Leads brought IsReplacedBy
  cases hs : soleAssignment? as r with
  | none => simp
  | some a =>
    dsimp only
    split
    · next hc =>
      obtain ⟨v, hv, hp⟩ := Option.bind_eq_some_iff.1 hc.2.1
      constructor
      · rintro ⟨_, b, ⟨_, hb, -⟩, hs⟩
        cases hb
        exact hs
      · exact fun hs => ⟨hc.1, a, ⟨v, rfl, hv, hp, hc.2.2⟩, hs⟩
    · next hc =>
      rw [iff_false_right List.not_mem_nil]
      rintro ⟨hg, b, ⟨v, hb, hv, hp, hne⟩, -⟩
      cases hb
      exact hc ⟨hg, Option.bind_eq_some_iff.2 ⟨v, hv, hp⟩, hne⟩

namespace Gate

variable {g g' h : Gate} {i n : Nat} {seen seen' folded : List Requirement}

theorem fold?_eq_some_iff : g.fold? as i r = some g' ↔
    (IsDropped as g.block r ∧ g' = g.eraseAt i) ∨
      ∃ a, IsReplacedBy as g.block r a ∧ g' = (g.eraseAt i).splice i a.brings := by
  unfold fold? IsDropped IsReplacedBy Assignment.brings
  cases hs : soleAssignment? as r with
  | none => simp
  | some a =>
    cases hv : a.value with
    | none => simp [hv]
    | some v =>
      cases hp : r.passes? v with
      | none => simp [hv, hp]
      | some p =>
        by_cases hb : g.block = some a.block <;> cases p <;>
          simp [hv, hp, hb, and_assoc, @eq_comm _ g']

theorem fold?_eq_none_iff : g.fold? as i r = none ↔ ¬IsFoldable as g.block r := by
  rw [Option.eq_none_iff_forall_ne_some]
  constructor
  · rintro hn (hd | ⟨a, ha⟩)
    · exact hn _ (fold?_eq_some_iff.2 (.inl ⟨hd, rfl⟩))
    · exact hn _ (fold?_eq_some_iff.2 (.inr ⟨a, ha, rfl⟩))
  · intro hn g' hg
    obtain ⟨hd, -⟩ | ⟨a, ha, -⟩ := fold?_eq_some_iff.1 hg
    · exact hn (.inl hd)
    · exact hn (.inr ⟨a, ha⟩)

/-! ### The list of requirements -/

/-- Splicing puts some of the requirements at the position, in their order, and leaves
out only those that are there already. -/
theorem splice_spec (rs l₁ l₂ : List Requirement) (hg : g.requirements = l₁ ++ l₂) :
    ∃ new, new <+ rs ∧ g.splice l₁.length rs = { g with requirements := l₁ ++ new ++ l₂ } ∧
      ∀ r ∈ rs, r ∈ new ∨ ∃ s ∈ l₁ ++ new ++ l₂, (r == s) = true := by
  -- what goes in moves the position on, so the front of the list grows along the induction
  induction rs generalizing g l₁ with
  | nil => exact ⟨[], List.nil_sublist _, by simp [splice, ← hg], by simp⟩
  | cons r rs ih =>
    unfold splice insertAt?
    cases hc : g.contains r with
    | true =>
      obtain ⟨new, hsub, heq, hall⟩ := ih l₁ hg
      refine ⟨new, hsub.cons r, heq, fun s hs => ?_⟩
      obtain rfl | hs := List.mem_cons.1 hs
      · obtain ⟨t, ht, hrt⟩ := contains_iff.1 hc
        rw [hg] at ht
        exact .inr ⟨t, by grind, hrt⟩
      · exact hall s hs
    | false =>
      have hg' : ({ g with requirements := g.requirements.take l₁.length ++ r ::
          g.requirements.drop l₁.length } : Gate).requirements = (l₁ ++ [r]) ++ l₂ := by
        simp [hg]
      obtain ⟨new, hsub, heq, hall⟩ := ih (l₁ ++ [r]) hg'
      rw [List.length_append, List.length_singleton] at heq
      refine ⟨r :: new, hsub.cons_cons r, ?_, fun s hs => ?_⟩
      · simpa using heq
      · obtain rfl | hs := List.mem_cons.1 hs
        · exact .inl List.mem_cons_self
        · exact (hall s hs).imp (List.mem_cons_of_mem r) (by simp)

theorem Distinct.splice (hd : g.Distinct) (rs : List Requirement) : (g.splice i rs).Distinct := by
  induction rs generalizing g i with
  | nil => exact hd
  | cons r rs ih =>
    unfold Gate.splice
    split
    · next g' hg => exact ih (hd.insertAt? hg)
    · exact ih hd

theorem Distinct.fold? (hd : g.Distinct) (hf : g.fold? as i r = some g') : g'.Distinct := by
  obtain ⟨-, rfl⟩ | ⟨a, -, rfl⟩ := fold?_eq_some_iff.1 hf
  · exact hd.eraseAt i
  · exact (hd.eraseAt i).splice a.brings

/-- The guard `r` of a gate folded away. What takes its place stands where it stood,
in the order in which the assignment has it, without what the gate has already. -/
inductive Fold (as : List Assignment) (g : Gate) (r : Requirement) : Gate → Prop
  | drop {l₁ l₂ : List Requirement} : g.requirements = l₁ ++ r :: l₂ →
      IsDropped as g.block r → Fold as g r { g with requirements := l₁ ++ l₂ }
  | replace {l₁ new l₂ : List Requirement} {a : Assignment} : g.requirements = l₁ ++ r :: l₂ →
      IsReplacedBy as g.block r a → new <+ a.brings →
      (∀ s ∈ a.brings, s ∈ new ∨ ∃ t ∈ l₁ ++ new ++ l₂, (s == t) = true) →
      Fold as g r { g with requirements := l₁ ++ new ++ l₂ }

theorem fold_of_fold? (hr : g.get? i = some r) (hf : g.fold? as i r = some g') :
    Fold as g r g' := by
  obtain ⟨hi, hgi⟩ := List.getElem?_eq_some_iff.1 hr
  have hg : g.requirements = g.requirements.take i ++ r :: g.requirements.drop (i + 1) := by
    rw [← hgi, List.getElem_cons_drop, List.take_append_drop]
  have he : (g.eraseAt i).requirements = g.requirements.take i ++ g.requirements.drop (i + 1) :=
    List.eraseIdx_eq_take_drop_succ g.requirements i
  obtain ⟨hd, rfl⟩ | ⟨a, ha, rfl⟩ := fold?_eq_some_iff.1 hf
  · have := Fold.drop hg hd
    rwa [← he] at this
  · obtain ⟨new, hsub, heq, hall⟩ := splice_spec a.brings _ _ he
    rw [List.length_take, Nat.min_eq_left (Nat.le_of_lt hi)] at heq
    rw [heq]
    exact Fold.replace hg ha hsub hall

namespace Fold

theorem mem (hf : Fold as g r g') : r ∈ g.requirements := by
  cases hf with
  | drop hg => simp [hg]
  | replace hg => simp [hg]

theorem block_eq (hf : Fold as g r g') : g'.block = g.block := by
  cases hf <;> rfl

theorem isFoldable (hf : Fold as g r g') : IsFoldable as g.block r := by
  cases hf with
  | drop _ hd => exact .inl hd
  | replace _ ha => exact .inr ⟨_, ha⟩

/-- What is new after a fold was brought by the assignment. -/
theorem mem_or_brings (hf : Fold as g r g') (hs : s ∈ g'.requirements) :
    s ∈ g.requirements ∨ ∃ a, IsReplacedBy as g.block r a ∧ s ∈ a.brings := by
  cases hf with
  | drop hg =>
    left
    simp only [hg, List.mem_append, List.mem_cons] at hs ⊢
    exact hs.imp id .inr
  | replace hg ha hsub =>
    simp only [List.mem_append] at hs
    obtain (hs | hs) | hs := hs
    · exact .inl (by simp [hg, hs])
    · exact .inr ⟨_, ha, hsub.subset hs⟩
    · exact .inl (by simp [hg, hs])

/-- Only the folded guard goes away. -/
theorem mem_of_ne (hf : Fold as g r g') (hs : s ∈ g.requirements) :
    s ∈ g'.requirements ∨ s = r := by
  cases hf with
  | drop hg =>
    simp only [hg, List.mem_append, List.mem_cons] at hs ⊢
    grind
  | replace hg =>
    simp only [hg, List.mem_append, List.mem_cons] at hs ⊢
    grind

/-- All that the assignment brings is in the gate afterwards. -/
theorem mem_of_brings (hf : Fold as g r g') (ha : IsReplacedBy as g.block r a)
    (hs : s ∈ a.brings) : s ∈ g'.requirements ∨ ∃ t ∈ g'.requirements, (s == t) = true := by
  cases hf with
  -- only one of the two ways to fold applies, and with one assignment
  | drop _ hd => exact absurd hd ha.not_isDropped
  | replace hg hb _ hall =>
    obtain rfl := hb.unique ha
    refine (hall s hs).imp (fun hn => ?_) id
    exact List.mem_append_left _ (List.mem_append_right _ hn)

end Fold

/-! ### One round -/

/-- A guard that a round looks at without folding it. -/
def IsStuck (as : List Assignment) (g : Gate) (r : Requirement) : Prop :=
  r ∈ g.requirements ∧ r.isGuard = true ∧ ¬IsFoldable as g.block r

/-- A round that turns `g` into `g'` by folding `r`, when `seen` was looked at before it
and `seen'` before it came to `r`. -/
structure Round (as : List Assignment) (g : Gate) (seen : List Requirement) (r : Requirement)
    (g' : Gate) (seen' : List Requirement) : Prop where
  isGuard : r.isGuard = true
  /-- The guard was not looked at before. -/
  fresh : ∀ s ∈ seen, (r == s) = false
  fold : Fold as g r g'
  distinct : g.Distinct → g'.Distinct
  /-- What the round looked at on its way is stuck. -/
  looked : ∃ skipped, seen' = skipped ++ seen ∧ ∀ s ∈ skipped, IsStuck as g s

theorem round_of_sweep (hs : g.sweep as n seen = (some g', seen')) :
    ∃ r seen'', seen' = r :: seen'' ∧ Round as g seen r g' seen'' := by
  induction n generalizing seen with
  | zero => cases hs
  | succ n ih =>
    unfold sweep at hs
    split at hs
    · exact ih hs
    · next r hr =>
      split at hs
      · exact ih hs
      · next hc =>
        simp only [Bool.or_eq_true, Bool.not_eq_true', not_or, Bool.not_eq_false,
          List.contains_iff_exists_mem_beq, not_exists, not_and, Bool.not_eq_true] at hc
        split at hs
        · next hf =>
          cases hs
          exact ⟨r, seen, rfl, hc.1, hc.2, fold_of_fold? hr hf, fun hd => hd.fold? hf, [], rfl,
            by simp⟩
        · next hf =>
          -- the guard cannot be folded and counts as looked at from here on
          obtain ⟨t, _, rfl, hround⟩ := ih hs
          obtain ⟨skipped, rfl, hskip⟩ := hround.looked
          refine ⟨t, _, rfl, hround.isGuard, ?_, hround.fold, hround.distinct, skipped ++ [r],
            by simp, ?_⟩
          · exact fun s hs => hround.fresh s (List.mem_cons_of_mem r hs)
          · intro s hs
            obtain hs | hs := List.mem_append.1 hs
            · exact hskip s hs
            · obtain rfl := List.mem_singleton.1 hs
              exact ⟨List.mem_of_getElem? hr, hc.1, fold?_eq_none_iff.1 hf⟩

/-- A round that changes nothing finds no guard that can be folded and was not looked
at before. -/
theorem sweep_eq_none (hs : g.sweep as n seen = (none, seen')) (hi : i < n)
    (hr : g.get? i = some r) (hg : r.isGuard = true) :
    (∃ s ∈ seen, (r == s) = true) ∨ ¬IsFoldable as g.block r := by
  induction n generalizing seen with
  | zero => cases hi
  | succ n ih =>
    unfold sweep at hs
    obtain hi | rfl := Nat.lt_succ_iff_lt_or_eq.1 hi
    · split at hs
      · exact ih hs hi
      · next t ht =>
        split at hs
        · exact ih hs hi
        · split at hs
          · cases hs
          · next hf =>
            obtain ⟨s, hs, hrs⟩ | hn := ih hs hi
            · obtain rfl | hs := List.mem_cons.1 hs
              -- an equal guard further down was looked at and is stuck
              · exact .inr fun hfold => fold?_eq_none_iff.1 hf (hfold.congr hrs)
              · exact .inl ⟨s, hs, hrs⟩
            · exact .inr hn
    · rw [hr] at hs
      simp only [hg, Bool.not_true, Bool.false_or] at hs
      split at hs
      · next hc => exact .inl (List.contains_iff_exists_mem_beq.1 hc)
      · split at hs
        · cases hs
        · next hf => exact .inr (fold?_eq_none_iff.1 hf)

/-- Folding can bring `r` into the gate, if it is not there already. -/
def Reaches (as : List Assignment) (g : Gate) (r : Requirement) : Prop :=
  ∃ q ∈ g.requirements, Relation.ReflTransGen (Leads as g.block) q r

theorem Reaches.tail (h : Reaches as g r) (hl : Leads as g.block r s) : Reaches as g s :=
  let ⟨q, hq, hqr⟩ := h
  ⟨q, hq, hqr.tail hl⟩

/-- A round stays within what the gate at the start of the run reaches. -/
theorem Round.reaches {g₀ : Gate} {q : Requirement} (hround : Round as g seen q g' seen')
    (hreach : ∀ r ∈ g.requirements, Reaches as g₀ r) (hblock : g.block = g₀.block) :
    ∀ r ∈ g'.requirements, Reaches as g₀ r := by
  intro r hr
  obtain hr | ⟨a, ha, hr⟩ := hround.fold.mem_or_brings hr
  · exact hreach r hr
  · exact (hreach q hround.fold.mem).tail ⟨hround.isGuard, a, hblock ▸ ha, hr⟩

/-! ### Whole runs -/

/-- A run of the loop from a gate, when the guards `seen` were looked at before: the
guards that it folds, one for each restart, and the gate at which it stops. -/
inductive Folds (as : List Assignment) : Gate → List Requirement → List Requirement → Gate → Prop
  | stop {g : Gate} {seen seen' : List Requirement} :
      g.sweep as g.size seen = (none, seen') → Folds as g seen [] g
  | restart {g g' h : Gate} {r : Requirement} {seen seen' folded : List Requirement} :
      g.sweep as g.size seen = (some g', r :: seen') → Folds as g' (r :: seen') folded h →
      Folds as g seen (r :: folded) h

namespace Folds

/-- A run can be followed round by round: at its end no guard is left that can be folded
and was not looked at. -/
@[elab_as_elim]
theorem round_induction
    {motive : ∀ (g : Gate) (seen folded : List Requirement), Folds as g seen folded h → Prop}
    (stop : ∀ {seen} (hf : Folds as h seen [] h),
      (∀ r ∈ h.requirements, r.isGuard = true →
        (∃ s ∈ seen, (r == s) = true) ∨ ¬IsFoldable as h.block r) → motive h seen [] hf)
    (restart : ∀ {g g' seen seen' folded r} (hf : Folds as g' (r :: seen') folded h)
      (hf' : Folds as g seen (r :: folded) h), Round as g seen r g' seen' →
      motive g' (r :: seen') folded hf → motive g seen (r :: folded) hf')
    {g : Gate} {seen folded : List Requirement} (hf : Folds as g seen folded h) :
    motive g seen folded hf := by
  induction hf with
  | stop hs =>
    refine stop (.stop hs) fun r hr hg => ?_
    obtain ⟨i, hi, rfl⟩ := List.getElem_of_mem hr
    exact sweep_eq_none hs hi (List.getElem?_eq_getElem hi) hg
  | restart hs hrun ih =>
    obtain ⟨_, _, heq, hround⟩ := round_of_sweep hs
    obtain ⟨rfl, rfl⟩ := List.cons.inj heq
    exact restart hrun (.restart hs hrun) hround (ih stop restart)

/-- The loop returns the gate at which its run stops. -/
theorem eq_resolveFrom (hf : Folds as g seen folded h) : resolveFrom as g seen = h := by
  induction hf with
  | stop hs => rw [resolveFrom, hs]
  | restart hs _ ih =>
    rw [resolveFrom, hs]
    exact ih

theorem eq_resolve (hf : Folds as g [] folded h) : g.resolve as = h :=
  hf.eq_resolveFrom

theorem block_eq (hf : Folds as g seen folded h) : h.block = g.block := by
  induction hf using round_induction with
  | stop => rfl
  | restart _ _ hround ih => exact ih.trans hround.fold.block_eq

theorem distinct (hf : Folds as g seen folded h) (hd : g.Distinct) : h.Distinct := by
  induction hf using round_induction with
  | stop => exact hd
  | restart _ _ hround ih => exact ih (hround.distinct hd)

end Folds

/-- The run of the loop, if it stops after at most `n` restarts. -/
def run? (as : List Assignment) : Nat → Gate → List Requirement → Option (List Requirement × Gate)
  | 0, _, _ => none
  | n + 1, g, seen =>
    match g.sweep as g.size seen with
    | (none, _) => some ([], g)
    | (some _, []) => none
    | (some g', r :: seen') => (run? as n g' (r :: seen')).map fun (folded, h) => (r :: folded, h)

theorem folds_of_run? (hr : run? as n g seen = some (folded, h)) : Folds as g seen folded h := by
  induction n generalizing g seen folded with
  | zero => cases hr
  | succ n ih =>
    unfold run? at hr
    split at hr
    · next hs =>
      cases hr
      exact .stop hs
    · cases hr
    · next g' r seen' hs =>
      obtain ⟨⟨folded, h⟩, hrun, heq⟩ := Option.map_eq_some_iff.1 hr
      cases heq
      exact .restart hs (ih hrun)

end Gate

end Questline
