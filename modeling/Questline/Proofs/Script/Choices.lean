import Mathlib.Data.List.ReduceOption
import Questline.Proofs.Requirement.Truth
import Questline.Proofs.Script.Arena

/-!
# The branches of a choice

A choice has a branch for its own condition, one for each `elseif`, and one for `else`. Each
branch has a block, whose gate asks that the condition of the branch is true and that the
conditions of the branches before it are not. However truth values are given to requirements,
no two of these gates hold together, and one of them does if the last branch is for `else`.

## Main definitions

* `Choice`: a choice of a script, with the blocks of its branches
* `Outline.choices`: the choices of a script on all levels
* `Block.IsBranch`: the block of a branch
* `Choice.IsIn`: a choice whose branches have blocks

## Main results

* `Choice.holds_iff`, `countP_branchGates`: when the gates of the branches hold
* `Outline.isIn_of_mem_choices`: the branches of choices have blocks with these gates
* `Outline.isConditionalIn_iff`: no other blocks are conditional
-/

namespace Questline

/-! ### Gates of branches -/

theorem getElem?_branchGates (earlier : List Requirement) (rs : List (Option Requirement))
    (k : Nat) :
    (branchGates earlier rs)[k]? = rs[k]?.map fun r =>
      Gate.ofList ((earlier ++ (rs.take k).reduceOption).map .negated ++ r.toList) := by
  induction rs generalizing earlier k with
  | nil => rfl
  | cons r rs ih =>
    cases k with
    | zero => simp [branchGates, List.reduceOption]
    | succ k =>
      have htake : ((r :: rs).take (k + 1)).reduceOption =
          r.toList ++ (rs.take k).reduceOption := by
        cases r <;> simp [List.reduceOption]
      rw [branchGates, List.getElem?_cons_succ, List.getElem?_cons_succ, ih, htake,
        List.append_assoc]

variable {v : Requirement → Bool}

theorem holds_negated_append (hv : IsTruth v) (earlier own : List Requirement) :
    (Gate.ofList (earlier.map .negated ++ own)).holds v = (!earlier.any v && own.all v) := by
  have hnegated : (earlier.map Requirement.negated).all v = !earlier.any v := by
    rw [List.all_map, List.not_any_eq_all_not]
    congr 1
    funext r
    exact hv.negated r
  rw [Gate.holds_ofList hv, List.all_append, hnegated]

/-- When only the last branch may be without a condition, the gate of at most one branch holds,
and the gate of none if a condition before them is true. -/
theorem countP_branchGates (hv : IsTruth v) (earlier : List Requirement)
    {rs : List (Option Requirement)} (hrs : none ∉ rs.dropLast) :
    (branchGates earlier rs).countP (·.holds v) =
      if !earlier.any v && rs.any (·.all v) then 1 else 0 := by
  induction rs generalizing earlier with
  | nil => simp [branchGates]
  | cons r rs ih =>
    have hrest : none ∉ rs.dropLast := by
      intro h
      cases rs with
      | nil => cases h
      | cons r' rs => exact hrs (List.mem_cons_of_mem r h)
    have hnext := ih (earlier ++ r.toList) hrest
    rw [branchGates, List.countP_cons, hnext, holds_negated_append hv]
    cases r with
    | none =>
      -- nothing comes after a branch without a condition
      have hlast : rs = [] := by
        cases rs with
        | nil => rfl
        | cons r' rs => exact absurd List.mem_cons_self hrs
      subst hlast
      simp
    | some r =>
      cases hearlier : earlier.any v <;> cases hr : v r <;> simp [hearlier, hr]

/-! ### The choices of a script -/

/-- A choice of a script. -/
structure Choice where
  /-- What the conditions of all its branches are read with. -/
  context : Context
  /-- The block that the choice stands in. -/
  site : Nat
  /-- The blocks of the branches with their conditions; the branch of `else` has none. -/
  branches : List (Nat × Option (List Char))

namespace Choice

variable (ch : Choice)

def conditions : List (Option (List Char)) :=
  ch.branches.map (·.2)

/-- The requirements that the conditions are read as. -/
def requirements : List (Option Requirement) :=
  ch.branches.map (·.2.map ch.context.requirement)

theorem requirements_eq : ch.requirements = ch.conditions.map (·.map ch.context.requirement) := by
  simp [requirements, conditions]

variable {ch}

/-- The gate of a branch holds when its own condition is true and those before it are false. -/
theorem holds_iff (hv : IsTruth v) {k : Nat} {condition : Option (List Char)} {g : Gate}
    (hc : ch.conditions[k]? = some condition) (hg : (branchGates [] ch.requirements)[k]? = some g) :
    g.holds v = true ↔
      (∀ c ∈ condition, v (ch.context.requirement c) = true) ∧
      ∀ c, some c ∈ ch.conditions.take k → v (ch.context.requirement c) = false := by
  rw [getElem?_branchGates, requirements_eq, List.getElem?_map, hc, ← List.map_take,
    List.reduceOption_map] at hg
  obtain rfl := Option.some.inj hg
  rw [List.nil_append, holds_negated_append hv, Bool.and_eq_true, and_comm]
  refine and_congr ?_ ?_
  · cases condition <;> simp
  · simp [List.reduceOption_mem_iff]

theorem none_not_mem_requirements (h : none ∉ ch.conditions.dropLast) :
    none ∉ ch.requirements.dropLast := by
  rw [requirements_eq, ← List.map_dropLast]
  intro hmem
  obtain ⟨condition, hcondition, hnone⟩ := List.mem_map.1 hmem
  rw [Option.map_eq_none_iff] at hnone
  exact h (hnone ▸ hcondition)

/-- When only the last branch is for `else`, the gate of at most one branch holds. -/
theorem countP_holds_le (hv : IsTruth v) (h : none ∉ ch.conditions.dropLast) :
    (branchGates [] ch.requirements).countP (·.holds v) ≤ 1 := by
  rw [countP_branchGates hv [] (none_not_mem_requirements h)]
  split <;> omega

/-- When the last branch is for `else`, the gate of one branch holds. -/
theorem countP_holds_eq (hv : IsTruth v) (h : none ∉ ch.conditions.dropLast)
    (hlast : ch.conditions.getLast? = some none) :
    (branchGates [] ch.requirements).countP (·.holds v) = 1 := by
  have hnone : none ∈ ch.requirements := by
    rw [requirements_eq]
    exact List.mem_map.2 ⟨none, List.mem_of_getLast? hlast, rfl⟩
  have hany : ch.requirements.any (·.all v) = true := List.any_eq_true.2 ⟨none, hnone, rfl⟩
  rw [countP_branchGates hv [] (none_not_mem_requirements h), hany]
  rfl

end Choice

/-- The number of blocks for statements that no label interrupts. -/
def runSize (run : List String) : Nat :=
  if run.isEmpty then 0 else 1

/-- The choice that a label begins with its block `id`, if it does, when the other branches
are `others`. -/
def Opening.choices (opening : Opening) (c : Context) (site id : Nat)
    (others : List (Nat × Option (List Char))) : List Choice :=
  match opening with
  | choice condition => [{ context := c, site, branches := (id, some condition) :: others }]
  | _ => []

/-- The blocks of branches, of which the first one is `id`, with their conditions. -/
def Branches.heads (c : Context) (owner : Option String) (id : Nat) :
    Branches → List (Nat × Option (List Char))
  | .done => []
  | .branch condition body others =>
    (id, condition) :: others.heads c (owner.or body.firstScript)
      (id + 1 + (body.forest { c with owner }).size)

mutual

/-- The choices of an outline under the block `site`, when the first block after the texts that
it begins with is `id`. -/
def Outline.choices (c : Context) (site id : Nat) : Outline → List Choice
  | .done => []
  | .text _ o => o.choices c site id
  | .declaration _ name o => o.choices { c with locals := c.locals.insert name } site id
  | .block opening body others o =>
    let part := opening.part c body.locals
    let inner := opening.context c
    let within := { inner with script := part.script }
    let owner := inner.owner.or body.firstScript
    let next := id + 1 + (body.forest within).size
    let after := next + (others.forest inner owner part.requirements).size
    opening.choices inner site id (others.heads inner owner next) ++
      body.choices within id (id + 1 + runSize body.run) ++
      others.choices inner owner next ++
      o.choices { inner with owner := owner.or others.firstScript } site (after + runSize o.run)

/-- The choices inside branches, of which the first one is the block `id`. -/
def Branches.choices (c : Context) (owner : Option String) (id : Nat) : Branches → List Choice
  | .done => []
  | .branch _ body others =>
    body.choices { c with owner } id (id + 1 + runSize body.run) ++
      others.choices c (owner.or body.firstScript) (id + 1 + (body.forest { c with owner }).size)

end

/-! ### The blocks of branches -/

/-- The block of a branch in the block `site`. -/
structure Block.IsBranch (b : Block) (site : Nat) (branch : Nat × Option (List Char))
    (gate : Gate) : Prop where
  id_eq : b.id = branch.1
  kind_eq : b.kind = .conditional
  parent_eq : b.parent = some site
  label_eq : b.label = some (branch.2.elim "else" String.ofList)
  gate_eq : b.gate = { gate with block := some branch.1 }

/-- The branches have their gates among the blocks. -/
def BranchesIn (bs : List Block) (site : Nat) (branches : List (Nat × Option (List Char)))
    (gates : List Gate) : Prop :=
  List.Forall₂ (fun branch gate => ∃ b ∈ bs, b.IsBranch site branch gate) branches gates

/-- The choice has a branch for its own condition first, and all its branches have their gates
among the blocks. -/
structure Choice.IsIn (ch : Choice) (bs : List Block) : Prop where
  head?_eq : ∃ n condition, ch.branches.head? = some (n, some condition)
  sorted : ch.branches.Pairwise (·.1 < ·.1)
  branchesIn : BranchesIn bs ch.site ch.branches (branchGates [] ch.requirements)

theorem BranchesIn.mono {bs bs' : List Block} {site : Nat}
    {branches : List (Nat × Option (List Char))} {gates : List Gate} (hbs : bs ⊆ bs')
    (h : BranchesIn bs site branches gates) : BranchesIn bs' site branches gates :=
  List.Forall₂.imp (fun _ _ ⟨b, hb, hbranch⟩ => ⟨b, hbs hb, hbranch⟩) h

/-- The statements that no label interrupts have at most one block, in front of the others. -/
theorem Forest.blocks_withRun (script : Option String) (run : List String) (f : Forest)
    (parent id : Nat) :
    (withRun script run f).blocks parent id =
      leaf { self := parent, script } id run ++ f.blocks parent (id + runSize run) := by
  unfold withRun leaf runSize
  split <;> rfl

theorem Forest.blocks_subset_withRun (script : Option String) (run : List String) (f : Forest)
    (parent id : Nat) :
    f.blocks parent (id + runSize run) ⊆ (withRun script run f).blocks parent id := by
  rw [blocks_withRun]
  exact List.subset_append_right _ _

theorem Branches.branchesIn_heads (b : Branches) (c : Context) (owner : Option String)
    (earlier : List Requirement) (site id : Nat) :
    BranchesIn ((b.forest c owner earlier).blocks site id) site (b.heads c owner id)
      (branchGates earlier ((b.heads c owner id).map (·.2.map c.requirement))) := by
  cases b with
  | done => exact .nil
  | branch condition body others =>
    have hothers := others.branchesIn_heads c (owner.or body.firstScript)
      (earlier ++ (condition.map c.requirement).toList) site
      (id + 1 + (body.forest { c with owner }).size)
    rw [Branches.forest, Forest.blocks, Branches.heads, List.map_cons, branchGates]
    refine .cons ⟨_, List.mem_cons_self, rfl, rfl, rfl, rfl, rfl⟩ (hothers.mono ?_)
    intro b hb
    exact List.mem_cons_of_mem _ (List.mem_append_right _ hb)

/-- The blocks of branches stand one behind the other. -/
theorem Branches.sorted_heads (b : Branches) (c : Context) (owner : Option String) (id : Nat) :
    (∀ branch ∈ b.heads c owner id, id ≤ branch.1) ∧
      (b.heads c owner id).Pairwise (·.1 < ·.1) := by
  cases b with
  | done => exact ⟨by simp [Branches.heads], .nil⟩
  | branch condition body others =>
    obtain ⟨hle, hsorted⟩ := others.sorted_heads c (owner.or body.firstScript)
      (id + 1 + (body.forest { c with owner }).size)
    rw [Branches.heads, List.forall_mem_cons, List.pairwise_cons]
    refine ⟨⟨Nat.le_refl id, ?_⟩, ?_, hsorted⟩
    · intro branch hbranch
      have := hle branch hbranch
      omega
    · intro branch hbranch
      have := hle branch hbranch
      omega

/-- What is true of the choice that a label begins, and of the choices inside the label and
after it, is true of all choices of the outline. -/
theorem Outline.forall_mem_choices_block {P : Choice → Prop} {opening : Opening} {body o : Outline}
    {others : Branches} {c : Context} {site id : Nat} :
    (∀ ch ∈ (Outline.block opening body others o).choices c site id, P ch) ↔
      let part := opening.part c body.locals
      let inner := opening.context c
      let within := { inner with script := part.script }
      let owner := inner.owner.or body.firstScript
      let next := id + 1 + (body.forest within).size
      let after := next + (others.forest inner owner part.requirements).size
      (∀ ch ∈ opening.choices inner site id (others.heads inner owner next), P ch) ∧
      (∀ ch ∈ body.choices within id (id + 1 + runSize body.run), P ch) ∧
      (∀ ch ∈ others.choices inner owner next, P ch) ∧
      ∀ ch ∈ o.choices { inner with owner := owner.or others.firstScript } site
        (after + runSize o.run), P ch := by
  simp only [Outline.choices, List.forall_mem_append, and_assoc]

/-- The choice that a label begins has the part of the label for its first branch. -/
theorem Opening.isIn_of_mem_choices (opening : Opening) {c : Context} {locals : Locals}
    {site id : Nat} {children : List Nat} {others : List (Nat × Option (List Char))}
    {bs : List Block} (hpart : (opening.part c locals).block site id children ∈ bs)
    (hothers : BranchesIn bs site others (branchGates (opening.part c locals).requirements
      (others.map (·.2.map (opening.context c).requirement))))
    (hid : ∀ branch ∈ others, id < branch.1) (hsorted : others.Pairwise (·.1 < ·.1)) :
    ∀ ch ∈ opening.choices (opening.context c) site id others, ch.IsIn bs := by
  intro ch hch
  cases opening with
  | choice condition =>
    obtain rfl := List.mem_singleton.1 hch
    exact ⟨⟨id, condition, rfl⟩, .cons hid hsorted,
      .cons ⟨_, hpart, rfl, rfl, rfl, rfl, rfl⟩ hothers⟩
  | script _ => cases hch
  | result _ => cases hch
  | loop _ => cases hch

mutual

/-- The branches of the choices of an outline have their gates among its blocks. -/
theorem Outline.isIn_of_mem_choices (o : Outline) {c : Context} {site id : Nat} {bs : List Block}
    (hbs : (o.rest c).blocks site id ⊆ bs) : ∀ ch ∈ o.choices c site id, ch.IsIn bs := by
  cases o with
  | done => exact fun _ h => nomatch h
  | text line o => exact o.isIn_of_mem_choices hbs
  | declaration type name o => exact o.isIn_of_mem_choices hbs
  | block opening body others o =>
    rw [Outline.rest, Forest.blocks, Forest.blocks_append, List.cons_subset, List.append_subset,
      List.append_subset] at hbs
    obtain ⟨hpart, hbody, hothers, hafter⟩ := hbs
    rw [Outline.forall_mem_choices_block]
    refine ⟨?_, ?_, ?_, ?_⟩
    · obtain ⟨hle, hsorted⟩ := others.sorted_heads (opening.context c) _ _
      have hheads := (others.branchesIn_heads ..).mono hothers
      refine opening.isIn_of_mem_choices hpart hheads ?_ hsorted
      intro branch hbranch
      have := hle branch hbranch
      omega
    · exact body.isIn_of_mem_choices (List.Subset.trans (Forest.blocks_subset_withRun ..) hbody)
    · exact others.isIn_of_mem_choices hothers
    · exact o.isIn_of_mem_choices (List.Subset.trans (Forest.blocks_subset_withRun ..) hafter)

theorem Branches.isIn_of_mem_choices (b : Branches) {c : Context} {owner : Option String}
    {earlier : List Requirement} {site id : Nat} {bs : List Block}
    (hbs : (b.forest c owner earlier).blocks site id ⊆ bs) :
    ∀ ch ∈ b.choices c owner id, ch.IsIn bs := by
  cases b with
  | done => exact fun _ h => nomatch h
  | branch condition body others =>
    rw [Branches.forest, Forest.blocks, List.cons_subset, List.append_subset] at hbs
    obtain ⟨-, hbody, hothers⟩ := hbs
    rw [Branches.choices, List.forall_mem_append]
    constructor
    · exact body.isIn_of_mem_choices (List.Subset.trans (Forest.blocks_subset_withRun ..) hbody)
    · exact others.isIn_of_mem_choices hothers

end

/-! ### The conditional blocks -/

/-- Among the blocks, `n` is conditional. -/
def IsConditionalIn (bs : List Block) (n : Nat) : Prop :=
  ∃ b ∈ bs, b.id = n ∧ b.kind = .conditional

@[simp] theorem isConditionalIn_cons {part : Part} {parent id n : Nat} {children : List Nat}
    {bs : List Block} :
    IsConditionalIn (part.block parent id children :: bs) n ↔
      (n = id ∧ part.kind = .conditional) ∨ IsConditionalIn bs n := by
  simp [IsConditionalIn, Part.block, eq_comm]

@[simp] theorem isConditionalIn_append {bs bs' : List Block} {n : Nat} :
    IsConditionalIn (bs ++ bs') n ↔ IsConditionalIn bs n ∨ IsConditionalIn bs' n := by
  simp [IsConditionalIn, or_and_right, exists_or]

@[simp] theorem Forest.isConditionalIn_withRun {script : Option String} {run : List String}
    {f : Forest} {parent id n : Nat} :
    IsConditionalIn ((withRun script run f).blocks parent id) n ↔
      IsConditionalIn (f.blocks parent (id + runSize run)) n := by
  have hleaf : ¬IsConditionalIn (leaf { self := parent, script } id run) n := by
    rintro ⟨b, hb, -, hkind⟩
    unfold leaf at hb
    split at hb
    · cases hb
    · obtain rfl := List.mem_singleton.1 hb
      cases hkind
  rw [blocks_withRun, isConditionalIn_append, or_iff_right hleaf]

/-- The blocks of the branches of choices. -/
def branchIds (chs : List Choice) : List Nat :=
  chs.flatMap fun ch => ch.branches.map (·.1)

@[simp] theorem branchIds_nil : branchIds [] = [] := rfl

@[simp] theorem branchIds_append (chs chs' : List Choice) :
    branchIds (chs ++ chs') = branchIds chs ++ branchIds chs' :=
  List.flatMap_append

/-- Only a label divides that stands in a choice. -/
theorem Line.family_of_mark {l : Line} {f : Family} {c : Option (List Char)}
    (h : l.mark f = .divides c) : f = .choice := by
  by_contra hf
  cases l with
  | label label _ =>
    cases label with
    | opens o => simp only [Line.mark] at h; split at h <;> cases h
    | divides c => simp only [Line.mark, if_neg hf] at h; cases h
    | closes f' => simp only [Line.mark] at h; split at h <;> cases h
  | declaration _ _ => cases h
  | statement _ => cases h

theorem others_cut_of_ne {f : Family} (hf : f ≠ .choice) (n : Nat) (ls : List Line) :
    (cut f n ls).others = [] := by
  fun_induction cut f n ls with
  | case1 => rfl
  | case2 l r n hmark ih => exact ih
  | case3 l r hmark => rfl
  | case4 l r n hmark ih => exact ih
  | case5 l r c hmark ih => exact absurd (Line.family_of_mark hmark) hf
  | case6 l r n _ _ _ _ ih => exact ih

/-- Among the branches of the choice that a label begins is the block of the label itself. -/
theorem Opening.mem_branchIds_choices {opening : Opening} {c : Context} {site id n : Nat}
    {others : List (Nat × Option (List Char))} (ho : opening.family ≠ .choice → others = []) :
    n ∈ branchIds (opening.choices c site id others) ↔
      (n = id ∧ opening.kind = .conditional) ∨ n ∈ others.map (·.1) := by
  cases opening with
  | choice condition => simp [Opening.choices, Opening.kind, branchIds]
  | script _ =>
    rw [ho (by simp [Opening.family])]
    simp [Opening.choices, Opening.kind]
  | result _ =>
    rw [ho (by simp [Opening.family])]
    simp [Opening.choices, Opening.kind]
  | loop _ =>
    rw [ho (by simp [Opening.family])]
    simp [Opening.choices, Opening.kind]

/-- The conditional blocks of an outline are the branches of its choices. -/
theorem Outline.isConditionalIn_iff (ls : List Line) (c : Context) (site id n : Nat) :
    IsConditionalIn (((ofLines ls).rest c).blocks site id) n ↔
      n ∈ branchIds ((ofLines ls).choices c site id) := by
  induction ls using Outline.ofLines_induction (Q := fun bs =>
    ∀ c owner earlier site id,
      IsConditionalIn (((Branches.ofLines bs).forest c owner earlier).blocks site id) n ↔
        n ∈ ((Branches.ofLines bs).heads c owner id).map (·.1) ∨
          n ∈ branchIds ((Branches.ofLines bs).choices c owner id))
    generalizing c site id with
  | done => simp [ofLines, rest, Outline.choices, Forest.blocks, IsConditionalIn]
  | block o text r ihBody ihOthers ihRest =>
    have hothers (c : Context) (owner : Option String) (id : Nat) (ho : o.family ≠ .choice) :
        (Branches.ofLines (cut o.family 0 r).others).heads c owner id = [] := by
      rw [others_cut_of_ne ho, Branches.ofLines, Branches.heads]
    rw [ofLines, rest, Outline.choices, Forest.blocks, Forest.blocks_append]
    simp only [isConditionalIn_cons, isConditionalIn_append, Forest.isConditionalIn_withRun,
      branchIds_append, List.mem_append, Opening.mem_branchIds_choices (hothers _ _ _)]
    rw [ihBody, ihOthers, ihRest]
    dsimp only [Outline.forest]
    tauto
  | label label text r hopens ih =>
    rw [ofLines_label hopens]
    exact ih c site id
  | declaration type name r ih =>
    rw [ofLines]
    exact ih _ site id
  | statement text r ih =>
    rw [ofLines]
    exact ih c site id
  | none =>
    simp [Branches.ofLines, Branches.forest, Branches.heads, Branches.choices, Forest.blocks,
      IsConditionalIn]
  | branch condition ls r ihBody ihOthers =>
    rename_i c owner earlier site id
    rw [Branches.ofLines, Branches.forest, Branches.heads, Branches.choices, Forest.blocks]
    simp only [isConditionalIn_cons, isConditionalIn_append, Forest.isConditionalIn_withRun,
      branchIds_append, List.mem_append, List.map_cons, List.mem_cons]
    rw [ihBody, ihOthers]
    dsimp only [Outline.forest]
    tauto

end Questline
