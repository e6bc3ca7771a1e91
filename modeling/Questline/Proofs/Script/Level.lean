import Questline.Proofs.Script.Forest

/-!
# Levels of a script

The blocks of a level are laid out while it is read from top to bottom, with the statements
that wait for their block, the variables declared so far and the script named so far. What
comes out is a forest, built from the forests of what is inside the labels of the level.

## Main definitions

* `Progress.context`: what conditions are read with while a level is laid out
* `Laid`: a level that holds the blocks of a forest
* `Outline.LaysOut`, `Branches.LaysOut`: levels whose forest depends on the context only

## Main results

* `Laid.append`, `Laid.branch`, `Laid.after`: levels built from levels
* `Outline.laid_block`, `Branches.laysOut_branch`: the level of a label and of its branches
-/

namespace Questline

/-- What conditions are read with. -/
def Progress.context (p : Progress) (s : Site) : Context where
  globals := p.translator.globals
  script := s.script
  owner := p.owner
  locals := s.locals

namespace Progress

variable (p : Progress) (s s' : Site)

theorem translate_fst (condition : List Char) :
    (p.translate s condition).1 = (p.context s).requirement condition := by
  unfold translate Translator.translateOrKeep Context.requirement context
  cases Questline.translate p.translator.globals
    { script := s.script.or p.owner, locals := s.locals } condition with
  | ok => rfl
  | error => rfl

/-- Reading a condition leaves the context as it was. -/
theorem context_translate (condition : List Char) :
    (p.translate s condition).2.context s' = p.context s' := by
  unfold translate context
  dsimp only
  rw [Translator.globals_translateOrKeep]

theorem context_translateAll (cs : List (Option (List Char))) :
    (p.translateAll s cs).2.context s' = p.context s' := by
  induction cs generalizing p with
  | nil => rfl
  | cons c cs ih =>
    cases c with
    | none => exact ih p
    | some c =>
      rw [translateAll]
      exact (ih _).trans (p.context_translate s s' c)

/-- All conditions of a label are read in the same context. -/
theorem translateAll_fst (cs : List (Option (List Char))) :
    (p.translateAll s cs).1 = cs.map (·.map (p.context s).requirement) := by
  induction cs generalizing p with
  | nil => rfl
  | cons c cs ih =>
    cases c with
    | none =>
      rw [translateAll, List.map_cons, ← ih]
      rfl
    | some c =>
      rw [translateAll, List.map_cons, Option.map_some, ← translate_fst,
        ← p.context_translate s s c, ← ih]

end Progress

/-- A level whose blocks are those of a forest under the block of `s`, numbered from `id`
on. Laying it out has changed nothing but the script named first. -/
structure Laid (level : Level) (p : Progress) (s : Site) (id : Nat) (f : Forest)
    (locals : Locals) (owner : Option String) : Prop where
  blocks : level.blocks = f.blocks s.self id
  children : level.children = f.roots id
  locals : level.locals = locals
  context (s' : Site) : level.progress.context s' = { p.context s' with owner }

namespace Laid

variable {level : Level} {p : Progress} {s : Site} {id : Nat} {f : Forest} {locals : Locals}
  {owner : Option String}

theorem length_blocks (h : Laid level p s id f locals owner) : level.blocks.length = f.size := by
  rw [h.blocks, Forest.length_blocks]

theorem owner_eq (h : Laid level p s id f locals owner) : level.progress.owner = owner :=
  congrArg Context.owner (h.context s)

end Laid

/-! ### Levels built from levels -/

namespace Level

/-- One level after another. -/
def append (l m : Level) : Level :=
  { m with blocks := l.blocks ++ m.blocks, children := l.children ++ m.children }

/-- A level with a block, and what is below it, in front. -/
def branch (block : Block) (below l : Level) : Level :=
  { l with blocks := block :: below.blocks ++ l.blocks, children := block.id :: l.children }

/-- A level with blocks that have nothing below them in front. -/
def after (leaves : List Block) (l : Level) : Level :=
  { l with blocks := leaves ++ l.blocks, children := leaves.map (·.id) ++ l.children }

end Level

namespace Laid

variable {level first : Level} {p q : Progress} {s inner : Site} {id n : Nat} {f g : Forest}
  {locals lb : Locals} {owner ob : Option String}

/-- The level can be seen from any progress that differs in the script named first only. -/
theorem congr {o : Option String} (h : Laid level q s id f locals owner)
    (hq : ∀ s', q.context s' = { p.context s' with owner := o }) :
    Laid level p s id f locals owner where
  blocks := h.blocks
  children := h.children
  locals := h.locals
  context s' := by rw [h.context, hq]

theorem append (h : Laid first p s id f lb ob)
    (hl : Laid level first.progress s (id + first.blocks.length) g locals owner) :
    Laid (first.append level) p s id (f ++ g) locals owner where
  blocks := by
    rw [Forest.blocks_append, ← h.length_blocks, ← h.blocks, ← hl.blocks, Level.append]
  children := by
    rw [Forest.roots_append, ← h.length_blocks, ← h.children, ← hl.children, Level.append]
  locals := hl.locals
  context s' := (hl.context s').trans (by rw [h.context])

/-- The block of a branch is its part, with the roots of what is below as its children. -/
theorem branchBlock_eq (h : Laid first p inner (inner.self + 1) f lb ob) (kind : BlockKind)
    (label : String) (rs : List Requirement) :
    branchBlock s inner kind label (Gate.ofList rs) first =
      Part.block
        { kind, script := inner.script, requirements := rs, locals := lb, label := some label }
        s.self inner.self (f.roots (inner.self + 1)) := by
  unfold branchBlock Part.block
  rw [h.children, h.locals]

theorem branch (h : Laid first p inner (inner.self + 1) f lb ob) (kind : BlockKind)
    (label : String) (rs : List Requirement)
    (hl : Laid level first.progress s (inner.self + 1 + first.blocks.length) g locals owner) :
    Laid (first.branch (branchBlock s inner kind label (Gate.ofList rs) first) level) p s inner.self
      (.cons
        { kind, script := inner.script, requirements := rs, locals := lb, label := some label }
        f g)
      locals owner where
  blocks := by
    rw [Forest.blocks, ← h.length_blocks, ← h.blocks, ← hl.blocks, ← h.branchBlock_eq]
    rfl
  children := by
    rw [Forest.roots, ← h.length_blocks, ← hl.children]
    rfl
  locals := hl.locals
  context s' := (hl.context s').trans (by rw [h.context])

/-- Statements that wait for their block get it in front of the level. -/
theorem after (run : List String)
    (h : Laid level p s (id + (leaf s id run).length) f locals owner) :
    Laid (level.after (leaf s id run)) p s id (.withRun s.script run f) locals owner where
  blocks := by
    rw [Level.after, h.blocks, leaf, Forest.withRun]
    split <;> rfl
  children := by
    rw [Level.after, h.children, leaf, Forest.withRun]
    split <;> rfl
  locals := h.locals
  context := h.context

end Laid

/-! ### Labels -/

/-- The level of an outline is a forest that depends on the context only. -/
def Outline.LaysOut (o : Outline) (declared : Locals) (f : Context → Forest) (locals : Locals)
    (first : Option String) : Prop :=
  ∀ s id p, Laid (o.lay s id [] declared p) p s id (f (p.context s)) locals (p.owner.or first)

/-- The branches of a choice are a forest that depends on the context of the choice, the
script named first before them, and the requirements of the branches before them. -/
def Branches.LaysOut (b : Branches)
    (f : Context → Option String → List Requirement → Forest) (first : Option String) : Prop :=
  ∀ s id p c earlier, p.context s = { c with owner := p.owner } →
    Laid (b.lay s id (branchGates earlier (b.conditions.map (·.map c.requirement))) p) p s id
      (f c p.owner earlier) ∅ (p.owner.or first)

/-- The level of a label, from the levels of its first branch, of the others and of what
comes after it. -/
theorem Outline.lay_block {opening : Opening} {body o : Outline} {others : Branches} {s : Site}
    {id n : Nat} {pending : List String} {declared : Locals} {p : Progress}
    {q : List (Option Requirement) × Progress} {gate : Gate} {gates : List Gate}
    {first more after : Level} (hn : id + (leaf s id pending).length = n)
    (hq : ({ p with owner := p.owner.or opening.scriptId? } : Progress).translateAll s
      (opening.condition? :: others.conditions) = q)
    (hg : branchGates [] q.1 = gate :: gates)
    (hfirst : body.lay { s with self := n, script := opening.scriptId?.or s.script } (n + 1) [] ∅
      q.2 = first)
    (hmore : others.lay s (n + 1 + first.blocks.length) gates first.progress = more)
    (hafter : o.lay s (n + 1 + first.blocks.length + more.blocks.length) [] declared
      more.progress = after) :
    (Outline.block opening body others o).lay s id pending declared p =
      (first.branch
        (branchBlock s { s with self := n, script := opening.scriptId?.or s.script } opening.kind
          opening.label gate first)
        (more.append after)).after (leaf s id pending) := by
  subst hn hq hafter hmore hfirst
  rw [Outline.lay]
  dsimp only
  rw [hg, List.headD_cons, List.tail_cons]
  simp only [Level.after, Level.branch, Level.append, List.append_assoc, List.cons_append]
  rfl

/-- The context of a label, which may name its script. -/
def Opening.context (opening : Opening) (c : Context) : Context :=
  { c with owner := c.owner.or opening.scriptId? }

/-- The part of the first branch of a label. -/
def Opening.part (opening : Opening) (c : Context) (locals : Locals) : Part where
  kind := opening.kind
  script := opening.scriptId?.or c.script
  requirements := (opening.condition?.map (opening.context c).requirement).toList
  locals := locals
  label := some opening.label

/-- Only labels that name a script change the context. -/
theorem Opening.context_eq_self {opening : Opening} (h : opening.scriptId? = none) (c : Context) :
    opening.context c = c := by
  rw [Opening.context, h, Option.or_none]

theorem Opening.part_eq {opening : Opening} (h : opening.scriptId? = none) (c : Context)
    (locals : Locals) :
    opening.part c locals =
      { kind := opening.kind, script := c.script
        requirements := (opening.condition?.map c.requirement).toList, locals
        label := some opening.label } := by
  rw [part, context_eq_self h, h, Option.none_or]

/-- The level of a label is the part of its first branch with what is below, the parts of
the others, and what comes after the label. -/
theorem Outline.laid_block (opening : Opening) {body o : Outline} {others : Branches}
    {declared lb ln : Locals} {fb fn : Context → Forest}
    {fo : Context → Option String → List Requirement → Forest} {ob oo on : Option String}
    {s : Site} {p : Progress} {c : Context} {part : Part} (hb : body.LaysOut ∅ fb lb ob)
    (ho : others.LaysOut fo oo) (ha : o.LaysOut declared fn ln on)
    (hc : opening.context (p.context s) = c) (hpart : opening.part (p.context s) lb = part)
    (id : Nat) (pending : List String) :
    Laid ((Outline.block opening body others o).lay s id pending declared p) p s id
      (.withRun s.script pending (.cons part (fb { c with script := part.script })
        (fo c (c.owner.or ob) part.requirements ++
          fn { c with owner := (c.owner.or ob).or oo })))
      ln (((c.owner.or ob).or oo).or on) := by
  subst hc hpart
  set c := opening.context (p.context s)
  set part := opening.part (p.context s) lb
  generalize hn : id + (leaf s id pending).length = n
  -- the conditions of all branches are read first, in the context of the label
  let p₁ : Progress := { p with owner := p.owner.or opening.scriptId? }
  have hcontext (s' : Site) :=
    p₁.context_translateAll s s' (opening.condition? :: others.conditions)
  have hgates : branchGates [] (p₁.translateAll s (opening.condition? :: others.conditions)).1 =
      Gate.ofList part.requirements ::
        branchGates part.requirements (others.conditions.map (·.map c.requirement)) := by
    rw [Progress.translateAll_fst]
    rfl
  generalize hq : p₁.translateAll s (opening.condition? :: others.conditions) = q
    at hcontext hgates
  -- what is inside the first branch is read in the same context
  let inner : Site := { s with self := n, script := part.script }
  generalize hF : body.lay inner (n + 1) [] ∅ q.2 = first
  generalize hbelow : fb { c with script := part.script } = below
  have hfirst : Laid first q.2 inner (n + 1) below lb (c.owner.or ob) := by
    have howner : q.2.owner = c.owner := congrArg Context.owner (hcontext s)
    have hlaid := hb inner (n + 1) q.2
    rw [howner, hcontext, hF] at hlaid
    exact hbelow ▸ hlaid
  have hfirstContext : first.progress.context s = { c with owner := c.owner.or ob } := by
    rw [hfirst.context, hcontext]
    rfl
  -- the other branches may find a script named by the first
  have hmore := ho s (n + 1 + first.blocks.length) first.progress c part.requirements
    (by rw [hfirstContext, hfirst.owner_eq])
  generalize hM : others.lay s _ _ first.progress = more at hmore
  rw [hfirst.owner_eq] at hmore
  -- what comes after the label may find one named by any of the branches
  generalize hA : o.lay s (n + 1 + first.blocks.length + more.blocks.length) [] declared
    more.progress = after
  generalize hnext : fn { c with owner := (c.owner.or ob).or oo } = next
  have hafter : Laid after more.progress s (n + 1 + first.blocks.length + more.blocks.length) next
      ln (((c.owner.or ob).or oo).or on) := by
    have hlaid := ha s (n + 1 + first.blocks.length + more.blocks.length) more.progress
    rw [hmore.context, hfirstContext, hmore.owner_eq, hA] at hlaid
    exact hnext ▸ hlaid
  rw [Outline.lay_block hn hq hgates hF hM hA]
  have hbranch := hfirst.branch opening.kind opening.label part.requirements (hmore.append hafter)
  subst hn
  exact Laid.after pending (hbranch.congr hcontext)

theorem Branches.laysOut_done : Branches.done.LaysOut (fun _ _ _ => .nil) none := by
  intro s id p c earlier _
  refine ⟨rfl, rfl, rfl, fun s' => ?_⟩
  rw [Option.or_none]
  rfl

theorem Branches.locals_lay (b : Branches) (s : Site) (n : Nat) (gates : List Gate)
    (p : Progress) : (b.lay s n gates p).locals = ∅ := by
  cases b <;> rw [lay]

/-- The level of a branch, from the levels of what is in it and of the branches after it. -/
theorem Branches.lay_branch {condition : Option (List Char)} {body : Outline} {others : Branches}
    {s : Site} {n : Nat} {gate : Gate} {gates : List Gate} {p : Progress} {first more : Level}
    (hfirst : body.lay { s with self := n } (n + 1) [] ∅ p = first)
    (hmore : others.lay s (n + 1 + first.blocks.length) gates first.progress = more) :
    (Branches.branch condition body others).lay s n (gate :: gates) p =
      first.branch (branchBlock s { s with self := n } .conditional
        (condition.elim "else" String.ofList) gate first) more := by
  have hlocals := others.locals_lay s (n + 1 + first.blocks.length) gates first.progress
  subst hmore hfirst
  rw [Branches.lay, Level.branch, hlocals]
  rfl

/-- A branch requires that those before it fail and that its own condition holds. -/
theorem Branches.laysOut_branch (condition : Option (List Char)) {body : Outline}
    {others : Branches} {lb : Locals} {fb : Context → Forest}
    {fo : Context → Option String → List Requirement → Forest} {ob oo : Option String}
    (hb : body.LaysOut ∅ fb lb ob) (ho : others.LaysOut fo oo) :
    (Branches.branch condition body others).LaysOut
      (fun c owner earlier =>
        let own := (condition.map c.requirement).toList
        .cons
          { kind := .conditional, script := c.script
            requirements := earlier.map .negated ++ own, locals := lb
            label := some (condition.elim "else" String.ofList) }
          (fb { c with owner }) (fo c (owner.or ob) (earlier ++ own)))
      (ob.or oo) := by
  intro s n p c earlier hc
  let own : List Requirement := (condition.map c.requirement).toList
  have hgates : branchGates earlier
      ((Branches.branch condition body others).conditions.map (·.map c.requirement)) =
      Gate.ofList (earlier.map .negated ++ own) ::
        branchGates (earlier ++ own) (others.conditions.map (·.map c.requirement)) := rfl
  let inner : Site := { s with self := n }
  have hfirst := hb inner (n + 1) p
  generalize hF : body.lay inner (n + 1) [] ∅ p = first at hfirst
  have hinner : p.context inner = { c with owner := p.owner } := hc
  rw [hinner] at hfirst
  have hmore := ho s (n + 1 + first.blocks.length) first.progress c (earlier ++ own)
    (by rw [hfirst.context, hc, hfirst.owner_eq])
  generalize hM : others.lay s _ _ first.progress = more at hmore
  rw [hfirst.owner_eq] at hmore
  have hbranch := hfirst.branch .conditional (condition.elim "else" String.ofList)
    (earlier.map .negated ++ own) hmore
  have hscript : inner.script = c.script := congrArg Context.script hc
  rw [hscript, Option.or_assoc] at hbranch
  rw [hgates, Branches.lay_branch hF hM]
  exact hbranch

end Questline
