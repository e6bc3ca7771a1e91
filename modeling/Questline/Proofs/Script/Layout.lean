import Questline.Proofs.Script.Parts

/-!
# Laying out well-nested programs

What the parts of a program are can be read off the program itself, and so off its outline.

## Main results

* `Program.rest_outline`, `Alternatives.forest_branches`: the parts of a program are those of
  its outline
* `Program.isLaid`: the levels of a program
* `Tree.parse_render`: parsing a program gives its tree
-/

namespace Questline

namespace Program

theorem run_outline (p : Program) : p.outline.run = p.run := by
  cases p with
  | statement t next => rw [outline, Outline.run, run, next.run_outline]
  | declaration type i next => exact next.run_outline
  | done => rfl
  | script name body next => rfl
  | choice c body others next => rfl
  | loop c body next => rfl

theorem declarations_outline (p : Program) : p.outline.declarations = p.declarations := by
  cases p with
  | declaration type i next =>
    rw [outline, Outline.declarations, declarations, next.declarations_outline]
  | statement t next => exact next.declarations_outline
  | done => rfl
  | script name body next => exact next.declarations_outline
  | choice c body others next => exact next.declarations_outline
  | loop c body next => exact next.declarations_outline

theorem locals_outline (p : Program) : p.outline.locals = p.locals := by
  rw [Outline.locals, declarations_outline, locals]

end Program

mutual

theorem Program.firstScript_outline (p : Program) : p.outline.firstScript = p.firstScript := by
  cases p with
  | done => rfl
  | statement t next => exact next.firstScript_outline
  | declaration type i next => exact next.firstScript_outline
  | script name body next =>
    rw [Program.outline, Outline.firstScript, Branches.firstScript, Option.or_none,
      body.firstScript_outline, next.firstScript_outline]
    rfl
  | choice c body others next =>
    rw [Program.outline, Outline.firstScript, body.firstScript_outline,
      others.firstScript_branches, next.firstScript_outline]
    rfl
  | loop c body next =>
    rw [Program.outline, Outline.firstScript, Branches.firstScript, Option.or_none,
      body.firstScript_outline, next.firstScript_outline]
    rfl

theorem Alternatives.firstScript_branches (a : Alternatives) :
    a.branches.firstScript = a.firstScript := by
  cases a with
  | done => rfl
  | otherwise body =>
    rw [Alternatives.branches, Branches.firstScript, Branches.firstScript, Option.or_none,
      body.firstScript_outline]
    rfl
  | elseif c body next =>
    rw [Alternatives.branches, Branches.firstScript, body.firstScript_outline,
      next.firstScript_branches]
    rfl

end

mutual

/-- The parts of a program are those of its outline. -/
theorem Program.rest_outline (p : Program) (c : Context) : p.outline.rest c = p.rest c := by
  cases p with
  | done => rfl
  | statement t next => exact next.rest_outline c
  | declaration type i next => exact next.rest_outline _
  | script name body next =>
    simp only [Program.outline, Outline.rest, Branches.forest, Branches.firstScript,
      Forest.nil_append, Option.or_none, body.run_outline, body.rest_outline, body.locals_outline,
      body.firstScript_outline, next.run_outline, next.rest_outline]
    rfl
  | choice condition body others next =>
    simp only [Program.outline, Outline.rest, body.run_outline, body.rest_outline,
      body.locals_outline, body.firstScript_outline, others.forest_branches,
      others.firstScript_branches, next.run_outline, next.rest_outline]
    rw [Opening.context_eq_self rfl, Opening.part_eq rfl]
    rfl
  | loop condition body next =>
    simp only [Program.outline, Outline.rest, Branches.forest, Branches.firstScript,
      Forest.nil_append, Option.or_none, body.run_outline, body.rest_outline, body.locals_outline,
      body.firstScript_outline, next.run_outline, next.rest_outline]
    rw [Opening.context_eq_self rfl, Opening.part_eq rfl]
    rfl

theorem Alternatives.forest_branches (a : Alternatives) (c : Context) (owner : Option String)
    (earlier : List Requirement) :
    a.branches.forest c owner earlier = a.forest c owner earlier := by
  cases a with
  | done => rfl
  | otherwise body =>
    simp only [Alternatives.branches, Branches.forest, Alternatives.forest, body.run_outline,
      body.rest_outline, body.locals_outline, Option.map_none, Option.toList_none, List.append_nil]
    rfl
  | elseif condition body next =>
    simp only [Alternatives.branches, Branches.forest, Alternatives.forest, body.run_outline,
      body.rest_outline, body.locals_outline, body.firstScript_outline, next.forest_branches]
    rfl

end

/-- The level of a program is its forest, after the statements that wait for their block. -/
def Program.IsLaid (p : Program) : Prop :=
  ∀ s id pending declared q,
    Laid (p.outline.lay s id pending declared q) q s id
      (.withRun s.script (pending ++ p.run) (p.rest (q.context s)))
      (declareAll declared p.declarations) (q.owner.or p.firstScript)

theorem Program.isLaid (p : Program) : p.IsLaid := by
  intro s id pending declared q
  have h := p.outline.isLaid s id pending declared q
  rwa [p.run_outline, p.rest_outline, p.declarations_outline, p.firstScript_outline] at h

/-- Parsing a well-nested program, written with one item on each line, gives its tree. -/
theorem Tree.parse_render (p : Program) (t : Translator) :
    (Tree.parse p.render t).1 = p.tree t.globals := by
  have h := p.isLaid {} 1 [] ∅ { translator := t }
  rw [Tree.parse, p.sourceLines_render, p.ofLines_lines, Tree.ofOutline]
  dsimp only
  rw [h.children, h.blocks, h.locals, h.owner_eq]
  rfl

end Questline
