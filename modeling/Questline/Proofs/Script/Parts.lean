import Questline.Proofs.Script.Level

/-!
# The parts of any script

Every list of lines has an outline, whether its labels are well nested or not. The blocks of
a script are a forest that the outline determines, numbered in the order of the script.

## Main definitions

* `Outline.run`, `Outline.locals`, `Outline.firstScript`: what a level says about itself
* `Outline.forest`, `Branches.forest`: the parts of a level and of the branches of a choice
* `Forest.parts`: the parts of a forest in the order of their numbers
* `Forest.tree`: a forest numbered below a root

## Main results

* `Outline.isLaid`: laying out a level gives its forest
* `Tree.ofOutline_fst`, `Tree.parse_fst`: the tree of an outline, and of a script, is its forest
-/

namespace Questline

/-! ### What a level says about itself -/

namespace Outline

/-- The texts before the first label that opens. Declarations are not among them. -/
def run : Outline → List String
  | .text line o => line :: o.run
  | .declaration _ _ o => o.run
  | .done => []
  | .block _ _ _ _ => []

/-- The declarations on the level itself. -/
def declarations : Outline → List (String × VariableType)
  | .done => []
  | .text _ o => o.declarations
  | .declaration type name o => (name, type) :: o.declarations
  | .block _ _ _ o => o.declarations

/-- The local variables that are declared on the level itself. -/
def locals (o : Outline) : Locals :=
  declareAll ∅ o.declarations

end Outline

mutual

/-- The id that the outline is the first to give to a script, if it names one. -/
def Outline.firstScript : Outline → Option String
  | .done => none
  | .text _ o => o.firstScript
  | .declaration _ _ o => o.firstScript
  | .block opening body others o =>
    ((opening.scriptId?.or body.firstScript).or others.firstScript).or o.firstScript

def Branches.firstScript : Branches → Option String
  | .done => none
  | .branch _ body others => body.firstScript.or others.firstScript

end

/-! ### The parts of an outline -/

mutual

/-- The parts of an outline after the texts it begins with. -/
def Outline.rest (c : Context) : Outline → Forest
  | .done => .nil
  | .text _ o => o.rest c
  | .declaration _ name o => o.rest { c with locals := c.locals.insert name }
  | .block opening body others o =>
    let part := opening.part c body.locals
    let inner := opening.context c
    let owner := inner.owner.or body.firstScript
    .cons part
      (.withRun part.script body.run (body.rest { inner with script := part.script }))
      (others.forest inner owner part.requirements ++
        .withRun c.script o.run (o.rest { inner with owner := owner.or others.firstScript }))

/-- The branches of a choice in the context `c`, when `owner` is the script that was named
first before them and the branches before them require `earlier`. -/
def Branches.forest (c : Context) (owner : Option String) (earlier : List Requirement) :
    Branches → Forest
  | .done => .nil
  | .branch condition body others =>
    let own := (condition.map c.requirement).toList
    .cons
      { kind := .conditional, script := c.script, requirements := earlier.map .negated ++ own,
        locals := body.locals, label := some (condition.elim "else" String.ofList) }
      (.withRun c.script body.run (body.rest { c with owner }))
      (others.forest c (owner.or body.firstScript) (earlier ++ own))

end

/-- The parts of an outline: the texts it begins with, and the rest. -/
def Outline.forest (o : Outline) (c : Context) : Forest :=
  .withRun c.script o.run (o.rest c)

/-! ### Laying out an outline -/

/-- The level of an outline is its forest, after the texts that wait for their block. -/
def Outline.IsLaid (o : Outline) : Prop :=
  ∀ s id pending declared p,
    Laid (o.lay s id pending declared p) p s id
      (.withRun s.script (pending ++ o.run) (o.rest (p.context s)))
      (declareAll declared o.declarations) (p.owner.or o.firstScript)

theorem Outline.IsLaid.laysOut {o : Outline} (h : o.IsLaid) (declared : Locals) :
    o.LaysOut declared o.forest (declareAll declared o.declarations) o.firstScript :=
  fun s id p => h s id [] declared p

mutual

theorem Outline.isLaid (o : Outline) : o.IsLaid := by
  intro s id pending declared p
  cases o with
  | done =>
    have h : Laid { locals := declared, progress := p } p s (id + (leaf s id pending).length) .nil
        declared (p.owner.or none) :=
      ⟨rfl, rfl, rfl, fun s' => by rw [Option.or_none]; rfl⟩
    have hlay : Outline.done.lay s id pending declared p =
        Level.after (leaf s id pending) { locals := declared, progress := p } := by
      rw [Outline.lay, Level.after, List.append_nil, List.append_nil]
    rw [hlay, Outline.run, Outline.rest, List.append_nil]
    exact h.after pending
  | text line o =>
    have h := o.isLaid s id (pending ++ [line]) declared p
    rw [List.append_assoc] at h
    exact h
  | declaration type name o =>
    have h := o.isLaid { s with locals := s.locals.insert name } id pending
      (declared.insert name type) p
    exact ⟨h.blocks, h.children, h.locals, h.context⟩
  | block opening body others o =>
    have h := Outline.laid_block opening (body.isLaid.laysOut ∅) others.laysOut
      (o.isLaid.laysOut declared) rfl rfl id pending (s := s) (p := p)
    rw [Outline.run, List.append_nil, Outline.firstScript, ← Option.or_assoc, ← Option.or_assoc,
      ← Option.or_assoc]
    exact h

theorem Branches.laysOut (b : Branches) :
    b.LaysOut (fun c owner earlier => b.forest c owner earlier) b.firstScript := by
  cases b with
  | done => exact Branches.laysOut_done
  | branch condition body others =>
    exact Branches.laysOut_branch condition (body.isLaid.laysOut ∅) others.laysOut

end

/-! ### Trees -/

/-- A forest numbered below a root with the given local variables. What belongs to no script
belongs to `owner`. -/
def Forest.tree (f : Forest) (locals : Locals) (owner : Option String) : Tree :=
  let root : Block :=
    { id := 0, kind := .sequential, children := f.roots 1, gate := .forBlock 0, locals }
  { blocks := ((root :: f.blocks 0 1).map fun b => { b with script := b.script.or owner }).toArray
    script := owner }

namespace Forest

/-- The parts of a forest in the order of their numbers. -/
def parts : Forest → List Part
  | nil => []
  | cons part below next => part :: (below.parts ++ next.parts)

/-- What blocks take over from their parts. -/
theorem map_blocks {α : Type} {g : Block → α} {h : Part → α}
    (hg : ∀ part parent id children, g (Part.block part parent id children) = h part)
    (f : Forest) (parent id : Nat) : (f.blocks parent id).map g = f.parts.map h := by
  induction f generalizing parent id with
  | nil => rfl
  | cons part below next ihb ihn => simp [blocks, parts, hg, ihb, ihn]

@[simp] theorem parts_append (f g : Forest) : (f ++ g).parts = f.parts ++ g.parts := by
  induction f with
  | nil => rfl
  | cons part below next _ ih => simp [parts, ih]

end Forest

/-- The tree of an outline is its forest. -/
theorem Tree.ofOutline_fst (o : Outline) (t : Translator) :
    (Tree.ofOutline o t).1 = (o.forest { globals := t.globals }).tree o.locals o.firstScript := by
  have h := o.isLaid {} 1 [] ∅ { translator := t }
  rw [Tree.ofOutline]
  dsimp only
  rw [h.children, h.blocks, h.locals, h.owner_eq]
  rfl

/-- So is the tree of any script. -/
theorem Tree.parse_fst (source : String) (t : Translator) :
    (Tree.parse source t).1 =
      let o := Outline.ofLines (sourceLines source.toList)
      (o.forest { globals := t.globals }).tree o.locals o.firstScript :=
  ofOutline_fst _ t

end Questline
