import Questline.Script.Line

/-!
# Outlines

The outline of a script says which lines stand inside which labels. A label is
closed by the first closing label of its family that no later label of that
family claims; labels of other families do not count while it is open, and the
lines between are looked at on their own. A label that is never closed reaches to
the end, and a label that closes or divides nothing is plain text. So every list
of lines has an outline.

## Main definitions

* `Outline`: what stands on one level of a script
* `cut`: the lines that belong to a label just opened
* `Outline.ofLines`: the outline of a list of lines
-/

namespace Questline

mutual

/-- What stands on one level of a script, in order. -/
inductive Outline where
  | done
  | text (line : String) (next : Outline)
  | declaration (type : VariableType) (name : String) (next : Outline)
  | block (opening : Opening) (body : Outline) (others : Branches) (next : Outline)

/-- The branches of a choice after its first one. -/
inductive Branches where
  | done
  | branch (condition : Option (List Char)) (body : Outline) (next : Branches)

end

/-- What a line means to an open label of a family. -/
inductive Mark where
  | opens
  | divides (condition : Option (List Char))
  | closes
  | plain
deriving Repr, DecidableEq

def Line.mark (family : Family) : Line → Mark
  | .label (.opens o) _ => if o.family = family then .opens else .plain
  | .label (.divides c) _ => if family = .choice then .divides c else .plain
  | .label (.closes f) _ => if f = family then .closes else .plain
  | _ => .plain

/-- The lines of a label: those of its first branch, those of the others with
their conditions, and those after the label is closed. -/
structure Cut where
  body : List Line := []
  others : List (Option (List Char) × List Line) := []
  rest : List Line := []

namespace Cut

/-- Put a line in front of the first branch. -/
def push (l : Line) (c : Cut) : Cut :=
  { c with body := l :: c.body }

/-- Turn the first branch into one of the others, after an empty one. -/
def divide (condition : Option (List Char)) (c : Cut) : Cut :=
  { body := [], others := (condition, c.body) :: c.others, rest := c.rest }

end Cut

/-- The number of lines in branches, each counted with the label before it. -/
def branchLines : List (Option (List Char) × List Line) → Nat
  | [] => 0
  | b :: bs => b.2.length + 1 + branchLines bs

/-- The lines of a label just opened, when `nesting` more labels of its family
are open inside. -/
def cut (family : Family) (nesting : Nat) : List Line → Cut
  | [] => {}
  | l :: r =>
    match l.mark family, nesting with
    | .opens, n => (cut family (n + 1) r).push l
    | .closes, 0 => { rest := r }
    | .closes, n + 1 => (cut family n r).push l
    | .divides c, 0 => (cut family 0 r).divide c
    | _, n => (cut family n r).push l

/-- No line is used twice. -/
theorem length_cut_le (family : Family) (nesting : Nat) (ls : List Line) :
    (cut family nesting ls).body.length + branchLines (cut family nesting ls).others +
      (cut family nesting ls).rest.length ≤ ls.length := by
  fun_induction cut family nesting ls <;>
    simp_all only [Cut.push, Cut.divide, branchLines, List.length_cons, List.length_nil] <;>
    omega

mutual

def Outline.ofLines (ls : List Line) : Outline :=
  match ls with
  | [] => .done
  | .label (.opens o) _ :: r =>
    have := length_cut_le o.family 0 r
    .block o (Outline.ofLines (cut o.family 0 r).body) (Branches.ofLines (cut o.family 0 r).others)
      (Outline.ofLines (cut o.family 0 r).rest)
  | .label _ text :: r => .text text (Outline.ofLines r)
  | .declaration type name :: r => .declaration type name (Outline.ofLines r)
  | .statement text :: r => .text text (Outline.ofLines r)
termination_by 2 * ls.length + 1

def Branches.ofLines (bs : List (Option (List Char) × List Line)) : Branches :=
  match bs with
  | [] => .done
  | (condition, ls) :: r => .branch condition (Outline.ofLines ls) (Branches.ofLines r)
termination_by 2 * branchLines bs
decreasing_by
  all_goals simp only [branchLines]
  all_goals omega

end

end Questline
