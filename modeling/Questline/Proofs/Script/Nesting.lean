import Questline.Proofs.Script.Program

/-!
# Labels of well-nested programs

While a label is open, only labels of its own family are counted. Whatever a well-nested
program contains, it leaves the count as it was and neither closes nor divides a label
around it, so that the outline of its lines is the program itself.

## Main definitions

* `Held`: lines that all go to the first branch of an open label
* `Alternatives.pieces`: the lines of the branches of a choice

## Main results

* `Program.held`: the lines of a program never close or divide a label around it
* `Program.ofLines_lines`: the outline of the lines of a program
-/

namespace Questline

variable {f : Family} {n : Nat} {l : Line} {ls ms r : List Line}

/-- Put lines in front of the first branch. -/
def Cut.prepend (ls : List Line) (c : Cut) : Cut :=
  { c with body := ls ++ c.body }

@[simp] theorem Cut.push_prepend (l : Line) (ls : List Line) (c : Cut) :
    (c.prepend ls).push l = c.prepend (l :: ls) := rfl

@[simp] theorem Cut.prepend_prepend (ls ms : List Line) (c : Cut) :
    (c.prepend ms).prepend ls = c.prepend (ls ++ ms) := by
  simp [prepend]

/-! ### One line -/

theorem cut_of_plain (h : l.mark f = .plain) : cut f n (l :: r) = (cut f n r).push l := by
  simp [cut, h]

theorem cut_of_opens (h : l.mark f = .opens) : cut f n (l :: r) = (cut f (n + 1) r).push l := by
  simp [cut, h]

theorem cut_of_closes (h : l.mark f = .closes) : cut f 0 (l :: r) = { rest := r } := by
  simp [cut, h]

theorem cut_succ_of_closes (h : l.mark f = .closes) :
    cut f (n + 1) (l :: r) = (cut f n r).push l := by
  simp [cut, h]

theorem cut_of_divides {c : Option (List Char)} (h : l.mark f = .divides c) :
    cut f 0 (l :: r) = (cut f 0 r).divide c := by
  simp [cut, h]

theorem cut_succ_of_divides {c : Option (List Char)} (h : l.mark f = .divides c) :
    cut f (n + 1) (l :: r) = (cut f (n + 1) r).push l := by
  simp [cut, h]

/-! ### Lines that stay inside -/

/-- While a label of the family `f` is open with `n` more of them inside, all the lines go
to its first branch and leave `n` as it was. -/
def Held (f : Family) (n : Nat) (ls : List Line) : Prop :=
  ∀ r, cut f n (ls ++ r) = (cut f n r).prepend ls

namespace Held

theorem nil : Held f n [] := fun _ => rfl

theorem append (hl : Held f n ls) (hm : Held f n ms) : Held f n (ls ++ ms) := by
  intro r
  rw [List.append_assoc, hl, hm, Cut.prepend_prepend]

theorem plain (h : l.mark f = .plain) (hl : Held f n ls) : Held f n (l :: ls) := by
  intro r
  rw [List.cons_append, cut_of_plain h, hl, Cut.push_prepend]

/-- Lines without labels of the family. -/
theorem of_plain (h : ∀ l ∈ ls, l.mark f = .plain) : Held f n ls := by
  induction ls with
  | nil => exact .nil
  | cons l ls ih =>
    rw [List.forall_mem_cons] at h
    exact (ih h.2).plain h.1

/-- The closing label of the family comes after the lines. -/
theorem cut_closes (h : Held f 0 ls) (t : String) (r : List Line) :
    cut f 0 (ls ++ .label (.closes f) t :: r) = { body := ls, rest := r } := by
  have hmark : (Line.label (.closes f) t).mark f = .closes := if_pos rfl
  rw [h, cut_of_closes hmark]
  simp [Cut.prepend]

/-- A dividing label inside another label does not divide the outer one. -/
theorem divides {c : Option (List Char)} {t : String} (hn : f = .choice → 0 < n)
    (hl : Held f n ls) : Held f n (.label (.divides c) t :: ls) := by
  by_cases hf : f = .choice
  · obtain ⟨m, rfl⟩ := Nat.exists_eq_add_one.2 (hn hf)
    have hmark : (Line.label (.divides c) t).mark f = .divides c := if_pos hf
    intro r
    rw [List.cons_append, cut_succ_of_divides hmark, hl, Cut.push_prepend]
  · exact hl.plain (if_neg hf)

/-- A label inside another one takes its closing label with it, whether they are of the
same family, when it counts as one more, or not, when it does not count. -/
theorem block {o : Opening} {t t' : String}
    (hl : ∀ m, (f = o.family → 0 < m) → Held f m ls) (hm : Held f n ms) :
    Held f n (.label (.opens o) t :: (ls ++ .label (.closes o.family) t' :: ms)) := by
  by_cases hf : o.family = f
  · have hopens : (Line.label (.opens o) t).mark f = .opens := if_pos hf
    have hcloses : (Line.label (.closes o.family) t').mark f = .closes := if_pos hf
    intro r
    rw [List.cons_append, List.append_assoc, cut_of_opens hopens,
      hl (n + 1) (fun _ => Nat.succ_pos n), List.cons_append, cut_succ_of_closes hcloses, hm]
    simp
  · have hopens : (Line.label (.opens o) t).mark f = .plain := if_neg hf
    have hcloses : (Line.label (.closes o.family) t').mark f = .plain := if_neg hf
    apply plain hopens
    apply (hl n fun h => absurd h.symm hf).append
    exact hm.plain hcloses

end Held

mutual

/-- The lines of a program never close or divide a label around it. -/
theorem Program.held (p : Program) (f : Family) (n : Nat) : Held f n p.lines := by
  cases p with
  | done => exact .nil
  | statement s next => exact (next.held f n).plain rfl
  | declaration type i next => exact (next.held f n).plain rfl
  | script name body next => exact .block (fun m _ => body.held f m) (next.held f n)
  | choice c body others next =>
    apply Held.block _ (next.held f n)
    exact fun m hm => (body.held f m).append (others.held f m hm)
  | loop c body next => exact .block (fun m _ => body.held f m) (next.held f n)

/-- The branches of a choice divide no label but that choice. -/
theorem Alternatives.held (a : Alternatives) (f : Family) (n : Nat) (hn : f = .choice → 0 < n) :
    Held f n a.lines := by
  cases a with
  | done => exact .nil
  | otherwise body => exact (body.held f n).divides hn
  | elseif c body next => exact ((body.held f n).append (next.held f n hn)).divides hn

end

/-! ### The outline of a program -/

/-- The branches of a choice after the first, with their lines. -/
def Alternatives.pieces : Alternatives → List (Option (List Char) × List Line)
  | .done => []
  | .otherwise body => [(none, body.lines)]
  | .elseif c body next => (some c.condition, body.lines) :: next.pieces

/-- A label is closed by its own closing label. -/
theorem Program.cut_lines (p : Program) (f : Family) (t : String) (r : List Line) :
    cut f 0 (p.lines ++ .label (.closes f) t :: r) = { body := p.lines, rest := r } :=
  (p.held f 0).cut_closes t r

/-- A choice is divided into its own branches. -/
theorem Alternatives.cut_lines : ∀ (a : Alternatives) (t : String) (r : List Line),
    cut .choice 0 (a.lines ++ .label (.closes .choice) t :: r) =
      { others := a.pieces, rest := r }
  | .done, t, r => by simp [lines, pieces, cut, Line.mark]
  | .otherwise body, t, r => by
    have hmark : (Line.label (.divides none) "else").mark .choice = .divides none := rfl
    rw [lines, List.cons_append, cut_of_divides hmark, body.cut_lines]
    rfl
  | .elseif c body next, t, r => by
    have hmark : (c.line "elseif" (.divides (some c.condition))).mark .choice =
      .divides (some c.condition) := rfl
    rw [lines, List.cons_append, List.append_assoc, cut_of_divides hmark, body.held .choice 0,
      next.cut_lines]
    simp [Cut.prepend, Cut.divide, pieces]

mutual

/-- The outline of the lines of a program. -/
theorem Program.ofLines_lines (p : Program) : Outline.ofLines p.lines = p.outline := by
  cases p with
  | done => rw [Program.lines, Outline.ofLines, Program.outline]
  | statement s next =>
    rw [Program.lines, Outline.ofLines, next.ofLines_lines, Program.outline]
  | declaration type i next =>
    rw [Program.lines, Outline.ofLines, next.ofLines_lines, Program.outline]
  | script name body next =>
    rw [Program.lines, Phrase.line, Outline.ofLines, Opening.family, body.cut_lines]
    rw [body.ofLines_lines, next.ofLines_lines, Branches.ofLines, Program.outline]
  | choice c body others next =>
    rw [Program.lines, Phrase.line, Outline.ofLines, Opening.family, List.append_assoc,
      body.held .choice 0, others.cut_lines]
    simp only [Cut.prepend, List.append_nil]
    rw [body.ofLines_lines, others.ofLines_pieces, next.ofLines_lines, Program.outline]
  | loop c body next =>
    rw [Program.lines, Phrase.line, Outline.ofLines, Opening.family, body.cut_lines]
    rw [body.ofLines_lines, next.ofLines_lines, Branches.ofLines, Program.outline]

theorem Alternatives.ofLines_pieces (a : Alternatives) :
    Branches.ofLines a.pieces = a.branches := by
  cases a with
  | done => rw [Alternatives.pieces, Branches.ofLines, Alternatives.branches]
  | otherwise body =>
    rw [Alternatives.pieces, Branches.ofLines, body.ofLines_lines, Branches.ofLines,
      Alternatives.branches]
  | elseif c body next =>
    rw [Alternatives.pieces, Branches.ofLines, body.ofLines_lines, next.ofLines_pieces,
      Alternatives.branches]

end

end Questline
