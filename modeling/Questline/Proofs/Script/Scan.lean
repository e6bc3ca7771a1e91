import Questline.Proofs.Script.Kept

/-!
# Reading level by level

A script can be read one level at a time. While a label of the level is open, the lines of its
branches are only collected; once it is closed, they are read in the same way, each branch as a
level of its own. However the labels are nested and whether or not they are closed, no line is
collected twice, and the label with which a branch begins is not collected for it. So a branch has
fewer lines than its level, reading ends, and what is read is the outline of the script.

## Main definitions

* `Head`, `Piece`: the labels that begin a branch, and what a level consists of
* `OpenLabel`, `scanLine`: what is known while a label is open, and what one more line changes
* `levelPieces`, `innerLevels`: the pieces of a level, and the lines of its branches
* `ReadsByLevel`: readings that read the branches of a level like the level itself

## Main results

* `scanLine_some`: what a line can do to an open label
* `pieceLines_scanLine_le`, `pieceLines_scanFrom_le`: a line comes to stand in one piece at most
* `length_lt_of_mem_innerLevels`: a branch has fewer lines than the level that it stands on
* `scanFrom_some`: what is collected is what is cut off
* `readsByLevel_iff`: outlines are what is read level by level, and nothing else is
-/

namespace Questline

/-- A label that begins a branch. -/
inductive Head where
  | opens (opening : Opening)
  | divides (condition : Option (List Char))
deriving DecidableEq

/-- What a level consists of. Branches are those of all its labels, in order. -/
inductive Piece (α : Type) where
  | text (line : String)
  | declaration (type : VariableType) (name : String)
  | branch (head : Head) (inner : α)
deriving DecidableEq

namespace Piece

variable {α β : Type}

def map (f : α → β) : Piece α → Piece β
  | text line => text line
  | declaration type name => declaration type name
  | branch head inner => branch head (f inner)

/-- What is inside a branch. -/
def inner? : Piece α → Option α
  | branch _ inner => some inner
  | _ => none

/-- The number of lines in a piece, with the label that begins a branch. -/
def size : Piece (List Line) → Nat
  | branch _ inner => inner.length + 1
  | _ => 1

/-- Two ways of reading that agree on what is inside a piece agree on the piece. -/
theorem map_congr {f g : α → β} {p : Piece α} (h : ∀ a ∈ p.inner?, f a = g a) :
    p.map f = p.map g := by
  cases p with
  | text line => rfl
  | declaration type name => rfl
  | branch head inner => exact congrArg (branch head) (h inner rfl)

end Piece

/-! ### Collecting lines -/

/-- A label that is open, with the lines that were collected for its branches. -/
structure OpenLabel where
  family : Family
  /-- The number of labels of the family that are open inside. -/
  nesting : Nat := 0
  /-- The branches before the one that lines are collected for. -/
  done : List (Piece (List Line)) := []
  head : Head
  lines : List Line := []

namespace OpenLabel

variable (o : OpenLabel)

def branches : List (Piece (List Line)) :=
  o.done ++ [.branch o.head o.lines]

/-- Collect a line, after which `nesting` labels of the family are open inside. -/
def collect (nesting : Nat) (l : Line) : OpenLabel :=
  { o with nesting, lines := o.lines ++ [l] }

/-- Begin another branch. -/
def divide (condition : Option (List Char)) : OpenLabel :=
  { o with done := o.branches, head := .divides condition, lines := [] }

end OpenLabel

/-- The pieces of the label that is open, when it is closed. -/
def openPieces (opened : Option OpenLabel) : List (Piece (List Line)) :=
  opened.elim [] OpenLabel.branches

/-- What a line adds to the pieces of its level, and the label that is open after it. -/
def scanLine (opened : Option OpenLabel) (l : Line) : List (Piece (List Line)) × Option OpenLabel :=
  match opened with
  | some o =>
    match l.mark o.family, o.nesting with
    | .opens, n => ([], some (o.collect (n + 1) l))
    | .closes, 0 => (o.branches, none)
    | .closes, n + 1 => ([], some (o.collect n l))
    | .divides condition, 0 => ([], some (o.divide condition))
    | _, n => ([], some (o.collect n l))
  | none =>
    match l with
    | .label (.opens opening) _ => ([], some { family := opening.family, head := .opens opening })
    | .label _ text => ([.text text], none)
    | .declaration type name => ([.declaration type name], none)
    | .statement text => ([.text text], none)

/-- The pieces that the lines of a level still give when `opened` is the label that is open before
them. A label that is open at the end is closed there. -/
def scanFrom (opened : Option OpenLabel) : List Line → List (Piece (List Line))
  | [] => openPieces opened
  | l :: ls => (scanLine opened l).1 ++ scanFrom (scanLine opened l).2 ls

/-- The pieces of a level. -/
def levelPieces (ls : List Line) : List (Piece (List Line)) :=
  scanFrom none ls

/-- The lines of the branches of a level. Each of them is a level of its own. -/
def innerLevels (ls : List Line) : List (List Line) :=
  (levelPieces ls).filterMap Piece.inner?

/-- What a line can do to an open label, and how the label is cut off there: it is collected, it
closes the label, or it divides it. -/
theorem scanLine_some (o : OpenLabel) (l : Line) (r : List Line) :
    (∃ n, scanLine (some o) l = ([], some (o.collect n l)) ∧
      cut o.family o.nesting (l :: r) = (cut o.family n r).push l) ∨
    (scanLine (some o) l = (o.branches, none) ∧
      cut o.family o.nesting (l :: r) = { rest := r }) ∨
    ∃ condition, scanLine (some o) l = ([], some (o.divide condition)) ∧
      cut o.family o.nesting (l :: r) = (cut o.family o.nesting r).divide condition := by
  cases hmark : l.mark o.family with
  | opens => exact .inl ⟨o.nesting + 1, by simp [scanLine, hmark], cut_of_opens hmark⟩
  | plain => exact .inl ⟨o.nesting, by simp [scanLine, hmark], cut_of_plain hmark⟩
  | closes =>
    cases hn : o.nesting with
    | zero => exact .inr (.inl ⟨by simp [scanLine, hmark, hn], cut_of_closes hmark⟩)
    | succ n => exact .inl ⟨n, by simp [scanLine, hmark, hn], cut_succ_of_closes hmark⟩
  | divides condition =>
    cases hn : o.nesting with
    | zero => exact .inr (.inr ⟨condition, by simp [scanLine, hmark, hn], cut_of_divides hmark⟩)
    | succ n => exact .inl ⟨n + 1, by simp [scanLine, hmark, hn], cut_succ_of_divides hmark⟩

/-! ### The lines of a level -/

/-- The number of lines in pieces. -/
def pieceLines : List (Piece (List Line)) → Nat
  | [] => 0
  | p :: ps => p.size + pieceLines ps

@[simp] theorem pieceLines_nil : pieceLines [] = 0 := rfl

@[simp] theorem pieceLines_append (ps qs : List (Piece (List Line))) :
    pieceLines (ps ++ qs) = pieceLines ps + pieceLines qs := by
  induction ps with
  | nil => simp
  | cons p ps ih => rw [List.cons_append, pieceLines, pieceLines, ih, Nat.add_assoc]

theorem size_le_pieceLines {p : Piece (List Line)} {ps : List (Piece (List Line))} (h : p ∈ ps) :
    p.size ≤ pieceLines ps := by
  obtain ⟨before, after, rfl⟩ := List.append_of_mem h
  rw [pieceLines_append, pieceLines]
  omega

namespace OpenLabel

variable (o : OpenLabel)

theorem pieceLines_branches :
    pieceLines o.branches = pieceLines o.done + (o.lines.length + 1) := by
  rw [branches, pieceLines_append]
  rfl

theorem pieceLines_collect (n : Nat) (l : Line) :
    pieceLines (o.collect n l).branches = pieceLines o.branches + 1 := by
  rw [pieceLines_branches, pieceLines_branches, collect, List.length_append]
  rfl

/-- The label that divides counts for the branch that it begins. -/
theorem pieceLines_divide (condition : Option (List Char)) :
    pieceLines (o.divide condition).branches = pieceLines o.branches + 1 := by
  rw [pieceLines_branches, divide]
  rfl

end OpenLabel

/-- A line comes to stand in one piece at most. -/
theorem pieceLines_scanLine_le (opened : Option OpenLabel) (l : Line) :
    pieceLines (scanLine opened l).1 + pieceLines (openPieces (scanLine opened l).2) ≤
      pieceLines (openPieces opened) + 1 := by
  cases opened with
  | none =>
    cases l with
    | label label text => cases label <;> exact Nat.le_refl 1
    | declaration type name => exact Nat.le_refl 1
    | statement text => exact Nat.le_refl 1
  | some o =>
    obtain ⟨n, hline, -⟩ | ⟨hline, -⟩ | ⟨condition, hline, -⟩ := scanLine_some o l []
    · rw [hline]
      simp [openPieces, o.pieceLines_collect]
    · -- the label that closes is used up
      rw [hline]
      exact Nat.le_succ _
    · rw [hline]
      simp [openPieces, o.pieceLines_divide]

theorem pieceLines_scanFrom_le (opened : Option OpenLabel) (ls : List Line) :
    pieceLines (scanFrom opened ls) ≤ pieceLines (openPieces opened) + ls.length := by
  induction ls generalizing opened with
  | nil => exact Nat.le_refl _
  | cons l ls ih =>
    have hline := pieceLines_scanLine_le opened l
    have hrest := ih (scanLine opened l).2
    rw [scanFrom, pieceLines_append, List.length_cons]
    omega

/-- The pieces of a level have no more lines than the level. -/
theorem pieceLines_levelPieces_le (ls : List Line) : pieceLines (levelPieces ls) ≤ ls.length := by
  have h := pieceLines_scanFrom_le none ls
  rwa [openPieces, Option.elim_none, pieceLines_nil, Nat.zero_add] at h

/-- What is read inside a level has fewer lines than the level. -/
theorem length_lt_of_mem_innerLevels {ls inner : List Line} (h : inner ∈ innerLevels ls) :
    inner.length < ls.length := by
  obtain ⟨p, hp, hinner⟩ := List.mem_filterMap.1 h
  have hsize : p.size = inner.length + 1 := by
    cases p with
    | branch head lines => rw [Piece.size, Option.some.inj hinner]
    | text line => cases hinner
    | declaration type name => cases hinner
  have hle := size_le_pieceLines hp
  have hlines := pieceLines_levelPieces_le ls
  omega

/-! ### Collecting and cutting -/

/-- The branches of a choice after the first one as pieces. -/
def branchPieces (bs : List (Option (List Char) × List Line)) : List (Piece (List Line)) :=
  bs.map fun b => .branch (.divides b.1) b.2

/-- What is collected for a label is what `cut` gives to its branches, and the lines after the
label are read like a level of their own. -/
theorem scanFrom_some (o : OpenLabel) (ls : List Line) :
    scanFrom (some o) ls =
      o.done ++ .branch o.head (o.lines ++ (cut o.family o.nesting ls).body) ::
        (branchPieces (cut o.family o.nesting ls).others ++
          levelPieces (cut o.family o.nesting ls).rest) := by
  induction ls generalizing o with
  | nil => simp [scanFrom, openPieces, OpenLabel.branches, cut, branchPieces, levelPieces]
  | cons l ls ih =>
    rw [scanFrom]
    obtain ⟨n, hline, hcut⟩ | ⟨hline, hcut⟩ | ⟨condition, hline, hcut⟩ := scanLine_some o l ls
    · rw [hline, hcut, ih]
      simp [OpenLabel.collect, Cut.push]
    · rw [hline, hcut]
      simp [OpenLabel.branches, branchPieces, levelPieces]
    · rw [hline, hcut, ih]
      simp [OpenLabel.divide, OpenLabel.branches, Cut.divide, branchPieces]

/-- The branches of a label come before what is after the label. -/
theorem levelPieces_opens (o : Opening) (text : String) (r : List Line) :
    levelPieces (.label (.opens o) text :: r) =
      .branch (.opens o) (cut o.family 0 r).body ::
        (branchPieces (cut o.family 0 r).others ++ levelPieces (cut o.family 0 r).rest) :=
  scanFrom_some { family := o.family, head := .opens o } r

/-- A label that opens nothing is a text where no label is open. -/
theorem levelPieces_label {label : Label} (h : ∀ o, label ≠ .opens o) (text : String)
    (r : List Line) : levelPieces (.label label text :: r) = .text text :: levelPieces r := by
  cases label with
  | opens o => exact absurd rfl (h o)
  | divides c => rfl
  | closes f => rfl

theorem levelPieces_declaration (type : VariableType) (name : String) (r : List Line) :
    levelPieces (.declaration type name :: r) = .declaration type name :: levelPieces r := rfl

theorem levelPieces_statement (text : String) (r : List Line) :
    levelPieces (.statement text :: r) = .text text :: levelPieces r := rfl

/-! ### Reading the branches -/

/-- Put a piece in front of an outline and of the branches that a label before it still gets. -/
def Piece.putBefore : Piece Outline → Outline × Branches → Outline × Branches
  | text line, (o, _) => (.text line o, .done)
  | declaration type name, (o, _) => (.declaration type name o, .done)
  | branch (.opens opening) body, (o, others) => (.block opening body others o, .done)
  | branch (.divides condition) body, (o, others) => (o, .branch condition body others)

/-- The outline of pieces, and the branches before its first label that opens. -/
def Outline.ofPieces (ps : List (Piece Outline)) : Outline × Branches :=
  ps.foldr Piece.putBefore (.done, .done)

/-- The pieces of a level make its outline when what is in the branches is read as outlines. -/
theorem ofPieces_levelPieces (ls : List Line) :
    Outline.ofPieces ((levelPieces ls).map (.map Outline.ofLines)) = (.ofLines ls, .done) := by
  unfold Outline.ofPieces
  induction ls using Outline.ofLines_induction (Q := fun bs => ∀ o : Outline,
    ((branchPieces bs).map (.map Outline.ofLines)).foldr Piece.putBefore (o, .done) =
      (o, .ofLines bs)) with
  | done =>
    rw [Outline.ofLines]
    rfl
  | block o text r ihBody ihOthers ihRest =>
    rw [levelPieces_opens, List.map_cons, List.map_append, List.foldr_cons, List.foldr_append,
      ihRest, ihOthers, Outline.ofLines]
    rfl
  | label label text r hopens ih =>
    rw [levelPieces_label hopens, List.map_cons, List.foldr_cons, ih, Outline.ofLines_label hopens]
    rfl
  | declaration type name r ih =>
    rw [levelPieces_declaration, List.map_cons, List.foldr_cons, ih, Outline.ofLines]
    rfl
  | statement text r ih =>
    rw [levelPieces_statement, List.map_cons, List.foldr_cons, ih, Outline.ofLines]
    rfl
  | none =>
    rw [Branches.ofLines]
    rfl
  | branch condition ls r ihBody ihOthers =>
    rename_i o
    rw [branchPieces, List.map_cons, List.map_cons, List.foldr_cons, ← branchPieces, ihOthers,
      Branches.ofLines]
    rfl

/-- A way of reading that collects the lines of a level and then reads the branches in the same
way. -/
def ReadsByLevel (read : List Line → Outline) : Prop :=
  ∀ ls, read ls = (Outline.ofPieces ((levelPieces ls).map (.map read))).1

/-- The outline is what is read level by level. As branches have fewer lines than their level, no
other reading does the same. -/
theorem readsByLevel_iff {read : List Line → Outline} :
    ReadsByLevel read ↔ read = Outline.ofLines := by
  constructor
  · intro hread
    funext ls
    induction hn : ls.length using Nat.strong_induction_on generalizing ls with
    | h n ih =>
      have hpieces : (levelPieces ls).map (Piece.map read) =
          (levelPieces ls).map (Piece.map Outline.ofLines) := by
        refine List.map_congr_left fun p hp => Piece.map_congr fun inner hinner => ?_
        have hlt := length_lt_of_mem_innerLevels (List.mem_filterMap.2 ⟨p, hp, hinner⟩)
        exact ih inner.length (hn ▸ hlt) inner rfl
      rw [hread, hpieces, ofPieces_levelPieces]
  · rintro rfl ls
    rw [ofPieces_levelPieces]

-- while the `if` is open, `while` and `endwhile` do not count, so that the `else` divides it;
-- the second `endif` closes nothing
example : levelPieces
      [.label (.opens (.choice ['a'])) "if a", .label (.opens (.loop ['b'])) "while b",
        .label (.divides none) "else", .label (.closes .loop) "endwhile",
        .label (.closes .choice) "endif", .label (.closes .choice) "endif"] =
    [.branch (.opens (.choice ['a'])) [.label (.opens (.loop ['b'])) "while b"],
      .branch (.divides none) [.label (.closes .loop) "endwhile"], .text "endif"] := by
  decide

end Questline
