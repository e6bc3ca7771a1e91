import Questline.Proofs.Script.Parts

/-!
# What a tree keeps of a script

However the labels of a script are nested, every statement comes to stand in exactly one
block, in the order of the script. Labels that open, divide or close a part of the script are
used up; a label that does none of these is kept like a statement. A declaration is never kept
as text, and the name that it declares is a local variable of some block.

## Main definitions

* `Outline.texts`, `Outline.names`: the texts and the declared names of an outline
* `Tree.lines`: the texts of a tree, block by block
* `LosesLabels`: lines from which some labels were taken

## Main results

* `losesLabels_cut`: the lines of a label are those after it without the labels used up
* `Outline.exists_losesLabels`: so are the texts and the names of an outline
* `Tree.lines_parse`: what the tree of a script keeps
-/

namespace Questline

open scoped List

/-! ### Texts and names of an outline -/

mutual

/-- The texts of an outline, in order. -/
def Outline.texts : Outline → List String
  | .done => []
  | .text line o => line :: o.texts
  | .declaration _ _ o => o.texts
  | .block _ body others o => body.texts ++ others.texts ++ o.texts

def Branches.texts : Branches → List String
  | .done => []
  | .branch _ body others => body.texts ++ others.texts

end

mutual

/-- The names that an outline declares anywhere, in order. -/
def Outline.names : Outline → List String
  | .done => []
  | .text _ o => o.names
  | .declaration _ name o => name :: o.names
  | .block _ body others o => body.names ++ others.names ++ o.names

def Branches.names : Branches → List String
  | .done => []
  | .branch _ body others => body.names ++ others.names

end

/-- The lines of the parts of a forest, in order. -/
def Forest.lines (f : Forest) : List String :=
  f.parts.flatMap (·.lines)

namespace Forest

@[simp] theorem lines_nil : nil.lines = [] := rfl

@[simp] theorem lines_cons (part : Part) (below next : Forest) :
    (cons part below next).lines = part.lines ++ (below.lines ++ next.lines) := by
  simp [lines, parts]

@[simp] theorem lines_append (f g : Forest) : (f ++ g).lines = f.lines ++ g.lines := by
  simp [lines]

@[simp] theorem lines_withRun (script : Option String) (run : List String) (f : Forest) :
    (withRun script run f).lines = run ++ f.lines := by
  unfold withRun
  split
  · next h => simp [List.isEmpty_iff.1 h]
  · simp

end Forest

mutual

/-- Laying out an outline keeps its texts in order. -/
theorem Outline.lines_rest (o : Outline) (c : Context) : o.run ++ (o.rest c).lines = o.texts := by
  cases o with
  | done => rfl
  | text line o =>
    rw [Outline.run, Outline.rest, Outline.texts, List.cons_append, o.lines_rest]
  | declaration type name o =>
    rw [Outline.run, Outline.rest, Outline.texts, o.lines_rest]
  | block opening body others o =>
    simp only [Outline.run, Outline.rest, Outline.texts, Forest.lines_cons, Forest.lines_append,
      Forest.lines_withRun, Opening.part, body.lines_rest, others.lines_forest, o.lines_rest,
      List.nil_append, List.append_assoc]

theorem Branches.lines_forest (b : Branches) (c : Context) (owner : Option String)
    (earlier : List Requirement) : (b.forest c owner earlier).lines = b.texts := by
  cases b with
  | done => rfl
  | branch condition body others =>
    simp only [Branches.forest, Branches.texts, Forest.lines_cons, Forest.lines_withRun,
      body.lines_rest, others.lines_forest, List.nil_append]

end

/-- A name that some part of a forest declares. -/
def Forest.Declares (f : Forest) (name : String) : Prop :=
  ∃ part ∈ f.parts, name ∈ part.locals

namespace Forest

variable {name : String}

@[simp] theorem not_declares_nil : ¬nil.Declares name := by
  simp [Declares, parts]

@[simp] theorem declares_cons {part : Part} {below next : Forest} :
    (cons part below next).Declares name ↔
      name ∈ part.locals ∨ below.Declares name ∨ next.Declares name := by
  simp [Declares, parts, or_and_right, exists_or]

@[simp] theorem declares_append {f g : Forest} :
    (f ++ g).Declares name ↔ f.Declares name ∨ g.Declares name := by
  simp [Declares, or_and_right, exists_or]

@[simp] theorem declares_withRun {script : Option String} {run : List String} {f : Forest} :
    (withRun script run f).Declares name ↔ f.Declares name := by
  unfold withRun
  split <;> simp

end Forest

@[simp] theorem Outline.mem_locals_iff {o : Outline} {name : String} :
    name ∈ o.locals ↔ name ∈ o.declarations.map (·.1) := by
  simp [locals, mem_declareAll]

mutual

/-- The names of an outline are declared on its own level or by one of its parts. -/
theorem Outline.mem_names_iff (o : Outline) (c : Context) (name : String) :
    name ∈ o.names ↔ name ∈ o.locals ∨ (o.rest c).Declares name := by
  cases o with
  | done => simp [Outline.names, Outline.rest, Outline.declarations]
  | text line o =>
    rw [Outline.names, o.mem_names_iff c]
    simp [Outline.rest, Outline.declarations]
  | declaration type n o =>
    rw [Outline.names, List.mem_cons, o.mem_names_iff { c with locals := c.locals.insert n }]
    simp [Outline.rest, Outline.declarations, or_assoc]
  | block opening body others o =>
    simp only [Outline.names, Outline.rest, List.mem_append, Forest.declares_cons,
      Forest.declares_append, Forest.declares_withRun, Opening.part]
    rw [body.mem_names_iff, others.mem_names_iff, o.mem_names_iff]
    simp only [Outline.mem_locals_iff, Outline.declarations]
    tauto

theorem Branches.mem_names_iff (b : Branches) (c : Context) (owner : Option String)
    (earlier : List Requirement) (name : String) :
    name ∈ b.names ↔ (b.forest c owner earlier).Declares name := by
  cases b with
  | done => simp [Branches.names, Branches.forest]
  | branch condition body others =>
    simp only [Branches.names, Branches.forest, List.mem_append, Forest.declares_cons,
      Forest.declares_withRun]
    rw [body.mem_names_iff, others.mem_names_iff, or_assoc]

end

/-! ### Lines without some of the labels -/

namespace Line

/-- What a line says as text. A declaration says nothing. -/
def text? : Line → Option String
  | label _ text => some text
  | statement text => some text
  | declaration _ _ => none

/-- The name that a line declares. -/
def name? : Line → Option String
  | declaration _ name => some name
  | _ => none

def isLabel : Line → Bool
  | label _ _ => true
  | _ => false

def isStatement : Line → Bool
  | statement _ => true
  | _ => false

/-- The text of a statement. -/
def statement? : Line → Option String
  | statement text => some text
  | _ => none

theorem text?_ofText (t : List Char) :
    (ofText t).text? =
      if (ofText t).name?.isNone then some (String.ofList t) else none := by
  unfold ofText
  split
  · rfl
  · split <;> rfl

theorem statement?_ofText (t : List Char) :
    (ofText t).statement? = if (ofText t).isStatement then some (String.ofList t) else none := by
  unfold ofText
  split
  · rfl
  · split <;> rfl

theorem name?_of_isLabel {l : Line} (h : l.isLabel = true) : l.name? = none := by
  cases l with
  | label _ _ => rfl
  | declaration _ _ => cases h
  | statement _ => cases h

theorem statement?_of_isLabel {l : Line} (h : l.isLabel = true) : l.statement? = none := by
  cases l with
  | label _ _ => rfl
  | declaration _ _ => cases h
  | statement _ => cases h

theorem isLabel_of_mark {l : Line} {f : Family} (h : l.mark f ≠ .plain) : l.isLabel = true := by
  cases l with
  | label _ _ => rfl
  | declaration _ _ => exact absurd rfl h
  | statement _ => exact absurd rfl h

end Line

/-- The second list is the first one without some of its labels. -/
inductive LosesLabels : List Line → List Line → Prop where
  | nil : LosesLabels [] []
  | keep (l : Line) {ls ms : List Line} : LosesLabels ls ms → LosesLabels (l :: ls) (l :: ms)
  | lose {l : Line} {ls ms : List Line} : l.isLabel = true → LosesLabels ls ms →
      LosesLabels (l :: ls) ms

namespace LosesLabels

variable {ls ms ns : List Line}

theorem refl (ls : List Line) : LosesLabels ls ls := by
  induction ls with
  | nil => exact .nil
  | cons l ls ih => exact .keep l ih

theorem append {ls' ms' : List Line} (h : LosesLabels ls ms) (h' : LosesLabels ls' ms') :
    LosesLabels (ls ++ ls') (ms ++ ms') := by
  induction h with
  | nil => exact h'
  | keep l _ ih => exact .keep l ih
  | lose hl _ ih => exact .lose hl ih

theorem trans (h : LosesLabels ls ms) (h' : LosesLabels ms ns) : LosesLabels ls ns := by
  induction h generalizing ns with
  | nil => exact h'
  | keep l _ ih =>
    cases h' with
    | keep _ h' => exact .keep l (ih h')
    | lose hl h' => exact .lose hl (ih h')
  | lose hl _ ih => exact .lose hl (ih h')

theorem sublist (h : LosesLabels ls ms) : ms <+ ls := by
  induction h with
  | nil => exact List.nil_sublist []
  | keep l _ ih => exact ih.cons_cons l
  | lose _ _ ih => exact ih.cons _

/-- What is asked of lines other than labels is answered alike. -/
theorem filterMap_eq {α : Type} {g : Line → Option α} (hg : ∀ l, l.isLabel = true → g l = none)
    (h : LosesLabels ls ms) : ms.filterMap g = ls.filterMap g := by
  induction h with
  | nil => rfl
  | keep l _ ih => rw [List.filterMap_cons, List.filterMap_cons, ih]
  | lose hl _ ih => rw [List.filterMap_cons_none (hg _ hl), ih]

end LosesLabels

/-- The lines of a label, of its branches and after it are those that follow, without the
labels that divide and close it. -/
theorem losesLabels_cut (f : Family) (n : Nat) (ls : List Line) :
    LosesLabels ls
      ((cut f n ls).body ++ ((cut f n ls).others.flatMap (·.2) ++ (cut f n ls).rest)) := by
  fun_induction cut f n ls with
  | case1 => exact .nil
  | case2 l r n hmark ih => exact .keep l ih
  | case3 l r hmark =>
    have hl : l.isLabel = true := Line.isLabel_of_mark (f := f) (by simp [hmark])
    exact .lose hl (.refl r)
  | case4 l r n hmark ih => exact .keep l ih
  | case5 l r c hmark ih =>
    have hl : l.isLabel = true := Line.isLabel_of_mark (f := f) (by simp [hmark])
    simpa [Cut.divide] using LosesLabels.lose hl ih
  | case6 l r n _ _ _ _ ih => exact .keep l ih

/-- A label that opens nothing is a text where no label is open. -/
theorem Outline.ofLines_label {label : Label} (h : ∀ o, label ≠ .opens o) (text : String)
    (r : List Line) : ofLines (.label label text :: r) = .text text (ofLines r) := by
  cases label with
  | opens o => exact absurd rfl (h o)
  | divides c => rw [ofLines]; simp
  | closes f => rw [ofLines]; simp

/-- Induction along the outline of lines: `P` is about the lines of a level, and `Q` about the
branches of a label after the first one. -/
theorem Outline.ofLines_induction {P : List Line → Prop}
    {Q : List (Option (List Char) × List Line) → Prop} (done : P [])
    (block : ∀ o text r, P (cut o.family 0 r).body → Q (cut o.family 0 r).others →
      P (cut o.family 0 r).rest → P (.label (.opens o) text :: r))
    (label : ∀ label text r, (∀ o, label ≠ .opens o) → P r → P (.label label text :: r))
    (declaration : ∀ type name r, P r → P (.declaration type name :: r))
    (statement : ∀ text r, P r → P (.statement text :: r))
    (none : Q []) (branch : ∀ condition ls r, P ls → Q r → Q ((condition, ls) :: r))
    (ls : List Line) : P ls :=
  Outline.ofLines.induct P Q done (fun o text r _ => block o text r) label declaration statement
    none branch ls

/-- The texts and the names of an outline are those of its lines, without some labels. -/
theorem Outline.exists_losesLabels (ls : List Line) :
    ∃ ms, LosesLabels ls ms ∧ (ofLines ls).texts = ms.filterMap Line.text? ∧
      (ofLines ls).names = ms.filterMap Line.name? := by
  induction ls using Outline.ofLines_induction (Q := fun bs =>
    ∃ ms, LosesLabels (bs.flatMap (·.2)) ms ∧
      (Branches.ofLines bs).texts = ms.filterMap Line.text? ∧
      (Branches.ofLines bs).names = ms.filterMap Line.name?) with
  | done => exact ⟨[], .nil, by simp [ofLines, texts], by simp [ofLines, names]⟩
  | block o text r ihBody ihOthers ihRest =>
    obtain ⟨body, hbody, htbody, hnbody⟩ := ihBody
    obtain ⟨others, hothers, htothers, hnothers⟩ := ihOthers
    obtain ⟨rest, hrest, htrest, hnrest⟩ := ihRest
    refine ⟨body ++ (others ++ rest), .lose rfl ?_, ?_, ?_⟩
    · exact (losesLabels_cut o.family 0 r).trans (hbody.append (hothers.append hrest))
    · simp [ofLines, texts, htbody, htothers, htrest]
    · simp [ofLines, names, hnbody, hnothers, hnrest]
  | label label text r hopens ih =>
    obtain ⟨ms, hms, htexts, hnames⟩ := ih
    refine ⟨.label label text :: ms, .keep _ hms, ?_, ?_⟩
    · rw [ofLines_label hopens, texts, htexts]; rfl
    · rw [ofLines_label hopens, names, hnames]; rfl
  | declaration type name r ih =>
    obtain ⟨ms, hms, htexts, hnames⟩ := ih
    refine ⟨.declaration type name :: ms, .keep _ hms, ?_, ?_⟩
    · rw [ofLines, texts, htexts]; rfl
    · rw [ofLines, names, hnames]; rfl
  | statement text r ih =>
    obtain ⟨ms, hms, htexts, hnames⟩ := ih
    refine ⟨.statement text :: ms, .keep _ hms, ?_, ?_⟩
    · rw [ofLines, texts, htexts]; rfl
    · rw [ofLines, names, hnames]; rfl
  | none => exact ⟨[], .nil, by simp [Branches.ofLines, Branches.texts],
      by simp [Branches.ofLines, Branches.names]⟩
  | branch condition ls r ihBody ihOthers =>
    obtain ⟨body, hbody, htbody, hnbody⟩ := ihBody
    obtain ⟨others, hothers, htothers, hnothers⟩ := ihOthers
    refine ⟨body ++ others, ?_, ?_, ?_⟩
    · exact hbody.append hothers
    · simp [Branches.ofLines, Branches.texts, htbody, htothers]
    · simp [Branches.ofLines, Branches.names, hnbody, hnothers]

/-! ### Trees -/

/-- The texts of a tree, block by block. -/
def Tree.lines (t : Tree) : List String :=
  t.blocks.toList.flatMap (·.lines)

namespace Forest

variable (f : Forest) (locals : Locals) (owner : Option String)

theorem lines_tree : (f.tree locals owner).lines = f.lines := by
  have h := f.map_blocks (g := (·.lines)) (h := (·.lines)) (fun _ _ _ _ => rfl) 0 1
  simp only [Tree.lines, tree, List.map_cons, List.flatMap_cons, List.flatMap_map, List.nil_append,
    lines]
  rw [List.flatMap_def, h, ← List.flatMap_def]

/-- The names that the blocks of a tree declare are those of its root and of its parts. -/
theorem exists_mem_locals_tree {name : String} :
    (∃ b ∈ (f.tree locals owner).blocks, name ∈ b.locals) ↔ name ∈ locals ∨ f.Declares name := by
  have h := f.map_blocks (g := (·.locals)) (h := (·.locals)) (fun _ _ _ _ => rfl) 0 1
  have hparts : f.Declares name ↔ ∃ b ∈ f.blocks 0 1, name ∈ b.locals := by
    have hl := congrArg (fun ls => ∃ l ∈ ls, name ∈ l) h
    simpa [Declares] using hl.symm
  rw [hparts]
  simp [tree]

end Forest

/-- What is asked of lines read from texts, when the answer is the text itself. -/
theorem filterMap_ofText {g : Line → Option String} {q : List Char → Bool}
    (hg : ∀ t, g (Line.ofText t) = if q t then some (String.ofList t) else none)
    (ts : List (List Char)) :
    (ts.map Line.ofText).filterMap g = (ts.filter q).map String.ofList := by
  induction ts with
  | nil => rfl
  | cons t ts ih =>
    rw [List.map_cons, List.filterMap_cons, hg, ih]
    by_cases hq : q t = true
    · rw [if_pos hq, List.filter_cons_of_pos hq, List.map_cons]
    · rw [if_neg hq, List.filter_cons_of_neg hq]

namespace Tree

variable (source : String) (t : Translator)

/-- The texts of a tree are those of the lines of its script, without the labels that were
used up. -/
theorem exists_losesLabels_parse :
    ∃ ms, LosesLabels (sourceLines source.toList) ms ∧
      (Tree.parse source t).1.lines = ms.filterMap Line.text? := by
  obtain ⟨ms, hms, htexts, -⟩ := Outline.exists_losesLabels (sourceLines source.toList)
  refine ⟨ms, hms, ?_⟩
  rw [parse_fst, Forest.lines_tree, Outline.forest, Forest.lines_withRun, Outline.lines_rest,
    htexts]

/-- The local variables of the blocks are the names that the script declares. -/
theorem exists_mem_locals_parse {name : String} :
    (∃ b ∈ (Tree.parse source t).1.blocks, name ∈ b.locals) ↔
      name ∈ (sourceLines source.toList).filterMap Line.name? := by
  obtain ⟨ms, hms, -, hnames⟩ := Outline.exists_losesLabels (sourceLines source.toList)
  rw [parse_fst, Forest.exists_mem_locals_tree, Outline.forest, Forest.declares_withRun,
    ← Outline.mem_names_iff, hnames, hms.filterMap_eq fun l => Line.name?_of_isLabel]

/-- The tree of a script keeps lines of the script in order, all of its statements among them;
what else it keeps are labels, and every name that the script declares is a local variable of
some block. -/
theorem lines_parse :
    let tree := (Tree.parse source t).1
    let texts := (sourceTexts source.toList).map String.ofList
    tree.lines <+ texts ∧
    tree.lines.filter (fun l => (Line.ofText l.toList).isStatement) =
      texts.filter (fun l => (Line.ofText l.toList).isStatement) ∧
    (∀ l ∈ tree.lines, (Line.ofText l.toList).isStatement = true ∨
      (Line.ofText l.toList).isLabel = true) ∧
    ∀ l ∈ texts, ∀ type name, Line.ofText l.toList = .declaration type name →
      ∃ b ∈ tree.blocks, name ∈ b.locals := by
  intro tree texts
  obtain ⟨ms, hms, hlines⟩ := exists_losesLabels_parse source t
  -- the lines that are kept come from some of the texts
  obtain ⟨kept, hkept, rfl⟩ := List.sublist_map_iff.1 hms.sublist
  rw [filterMap_ofText Line.text?_ofText] at hlines
  have hstatements := hms.filterMap_eq fun l => Line.statement?_of_isLabel
  rw [sourceLines, filterMap_ofText Line.statement?_ofText,
    filterMap_ofText Line.statement?_ofText] at hstatements
  refine ⟨?_, ?_, ?_, ?_⟩
  · rw [show tree.lines = _ from hlines]
    exact (List.filter_sublist.trans hkept).map String.ofList
  · -- no statement declares anything, so that filtering twice is filtering once
    rw [show tree.lines = _ from hlines, List.filter_map, List.filter_map, List.filter_filter]
    simp only [Function.comp_def, String.toList_ofList]
    rw [← hstatements]
    congr 1
    apply List.filter_congr
    intro l _
    cases Line.ofText l <;> rfl
  · intro l hl
    rw [show tree.lines = _ from hlines] at hl
    obtain ⟨k, hk, rfl⟩ := List.mem_map.1 hl
    have hname := (List.mem_filter.1 hk).2
    rw [String.toList_ofList]
    cases hline : Line.ofText k with
    | label _ _ => exact .inr rfl
    | statement _ => exact .inl rfl
    | declaration _ _ => simp [hline, Line.name?] at hname
  · intro l hl type name hline
    obtain ⟨k, hk, rfl⟩ := List.mem_map.1 hl
    rw [String.toList_ofList] at hline
    apply (exists_mem_locals_parse source t).2
    exact List.mem_filterMap.2 ⟨_, List.mem_map_of_mem hk, by rw [hline]; rfl⟩

-- an `endif` and an `end` that close nothing stay, and an `if` that is never closed does not
example : (Tree.parse "endif\nset a to 1\nif ( a == 1 )\nend\nelse\nset b to 2" {}).1.lines =
    ["endif", "set a to 1", "end", "set b to 2"] := by
  decide +kernel

end Tree

end Questline
