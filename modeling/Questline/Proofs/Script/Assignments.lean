import Questline.Proofs.Script.NamesInSight
import Questline.Proofs.Script.Searching
import Questline.Proofs.Text.Folded

/-!
# Assignments of a program

In a program whose statements either assign a value to a variable or do not begin like an
assignment, each of the former is found and nothing else is. The names in sight of the statement
decide whether the variable is a local one.

## Main definitions

* `AssignmentStatement`: a statement that assigns
* `BeginsWithSet`: a text that begins like an assignment
* `AssignmentStatement.assignment`: the assignment of a statement where it stands

## Main results

* `AssignmentStatement.readAssignment?_text`, `readAssignment?_eq_none`: reading a statement
* `Tree.forall₂_assignments`: the assignments in a tree
* `Tree.assignmentsByName_parse`: the index of the assignments of a program
-/

namespace Questline

/-! ### Statements -/

/-- White space that has to be there. -/
def IsSpace (g : List Char) : Prop :=
  g ≠ [] ∧ ∀ c ∈ g, isBlank c = true

namespace IsSpace

variable {g t : List Char}

theorem head_eq (hg : IsSpace g) (t : List Char) : ∃ c ∈ g, (g ++ t).head? = some c := by
  obtain ⟨c, r, rfl⟩ := List.exists_cons_of_ne_nil hg.1
  exact ⟨c, List.mem_cons_self, rfl⟩

theorem isWord_head (hg : IsSpace g) (t : List Char) :
    ∀ c ∈ (g ++ t).head?, isWord c = false := by
  obtain ⟨c, hc, hhead⟩ := hg.head_eq t
  rw [hhead]
  rintro d ⟨⟩
  exact isWord_eq_false_of_isBlank (hg.2 c hc)

theorem afterBlanks?_append (hg : IsSpace g) (ht : ∀ c ∈ t.head?, isBlank c = false) :
    afterBlanks? (g ++ t) = some t := by
  obtain ⟨c, hc, hhead⟩ := hg.head_eq t
  have hdrop : trimStart (g ++ t) = t := dropWhile_append_of_stop hg.2 ht
  rw [afterBlanks?, hhead, Option.any_some, hg.2 c hc, if_pos rfl, hdrop]

theorem uncomment_append (hg : IsSpace g) (t : List Char) :
    uncomment false (g ++ t) = g ++ uncomment false t := by
  have hne : ∀ c, isBlank c = false → c ∉ g :=
    fun c hc hmem => Bool.false_ne_true (hc.symm.trans (hg.2 c hmem))
  exact Questline.uncomment_append ⟨hne _ (by decide), hne _ (by decide)⟩ t

end IsSpace

namespace IsWordText

variable {w t : List Char}

theorem of_map_toLower {v : List Char} (h : w.map Char.toLower = v) (hv : IsWordText v) :
    IsWordText w := by
  subst h
  refine ⟨fun hw => hv.1 (List.map_eq_nil_iff.2 hw), List.all_eq_true.2 fun c hc => ?_⟩
  exact isWord_of_isWord_toLower (hv.isWord_of_mem (List.mem_map_of_mem hc))

theorem isBlank_head (hw : IsWordText w) (t : List Char) :
    ∀ c ∈ (w ++ t).head?, isBlank c = false := by
  obtain ⟨a, v, rfl⟩ := List.exists_cons_of_ne_nil hw.1
  rintro c ⟨⟩
  exact isBlank_eq_false_of_isWord (hw.isWord_of_mem List.mem_cons_self)

end IsWordText

/-- A statement that assigns a value to a variable. -/
structure AssignmentStatement where
  /-- The first keyword, in any letter case. -/
  setWord : List Char
  before : List Char
  name : Identifier
  between : List Char
  /-- The second keyword, in any letter case. -/
  toWord : List Char
  after : List Char
  value : List Char
  map_toLower_setWord : setWord.map Char.toLower = "set".toList
  isSpace_before : IsSpace before
  isSpace_between : IsSpace between
  map_toLower_toWord : toWord.map Char.toLower = "to".toList
  isSpace_after : IsSpace after
  value_ne_nil : value ≠ []
  trim_value : trim value = value

/-- Three letters that fold to `set`, and white space after them. -/
def BeginsWithSet (text : List Char) : Prop :=
  (text.take 3).map foldCase = "set".toList ∧ (text.drop 3).head?.any isBlank = true

instance (text : List Char) : Decidable (BeginsWithSet text) :=
  inferInstanceAs (Decidable (_ ∧ _))

namespace AssignmentStatement

variable (s : AssignmentStatement)

def text : List Char :=
  s.setWord ++ (s.before ++ (s.name.text ++ (s.between ++ (s.toWord ++ (s.after ++ s.value)))))

/-- The assignment that the statement makes where it stands, with the names `sight` in sight. -/
def assignment (l : PlacedLine) (sight : Names) : Assignment where
  name := s.name.name
  script := l.script
  text := String.ofList s.value
  value := Number.readFloat? (stripParens s.value)
  isLocal := sight.contains s.name.name
  block := l.block
  gate := l.gate

theorem map_foldCase_setWord : s.setWord.map foldCase = "set".toList :=
  map_foldCase_of_map_toLower (forall_mem_of_all (by decide +kernel)) s.map_toLower_setWord

theorem map_foldCase_toWord : s.toWord.map foldCase = "to".toList :=
  map_foldCase_of_map_toLower (forall_mem_of_all (by decide +kernel)) s.map_toLower_toWord

theorem isWordText_setWord : IsWordText s.setWord :=
  .of_map_toLower s.map_toLower_setWord (by decide +kernel)

theorem isWordText_toWord : IsWordText s.toWord :=
  .of_map_toLower s.map_toLower_toWord (by decide +kernel)

theorem isBlank_head_value : ∀ c ∈ s.value.head?, isBlank c = false := by
  intro c hc
  rw [← s.trim_value, trim, ← trimStart_trimEnd] at hc
  exact head_trimStart_not_isBlank hc

theorem trimEnd_value : trimEnd s.value = s.value := by
  rw [← s.trim_value, trim, trimEnd_trimEnd]

/-- A statement that assigns is read as it was written. -/
theorem readAssignment?_text : readAssignment? s.text = some (s.name.text, s.value) := by
  have hset : s.setWord.map foldCase = "set".toList.map foldCase :=
    s.map_foldCase_setWord.trans (by decide +kernel)
  have hto : s.toWord.map foldCase = "to".toList.map foldCase :=
    s.map_foldCase_toWord.trans (by decide +kernel)
  obtain ⟨htake, hdrop⟩ := s.name.isWordText.takeWhile_append
    (s.isSpace_between.isWord_head (s.toWord ++ (s.after ++ s.value)))
  have hname : s.name.text.head?.any isFoldedLetter = true := s.name.isFoldedLetter_first
  have hvalue : s.value.isEmpty = false := by simpa using s.value_ne_nil
  have hbefore := s.isSpace_before.afterBlanks?_append
    (s.name.isWordText.isBlank_head (s.between ++ (s.toWord ++ (s.after ++ s.value))))
  have hbetween := s.isSpace_between.afterBlanks?_append
    (s.isWordText_toWord.isBlank_head (s.after ++ s.value))
  have hafter := s.isSpace_after.afterBlanks?_append s.isBlank_head_value
  rw [readAssignment?, text, matchFolded?_append hset]
  simp only [Option.bind_eq_bind, Option.bind_some, hbefore, htake, hdrop, hbetween,
    matchFolded?_append hto, hafter, hname, hvalue, s.trimEnd_value, Bool.not_false,
    Bool.and_self, if_true]

theorem beginsWithSet_text : BeginsWithSet s.text := by
  have hlength : s.setWord.length = 3 := by
    rw [← List.length_map Char.toLower, s.map_toLower_setWord]
    rfl
  obtain ⟨c, hc, hhead⟩ := s.isSpace_before.head_eq
    (s.name.text ++ (s.between ++ (s.toWord ++ (s.after ++ s.value))))
  rw [BeginsWithSet, text, ← hlength, List.take_left, List.drop_left, hhead]
  exact ⟨s.map_foldCase_setWord, s.isSpace_before.2 c hc⟩

/-! ### The statement in a program -/

theorem trim_text : trim s.text = s.text := by
  have hend : trimEnd s.value ≠ [] := by
    rw [s.trimEnd_value]
    exact s.value_ne_nil
  have hrest := trimEnd_append_of_ne_nil hend
    (s.before ++ (s.name.text ++ (s.between ++ (s.toWord ++ s.after))))
  simp only [List.append_assoc, s.trimEnd_value] at hrest
  rw [text, s.isWordText_setWord.trim_append, hrest]

/-- Statements that assign are no labels and no declarations. -/
theorem ofText_text : Line.ofText s.text = .statement (String.ofList s.text) := by
  obtain ⟨htake, -⟩ := s.isWordText_setWord.takeWhile_append (s.isSpace_before.isWord_head
    (s.name.text ++ (s.between ++ (s.toWord ++ (s.after ++ s.value)))))
  have hlower : (String.ofList s.setWord).toLower = "set" := by
    rw [← String.toList_inj, toList_toLower, String.toList_ofList, s.map_toLower_setWord]
  have hlabel : ∀ r, Label.ofKeyword? "set" r = none := fun r => rfl
  have hdeclaration : Line.declaration? s.text = none := by
    rw [Line.declaration?, text, htake, hlower]
    rfl
  rw [Line.ofText, hdeclaration, text, htake, hlower, hlabel]

theorem uncomment_text (h : uncomment false s.value = s.value) :
    uncomment false s.text = s.text := by
  rw [text, s.isWordText_setWord.uncomment_append, s.isSpace_before.uncomment_append,
    s.name.isWordText.uncomment_append, s.isSpace_between.uncomment_append,
    s.isWordText_toWord.uncomment_append, s.isSpace_after.uncomment_append, h]

/-- A statement that assigns can stand in a program, if it fits on a line and no part of its value
is a comment. -/
def statement (hbreak : '\n' ∉ s.text) (hcomment : uncomment false s.value = s.value) :
    Statement where
  text := s.text
  no_break := hbreak
  no_comment := s.uncomment_text hcomment
  nonempty := List.append_ne_nil_of_left_ne_nil s.isWordText_setWord.1 _
  trimmed := s.trim_text
  plain := s.ofText_text

end AssignmentStatement

/-- A text that does not begin like an assignment is none. -/
theorem readAssignment?_eq_none {t : List Char} (h : ¬BeginsWithSet t) :
    readAssignment? t = none := by
  cases hmatch : matchFolded? "set".toList t with
  | none => rw [readAssignment?, hmatch]; rfl
  | some u =>
    have hset : u.1.map foldCase = "set".toList :=
      (map_foldCase_of_matchFolded? hmatch).trans (by decide +kernel)
    have hlength : u.1.length = 3 := by
      rw [← List.length_map foldCase, hset]
      rfl
    have hblank : ¬u.2.head?.any isBlank = true := by
      rw [← append_of_matchFolded? hmatch, BeginsWithSet, ← hlength, List.take_left,
        List.drop_left] at h
      exact fun hblank => h ⟨hset, hblank⟩
    rw [readAssignment?, hmatch]
    simp only [Option.bind_eq_bind, Option.bind_some, afterBlanks?, if_neg hblank,
      Option.bind_none]

/-! ### Trees -/

namespace Tree

variable (t : Tree)

/-- The assignment that a statement makes where it stands. -/
def assignmentAt? (l : PlacedLine) : Option Assignment :=
  (readAssignment? l.text.toList).map fun read =>
    let name := (String.ofList read.1).toLower
    { name, script := l.script, text := String.ofList read.2,
      value := Number.readFloat? (stripParens read.2), isLocal := t.isLocal l.block name,
      block := l.block, gate := l.gate }

/-- Assignments are found statement by statement. -/
theorem assignments_eq_filterMap : t.assignments = t.placed.filterMap t.assignmentAt? := by
  rw [assignments, placed, List.filterMap_flatMap]
  refine List.flatMap_congr fun b _ => ?_
  rw [placedIn, List.filterMap_map]
  rfl

/-- In a tree whose statements either assign or do not begin like an assignment, each of the
former gives one assignment, in order. -/
theorem forall₂_assignments
    (h : ∀ l ∈ t.placed, (∃ s : AssignmentStatement, l.text.toList = s.text) ∨
      ¬BeginsWithSet l.text.toList) :
    List.Forall₂ (fun l a => ∃ s : AssignmentStatement, l.text.toList = s.text ∧
        a = s.assignment l (t.visibleLocals l.block))
      (t.placed.filter fun l => BeginsWithSet l.text.toList) t.assignments := by
  rw [assignments_eq_filterMap]
  generalize t.placed = ls at h
  induction ls with
  | nil => exact .nil
  | cons l ls ih =>
    obtain ⟨hl, hls⟩ := List.forall_mem_cons.1 h
    by_cases hset : BeginsWithSet l.text.toList
    · obtain ⟨s, hs⟩ := hl.resolve_right (not_not_intro hset)
      have hlocal : t.isLocal l.block s.name.name =
          (t.visibleLocals l.block).contains s.name.name := by
        rw [Bool.eq_iff_iff, isLocal_iff, Identifier.name, toLower_toLower,
          Std.ExtTreeSet.contains_iff_mem]
      have hread : t.assignmentAt? l = some (s.assignment l (t.visibleLocals l.block)) := by
        rw [assignmentAt?, hs, s.readAssignment?_text, AssignmentStatement.assignment, ← hlocal]
        rfl
      rw [List.filter_cons_of_pos (by simpa using hset), List.filterMap_cons_some hread]
      exact .cons ⟨s, hs, rfl⟩ (ih hls)
    · have hread : t.assignmentAt? l = none := by
        rw [assignmentAt?, readAssignment?_eq_none hset]
        rfl
      rw [List.filter_cons_of_neg (by simpa using hset), List.filterMap_cons_none hread]
      exact ih hls

/-- A name without assignments is not in the index. -/
theorem getElem?_assignmentsByName_ne (name : String) : t.assignmentsByName[name]? ≠ some [] := by
  suffices h : ∀ (as : List Assignment) (m : VariableIndex), m[name]? ≠ some [] →
      (as.foldl (fun m a => m.alter a.name fun as => some (as.getD [] ++ [a])) m)[name]? ≠
        some [] from
    h t.assignments ∅ (by simp)
  intro as
  induction as with
  | nil => exact fun m hm => hm
  | cons a as ih =>
    intro m hm
    rw [List.foldl_cons]
    refine ih _ ?_
    rw [Std.ExtTreeMap.getElem?_alter]
    by_cases ha : a.name = name
    · simp [ha]
    · simp [ha, hm]

/-- The index has the assignments to a variable under its name. -/
theorem getElem?_assignmentsByName_eq (name : String) :
    t.assignmentsByName[name]? =
      let mine := t.assignments.filter (·.name == name)
      if mine.isEmpty then none else some mine := by
  have hmine := t.getElem?_assignmentsByName name
  have hne := t.getElem?_assignmentsByName_ne name
  cases hget : t.assignmentsByName[name]? with
  | none =>
    rw [hget, Option.getD_none] at hmine
    rw [← hmine]
    rfl
  | some as =>
    rw [hget, Option.getD_some] at hmine
    rw [hget] at hne
    have has : as.isEmpty = false := by simpa using hne
    rw [← hmine]
    dsimp only
    rw [has]
    rfl

end Tree

/-! ### Programs -/

theorem Program.length_placed (p : Program) (globals : Names) :
    (p.placed globals).length = p.statements.length := by
  rw [← List.length_map (·.text), p.map_text_placed, List.length_map]

/-- The statements of a tree are those of the program. -/
theorem Tree.forall_mem_placed_parse {p : Program} {source : String} {P : List Char → Prop}
    (hsource : Outline.ofLines (sourceLines source.toList) = p.outline) (t : Translator)
    (h : ∀ s ∈ p.statements, P s.text) :
    ∀ l ∈ (Tree.parse source t).1.placed, P l.text.toList := by
  intro l hl
  rw [Tree.placed_parse hsource t] at hl
  have hl := List.mem_map_of_mem (f := (·.text)) hl
  rw [p.map_text_placed] at hl
  obtain ⟨s, hs, htext⟩ := List.mem_map.1 hl
  rw [← htext, String.toList_ofList]
  exact h s hs

/-- In a program whose statements either assign or do not begin like an assignment, each of the
former is found and nothing else is. An assignment is filed under its variable, in order, with
the value as it is written and as a number, and with the block, the script and the requirements of
the place where the statement stands. Its variable is local exactly when the name is declared on
the level of the statement or around it, before or after. This is so however the program is
spelled, written down with one item on each line for example. -/
theorem Tree.assignmentsByName_parse (p : Program) (t : Translator)
    (h : ∀ s ∈ p.statements,
      (∃ a : AssignmentStatement, s.text = a.text) ∨ ¬BeginsWithSet s.text) :
    (∀ s ∈ p.statements, BeginsWithSet s.text ↔ ∃ a : AssignmentStatement, s.text = a.text) ∧
    Outline.ofLines (sourceLines p.render.toList) = p.outline ∧
    ∀ source : String, Outline.ofLines (sourceLines source.toList) = p.outline →
      let tree := (Tree.parse source t).1
      let lines := (p.placed t.globals).zip (p.sights (p.sight ∅))
      lines.map (·.1.text) = p.statements.map (fun s => String.ofList s.text) ∧
      lines.map (·.1) = tree.placed ∧
      List.Forall₂ (fun l a => ∃ s : AssignmentStatement,
          l.1.text.toList = s.text ∧ a = s.assignment l.1 l.2)
        (lines.filter fun l => BeginsWithSet l.1.text.toList) tree.assignments ∧
      ∀ name : String, tree.assignmentsByName[name]? =
        let mine := tree.assignments.filter (·.name == name)
        if mine.isEmpty then none else some mine := by
  refine ⟨fun s hs => ⟨fun hset => ?_, ?_⟩, ?_, fun source hsource => ?_⟩
  · exact (h s hs).resolve_right (not_not_intro hset)
  · rintro ⟨a, ha⟩
    rw [ha]
    exact a.beginsWithSet_text
  · rw [p.sourceLines_render, p.ofLines_lines]
  · intro tree lines
    have hplaced : tree.placed = p.placed t.globals := Tree.placed_parse hsource t
    have hlength : (p.placed t.globals).length = (p.sights (p.sight ∅)).length := by
      rw [p.length_placed, p.length_sights]
    have hlines : lines.map (·.1) = p.placed t.globals := List.map_fst_zip hlength.le
    have htexts : lines.map (·.1.text) = p.statements.map fun s => String.ofList s.text := by
      rw [← p.map_text_placed t.globals, ← hlines, List.map_map]
      rfl
    refine ⟨htexts, hlines.trans hplaced.symm, ?_, tree.getElem?_assignmentsByName_eq⟩
    have hsights : lines = tree.placed.map fun l => (l, tree.visibleLocals l.block) := by
      rw [List.map_prod_left_eq_zip, Tree.sights_parse hsource t, hplaced]
    rw [hsights, List.filter_map, List.forall₂_map_left_iff]
    refine tree.forall₂_assignments (Tree.forall_mem_placed_parse hsource t h
      (P := fun text => (∃ a : AssignmentStatement, text = a.text) ∨ ¬BeginsWithSet text))

/-- `Set  Done TO ( 2 )` -/
def setDone : AssignmentStatement where
  setWord := "Set".toList
  before := "  ".toList
  name := ⟨'D', "one".toList, by decide, by decide +kernel⟩
  between := [' ']
  toWord := "TO".toList
  after := ['\t']
  value := "( 2 )".toList
  map_toLower_setWord := by decide
  isSpace_before := ⟨by decide, forall_mem_of_all (by decide)⟩
  isSpace_between := ⟨by decide, forall_mem_of_all (by decide)⟩
  map_toLower_toWord := by decide
  isSpace_after := ⟨by decide, forall_mem_of_all (by decide)⟩
  value_ne_nil := by decide
  trim_value := by decide

/-- `set temp to temp + 1` -/
def setTemp : AssignmentStatement where
  setWord := "set".toList
  before := [' ']
  name := ⟨'t', "emp".toList, by decide, by decide +kernel⟩
  between := [' ']
  toWord := "to".toList
  after := [' ']
  value := "temp + 1".toList
  map_toLower_setWord := by decide
  isSpace_before := ⟨by decide, forall_mem_of_all (by decide)⟩
  isSpace_between := ⟨by decide, forall_mem_of_all (by decide)⟩
  map_toLower_toWord := by decide
  isSpace_after := ⟨by decide, forall_mem_of_all (by decide)⟩
  value_ne_nil := by decide
  trim_value := by decide

def settleStatement : Statement where
  text := "settle \"set x to 1\"".toList
  no_break := by decide
  no_comment := by decide
  nonempty := by decide
  trimmed := by decide
  plain := by decide +kernel

/-- A variable that is declared after it is set, and one that is declared in one branch only. -/
def choiceOfValues : Program :=
  let done : Identifier := ⟨'d', "ONE".toList, by decide, by decide +kernel⟩
  let temp : Identifier := ⟨'T', "emp".toList, by decide, by decide +kernel⟩
  .script ⟨"ledger".toList, by decide, by decide⟩
    (.statement (setDone.statement (by decide) (by decide))
      (.choice ⟨"( wealth > 9 )".toList, by decide, by decide⟩
        (.statement (setTemp.statement (by decide) (by decide))
          (.statement settleStatement (.declaration .float temp .done)))
        (.otherwise (.statement (setTemp.statement (by decide) (by decide)) .done))
        (.declaration .short done .done)))
    .done

theorem choiceOfValues_assignmentsByName :
    let p := choiceOfValues
    let tree := (Tree.parse p.render {}).1
    (∀ s ∈ p.statements,
      (∃ a : AssignmentStatement, s.text = a.text) ∨ ¬BeginsWithSet s.text) ∧
    List.Forall₂ (fun l a => ∃ s : AssignmentStatement,
        l.1.text.toList = s.text ∧ a = s.assignment l.1 l.2)
      (((p.placed ∅).zip (p.sights (p.sight ∅))).filter
        fun l => BeginsWithSet l.1.text.toList) tree.assignments ∧
    (p.sights (p.sight ∅)).map (·.toList) =
      [["done"], ["done", "temp"], ["done", "temp"], ["done"]] ∧
    tree.assignments.map (fun a => (a.name, a.text, a.value.isSome, a.block, a.gate.size)) =
      [("done", "( 2 )", true, 2, 0), ("temp", "temp + 1", false, 4, 1),
        ("temp", "temp + 1", false, 6, 1)] := by
  intro p tree
  have hstatements : ∀ s ∈ p.statements,
      (∃ a : AssignmentStatement, s.text = a.text) ∨ ¬BeginsWithSet s.text := by
    have hlist : p.statements = [setDone.statement (by decide) (by decide),
        setTemp.statement (by decide) (by decide), settleStatement,
        setTemp.statement (by decide) (by decide)] := rfl
    intro s hs
    rw [hlist, List.mem_cons, List.mem_cons, List.mem_pair] at hs
    obtain rfl | rfl | rfl | rfl := hs
    · exact .inl ⟨setDone, rfl⟩
    · exact .inl ⟨setTemp, rfl⟩
    · exact .inr (by decide +kernel)
    · exact .inl ⟨setTemp, rfl⟩
  obtain ⟨-, hsource, hassignments⟩ := Tree.assignmentsByName_parse p {} hstatements
  exact ⟨hstatements, (hassignments p.render hsource).2.2.1, by decide +kernel,
    by decide +kernel⟩

end Questline
