import Mathlib.Data.List.Forall2
import Questline.Proofs.Text.Lines
import Questline.Script.Outline

/-!
# Well-nested programs

A well-nested program closes each label that it opens. Programs are built from texts that
carry the proof that they can stand on a line of their own, and are written down with one
item on each line.

## Main definitions

* `Phrase`, `Statement`, `Identifier`: the texts that a program is built from
* `Program`, `Alternatives`: well-nested programs, and the branches of a choice after the
  first
* `Program.render`: a program as a script
* `Program.lines`, `Program.outline`: what the lines of a program are, and their outline

## Main results

* `Program.sourceLines_render`: the lines of a script that was written down
-/

namespace Questline

/-! ### Texts on a line -/

/-- A text within a line, of which no part is a comment. -/
structure Phrase where
  text : List Char
  no_break : '\n' ∉ text
  no_comment : uncomment false text = text

/-- A text that stands on a line of its own and has no other meaning. -/
structure Statement extends Phrase where
  nonempty : text ≠ []
  trimmed : trim text = text
  plain : Line.ofText text = .statement (String.ofList text)

/-- A name that can be declared. -/
structure Identifier where
  first : Char
  rest : List Char
  isFoldedLetter_first : isFoldedLetter first = true
  isWord_rest : rest.all isWord = true

namespace Phrase

variable (p : Phrase)

/-- The phrase after a keyword. -/
def after (keyword : String) : List Char :=
  keyword.toList ++ ' ' :: p.text

/-- The condition that the phrase is after `if`, `elseif` and `while`. -/
def condition : List Char :=
  trim p.text

/-- The name that the phrase gives to a script after `begin`. -/
def scriptName : String :=
  nameOf (firstWord (trim p.text))

end Phrase

namespace Identifier

variable (i : Identifier)

def text : List Char :=
  i.first :: i.rest

/-- Names are read in lower case. -/
def name : String :=
  (String.ofList i.text).toLower

theorem isWordText : IsWordText i.text :=
  .cons i.isFoldedLetter_first i.isWord_rest

/-- The line that declares the name. -/
def declaration (type : VariableType) : List Char :=
  type.keyword.toList ++ ' ' :: i.text

end Identifier

/-! ### Programs -/

mutual

/-- A program, item by item. -/
inductive Program where
  | done
  | statement (s : Statement) (next : Program)
  | declaration (type : VariableType) (i : Identifier) (next : Program)
  | script (name : Phrase) (body next : Program)
  | choice (condition : Phrase) (body : Program) (others : Alternatives) (next : Program)
  | loop (condition : Phrase) (body next : Program)

/-- The branches of a choice after the first. Nothing comes after `else`. -/
inductive Alternatives where
  | done
  | otherwise (body : Program)
  | elseif (condition : Phrase) (body : Program) (next : Alternatives)

end

mutual

/-- The texts of the lines of a program. -/
def Program.texts : Program → List (List Char)
  | .done => []
  | .statement s next => s.text :: next.texts
  | .declaration type i next => i.declaration type :: next.texts
  | .script name body next => name.after "begin" :: (body.texts ++ "end".toList :: next.texts)
  | .choice c body others next =>
    c.after "if" :: (body.texts ++ others.texts ++ "endif".toList :: next.texts)
  | .loop c body next => c.after "while" :: (body.texts ++ "endwhile".toList :: next.texts)

def Alternatives.texts : Alternatives → List (List Char)
  | .done => []
  | .otherwise body => "else".toList :: body.texts
  | .elseif c body next => c.after "elseif" :: (body.texts ++ next.texts)

end

/-- A program as a script with one item on each line. -/
def Program.render (p : Program) : String :=
  String.ofList (p.texts.flatMap (· ++ ['\n']))

/-- The line of a label with a phrase after its keyword. -/
def Phrase.line (p : Phrase) (keyword : String) (l : Label) : Line :=
  .label l (String.ofList (trim (p.after keyword)))

mutual

/-- What the lines of a program are. -/
def Program.lines : Program → List Line
  | .done => []
  | .statement s next => .statement (String.ofList s.text) :: next.lines
  | .declaration type i next => .declaration type i.name :: next.lines
  | .script name body next =>
    name.line "begin" (.opens (.script name.scriptName)) ::
      (body.lines ++ .label (.closes .script) "end" :: next.lines)
  | .choice c body others next =>
    c.line "if" (.opens (.choice c.condition)) ::
      (body.lines ++ others.lines ++ .label (.closes .choice) "endif" :: next.lines)
  | .loop c body next =>
    c.line "while" (.opens (.loop c.condition)) ::
      (body.lines ++ .label (.closes .loop) "endwhile" :: next.lines)

def Alternatives.lines : Alternatives → List Line
  | .done => []
  | .otherwise body => .label (.divides none) "else" :: body.lines
  | .elseif c body next =>
    c.line "elseif" (.divides (some c.condition)) :: (body.lines ++ next.lines)

end

mutual

/-- Which lines of a program stand inside which labels. -/
def Program.outline : Program → Outline
  | .done => .done
  | .statement s next => .text (String.ofList s.text) next.outline
  | .declaration type i next => .declaration type i.name next.outline
  | .script name body next => .block (.script name.scriptName) body.outline .done next.outline
  | .choice c body others next =>
    .block (.choice c.condition) body.outline others.branches next.outline
  | .loop c body next => .block (.loop c.condition) body.outline .done next.outline

def Alternatives.branches : Alternatives → Branches
  | .done => .done
  | .otherwise body => .branch none body.outline .done
  | .elseif c body next => .branch (some c.condition) body.outline next.branches

end

/-! ### Reading the lines back -/

/-- A text that is read back as a line. -/
structure IsLine (text : List Char) (line : Line) : Prop where
  no_break : '\n' ∉ text
  nonempty : trim (uncomment false text) ≠ []
  ofText : Line.ofText (trim (uncomment false text)) = line

/-- Two texts with a line feed between them are read one after the other. -/
theorem sourceLines_append_break (s t : List Char) :
    sourceLines (s ++ '\n' :: t) = sourceLines s ++ sourceLines t := by
  unfold sourceLines sourceTexts
  rw [lines_append_break, List.map_append, List.filter_append, List.map_append]

/-- A text without a line feed is one line. -/
theorem IsLine.sourceLines_eq {text : List Char} {l : Line} (h : IsLine text l) :
    sourceLines text = [l] := by
  unfold sourceLines sourceTexts
  rw [lines_of_not_mem h.no_break, List.map_singleton,
    List.filter_cons_of_pos (by simpa using h.nonempty), List.filter_nil, List.map_singleton,
    h.ofText]

/-- Lines that were written one after the other are read back. -/
theorem sourceLines_of_forall₂ {texts : List (List Char)} {ls : List Line}
    (h : List.Forall₂ IsLine texts ls) : sourceLines (texts.flatMap (· ++ ['\n'])) = ls := by
  induction h with
  | nil => rfl
  | cons ht _ ih =>
    rw [List.flatMap_cons, List.append_assoc, List.singleton_append, sourceLines_append_break,
      ht.sourceLines_eq, ih]
    rfl

namespace IsLine

theorem statement (s : Statement) : IsLine s.text (.statement (String.ofList s.text)) where
  no_break := s.no_break
  nonempty := by rw [s.no_comment, s.trimmed]; exact s.nonempty
  ofText := by rw [s.no_comment, s.trimmed]; exact s.plain

theorem declaration (type : VariableType) (i : Identifier) :
    IsLine (i.declaration type) (.declaration type i.name) := by
  have hword : IsWordText type.keyword.toList := by cases type <;> decide +kernel
  have hname : uncomment false (' ' :: i.text) = ' ' :: i.text := by
    have := i.isWordText.uncomment_append []
    simpa [uncomment] using this
  have huncomment : uncomment false (i.declaration type) = i.declaration type := by
    rw [Identifier.declaration, hword.uncomment_append, hname]
  refine ⟨?_, ?_, ?_⟩
  · rw [Identifier.declaration, List.mem_append, List.mem_cons, not_or, not_or]
    exact ⟨hword.not_mem (by decide), by decide, i.isWordText.not_mem (by decide)⟩
  · rw [huncomment, Identifier.declaration, hword.trim_append]
    exact List.append_ne_nil_of_left_ne_nil hword.1 _
  · rw [huncomment]
    exact Line.ofText_declaration type i.isFoldedLetter_first i.isWord_rest

/-- A label with a phrase after its keyword. -/
theorem keyword (p : Phrase) {w : String} {l : Label} (hw : IsWordText w.toList)
    (hlower : w.toLower = w) (hl : Label.ofKeyword? w (trim p.text) = some l) :
    IsLine (p.after w) (p.line w l) := by
  have huncomment : uncomment false (p.after w) = p.after w := by
    have hp : uncomment false (' ' :: p.text) = ' ' :: p.text := by
      simp [uncomment, p.no_comment]
    rw [Phrase.after, hw.uncomment_append, hp]
  refine ⟨?_, ?_, ?_⟩
  · rw [Phrase.after, List.mem_append, List.mem_cons, not_or, not_or]
    exact ⟨hw.not_mem (by decide), by decide, p.no_break⟩
  · rw [huncomment, Phrase.after, hw.trim_append]
    exact List.append_ne_nil_of_left_ne_nil hw.1 _
  · rw [huncomment]
    apply Line.ofText_keyword hw
    rwa [String.ofList_toList, hlower]

/-- A label that is only a keyword. -/
theorem bare {w : String} {l : Label} (hw : IsWordText w.toList) (hlower : w.toLower = w)
    (hl : Label.ofKeyword? w [] = some l) : IsLine w.toList (.label l w) := by
  have huncomment : uncomment false w.toList = w.toList := by
    simpa [uncomment] using hw.uncomment_append []
  have htrim : trim w.toList = w.toList := by simpa using hw.trim_append []
  refine ⟨hw.not_mem (by decide), ?_, ?_⟩
  · rw [huncomment, htrim]
    exact hw.1
  · rw [huncomment, htrim, Line.ofText_bare hw (l := l), String.ofList_toList]
    rwa [String.ofList_toList, hlower]

end IsLine

mutual

theorem Program.forall₂_isLine (p : Program) : List.Forall₂ IsLine p.texts p.lines := by
  cases p with
  | done => exact .nil
  | statement s next => exact .cons (.statement s) next.forall₂_isLine
  | declaration type i next => exact .cons (.declaration type i) next.forall₂_isLine
  | script name body next =>
    refine .cons (.keyword name (by decide +kernel) (by decide +kernel) rfl) ?_
    apply List.rel_append body.forall₂_isLine
    exact .cons (.bare (by decide +kernel) (by decide +kernel) rfl) next.forall₂_isLine
  | choice c body others next =>
    refine .cons (.keyword c (by decide +kernel) (by decide +kernel) rfl) ?_
    apply List.rel_append
    · exact List.rel_append body.forall₂_isLine others.forall₂_isLine
    · exact .cons (.bare (by decide +kernel) (by decide +kernel) rfl) next.forall₂_isLine
  | loop c body next =>
    refine .cons (.keyword c (by decide +kernel) (by decide +kernel) rfl) ?_
    apply List.rel_append body.forall₂_isLine
    exact .cons (.bare (by decide +kernel) (by decide +kernel) rfl) next.forall₂_isLine

theorem Alternatives.forall₂_isLine (a : Alternatives) : List.Forall₂ IsLine a.texts a.lines := by
  cases a with
  | done => exact .nil
  | otherwise body =>
    exact .cons (.bare (by decide +kernel) (by decide +kernel) rfl) body.forall₂_isLine
  | elseif c body next =>
    refine .cons (.keyword c (by decide +kernel) (by decide +kernel) rfl) ?_
    exact List.rel_append body.forall₂_isLine next.forall₂_isLine

end

/-- The lines of a program are read back from its script. -/
theorem Program.sourceLines_render (p : Program) : sourceLines p.render.toList = p.lines := by
  rw [Program.render, String.toList_ofList]
  exact sourceLines_of_forall₂ p.forall₂_isLine

/-- A choice in a loop. -/
example :
    (Program.loop ⟨"n < 3".toList, by decide, by decide⟩
      (.choice ⟨"a == 1".toList, by decide, by decide⟩ .done (.otherwise .done) .done)
      .done).render = "while n < 3\nif a == 1\nelse\nendif\nendwhile\n" := by
  decide +kernel

end Questline
