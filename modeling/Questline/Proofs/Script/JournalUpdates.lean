import Questline.Proofs.Script.LineCalls
import Questline.Proofs.Script.PlacedLines
import Questline.Script.Journal

/-!
# Journal updates of a program

In a program whose statements either set a journal index with everything written out, or never
mention the journal, each of the former gives one update and nothing else gives any.

## Main definitions

* `JournalStatement`: a statement that sets a journal index
* `MentionsJournal`: a text with the word in it
* `JournalStatement.update`: the update of a statement where it stands

## Main results

* `JournalStatement.inLine_text`, `inLine_of_not_mentionsJournal`: the calls in a statement
* `Tree.forall₂_journalUpdates`: the updates in a tree
* `Tree.journalUpdates_parse`: the updates in the tree of a program
-/

namespace Questline

/-! ### Statements -/

/-- A statement that sets a journal index to a number of 32 bits. -/
structure JournalStatement where
  /-- One of the two functions, in any letter case. -/
  function : List Char
  before : List Char
  quest : List Char
  between : List Char
  index : Decimal
  function_mem : (String.ofList function).toLower ∈ ["journal", "setjournalindex"]
  isGap_before : IsGap before
  no_quote : '"' ∉ quest
  isGap_between : IsGap between
  no_fraction : index.fraction? = none
  index_range : -0x80000000 ≤ index.toInt ∧ index.toInt ≤ 0x7FFFFFFF

/-- The word in any ASCII letter case, wherever it stands in a text. -/
def MentionsJournal (text : List Char) : Prop :=
  "journal".toList <:+: text.map Char.toLower

instance (text : List Char) : Decidable (MentionsJournal text) :=
  inferInstanceAs (Decidable (_ <:+: _))

namespace JournalStatement

variable (j : JournalStatement)

/-- What follows the function. -/
def rest : List Char :=
  j.before ++ '"' :: (j.quest ++ '"' :: (j.between ++ j.index.text))

def text : List Char :=
  j.function ++ j.rest

/-- The update that the statement makes where it stands. -/
def update (l : PlacedLine) : JournalUpdate where
  quest := (String.ofList (trim j.quest)).toLower
  index := j.index.toInt
  call :=
    { function := (String.ofList j.function).toLower, scope := none,
      arguments := [String.ofList (trim j.quest), String.ofList j.index.text],
      block := l.block, script := l.script, gate := l.gate, line := l.text }

/-! ### The call in a statement -/

theorem map_toLower_function :
    j.function.map Char.toLower = "journal".toList ∨
      j.function.map Char.toLower = "setjournalindex".toList := by
  have hfunction := j.function_mem
  rw [List.mem_cons, List.mem_singleton, ← String.toList_inj, ← String.toList_inj, toList_toLower,
    String.toList_ofList] at hfunction
  exact hfunction

theorem isWordText_function : IsWordText j.function := by
  have hletters : ∀ c ∈ j.function.map Char.toLower, isWord c = true := by
    obtain h | h := j.map_toLower_function <;> rw [h] <;>
      exact forall_mem_of_all (by decide +kernel)
  refine ⟨fun hnil => ?_, List.all_eq_true.2 fun c hc => ?_⟩
  · obtain h | h := j.map_toLower_function <;> rw [hnil] at h <;> cases h
  · exact isWord_of_isWord_toLower (hletters _ (List.mem_map_of_mem hc))

theorem trimStart_rest : (trimStart j.rest).head? ≠ some '-' := by
  obtain h | ⟨v, h, -⟩ := j.isGap_before.trimStart_append fun c hc => (head_quoted _ c hc).1
  · rw [rest, h]
    simp
  · rw [rest, h]
    simp

/-- The arguments of the statement are read up to its end. -/
theorem readArguments?_rest : readArguments? journalPattern.arguments j.rest =
    some (['"' :: (j.quest ++ ['"']), j.index.text], []) := by
  have hindex : ∀ c ∈ j.index.text.head?, isBlank c = false ∧ c ≠ ',' := by
    intro c hc
    refine ⟨j.index.isBlank_head_text c hc, ?_⟩
    rintro rfl
    exact j.index.head?_text_ne (by decide) (by decide) hc
  have hnumber : (Argument.number.tokens j.index.text).head? = some (j.index.text, []) := by
    rw [Argument.tokens, numberToken?_text j.no_fraction]
    rfl
  refine readArguments?_cons (j.isGap_before.head?_separators (head_quoted _))
    (head?_tokens_quoted j.no_quote _) ?_
  exact readArguments?_cons (j.isGap_between.head?_separators hindex) hnumber rfl

theorem exists_function : ∃ name ∈ journalPattern.functions,
    j.function.map foldCase = name.toList.map foldCase := by
  have hnames : ∀ name ∈ journalPattern.functions,
      name.toList.all (fun c => decide (c.toNat < 0x80)) = true ∧
        name.toList.map foldCase = name.toList := by
    decide +kernel
  have hname : ∃ name ∈ journalPattern.functions, j.function.map Char.toLower = name.toList := by
    obtain h | h := j.map_toLower_function
    · exact ⟨"journal", by decide, h⟩
    · exact ⟨"setjournalindex", by decide, h⟩
  obtain ⟨name, hmem, h⟩ := hname
  obtain ⟨hascii, hfold⟩ := hnames name hmem
  exact ⟨name, hmem, (map_foldCase_of_map_toLower (forall_mem_of_all hascii) h).trans hfold.symm⟩

/-- A statement that sets a journal index is one call. -/
theorem inLine_text : journalPattern.inLine j.text =
    [.bare j.function ['"' :: (j.quest ++ ['"']), j.index.text]] := by
  obtain ⟨own, hown, hfold⟩ := j.exists_function
  refine CallPattern.inLine_call rfl j.isWordText_function (j.isGap_before.isObjectChar_head _)
    j.trimStart_rest ⟨own, hown, hfold⟩ (fun name hname => ?_) j.readArguments?_rest
  have hheads : ∀ a ∈ journalPattern.functions, a.toList ≠ [] ∧ ∀ b ∈ journalPattern.functions,
      a = b ∨ (a.toList.map foldCase).head? ≠ (b.toList.map foldCase).head? := by
    decide +kernel
  obtain ⟨hne, hhead⟩ := hheads name hname
  obtain rfl | hother := hhead own hown
  · exact .inl hfold
  · exact .inr (matchFolded?_eq_none hne j.isWordText_function.1 (hfold ▸ hother) _)

/-- The update of the call in a statement. -/
theorem journalUpdate?_calls {l : PlacedLine} (hl : l.text.toList = j.text) :
    (l.calls journalPattern).filterMap Call.journalUpdate? = [j.update l] := by
  have hquest : unquote ('"' :: (j.quest ++ ['"'])) = trim j.quest := unquote_quoted j.quest
  have hread : readIndex? (String.ofList j.index.text).toList = some j.index.toInt := by
    rw [String.toList_ofList]
    exact Decimal.readInt?_text j.no_fraction j.index_range
  rw [PlacedLine.calls, hl, inLine_text, List.map_singleton, CallText.bare]
  dsimp only
  rw [List.map_cons, List.map_singleton, hquest, j.index.unquote_text, List.filterMap_cons,
    Call.journalUpdate?]
  dsimp only
  rw [hread]
  rfl

/-! ### The statement in a program -/

theorem mentionsJournal_text : MentionsJournal j.text := by
  have hfunction : "journal".toList <:+: j.function.map Char.toLower := by
    have hnames : "journal".toList <:+: "setjournalindex".toList :=
      ⟨"set".toList, "index".toList, rfl⟩
    obtain h | h := j.map_toLower_function
    · exact h ▸ List.infix_rfl
    · exact h ▸ hnames
  rw [MentionsJournal, text, List.map_append]
  exact hfunction.trans (List.prefix_append _ _).isInfix

/-- Quotes are closed before anything could be a comment. -/
theorem uncomment_text : uncomment false j.text = j.text := by
  have hnumber : uncomment false j.index.text = j.index.text := by
    have hmem : ∀ c, c ∈ j.index.text → c = '-' ∨ c.isDigit = true :=
      fun c hc => Decimal.of_mem_text j.no_fraction hc
    have hplain : '"' ∉ j.index.text ∧ ';' ∉ j.index.text :=
      ⟨fun h => absurd (hmem _ h) (by decide), fun h => absurd (hmem _ h) (by decide)⟩
    have h := uncomment_append hplain []
    rwa [List.append_nil, uncomment, List.append_nil] at h
  rw [text, rest, j.isWordText_function.uncomment_append, j.isGap_before.uncomment_append,
    uncomment_quoted j.no_quote, j.isGap_between.uncomment_append, hnumber]

theorem trim_text : trim j.text = j.text := by
  refine trim_eq_self (fun c hc => ?_) (fun c hc => ?_)
  · obtain ⟨a, w, ha⟩ := List.exists_cons_of_ne_nil j.isWordText_function.1
    rw [text, ha] at hc
    obtain rfl := Option.some.inj hc
    exact isBlank_eq_false_of_isWord
      (j.isWordText_function.isWord_of_mem (ha ▸ List.mem_cons_self))
  · obtain ⟨r, a, ha, hblank⟩ := j.index.exists_text_concat
    have hlast : j.text.getLast? = some a := by
      simp only [text, rest, ha, ← List.cons_append, ← List.append_assoc, List.getLast?_concat]
    rw [hlast] at hc
    obtain rfl := Option.some.inj hc
    exact hblank

/-- The functions are no keywords. -/
theorem ofText_text : Line.ofText j.text = .statement (String.ofList j.text) := by
  obtain ⟨htake, hdrop⟩ := j.isWordText_function.takeWhile_append
    (j.isGap_before.isWord_head ('"' :: (j.quest ++ '"' :: (j.between ++ j.index.text))))
  have hlabel : ∀ r, Label.ofKeyword? (String.ofList j.function).toLower r = none := by
    intro r
    obtain h | h := List.mem_pair.1 j.function_mem <;> rw [h] <;> rfl
  have htype : VariableType.ofKeyword? (String.ofList j.function).toLower = none := by
    obtain h | h := List.mem_pair.1 j.function_mem <;> rw [h] <;> rfl
  have hdeclaration : Line.declaration? j.text = none := by
    rw [Line.declaration?, text, rest, htake, htype]
  rw [Line.ofText, hdeclaration, text, rest, htake, hlabel]

/-- A statement that sets a journal index can stand in a program. -/
def statement (hbreak : '\n' ∉ j.text) : Statement where
  text := j.text
  no_break := hbreak
  no_comment := j.uncomment_text
  nonempty := List.append_ne_nil_of_left_ne_nil j.isWordText_function.1 _
  trimmed := j.trim_text
  plain := j.ofText_text

end JournalStatement

/-- A text that does not mention the journal has no calls that set its index. -/
theorem inLine_of_not_mentionsJournal {t : List Char} (h : ¬MentionsJournal t) :
    journalPattern.inLine t = [] := by
  refine CallPattern.inLine_eq_nil fun name hname u hu => ?_
  rw [Option.eq_none_iff_forall_ne_some]
  intro s hs
  have hletters : ∀ c ∈ "journal".toList, c.toNat < 0x80 ∧ c ≠ 's' ∧ c ≠ 'k' :=
    forall_mem_of_all (by decide +kernel)
  have hnames : ∀ name ∈ journalPattern.functions,
      "journal".toList <:+: name.toList.map foldCase := by
    decide +kernel
  have hmention := isInfix_map_toLower_of_matchFolded? hletters (hnames name hname) hs
  exact h (hmention.trans (hu.isInfix.map _))

/-! ### Trees -/

/-- In a tree whose statements either set a journal index or never mention the journal, each of
the former gives one update, in order. -/
theorem Tree.forall₂_journalUpdates (t : Tree)
    (h : ∀ l ∈ t.placed, (∃ j : JournalStatement, l.text.toList = j.text) ∨
      ¬MentionsJournal l.text.toList) :
    List.Forall₂ (fun l u => ∃ j : JournalStatement, l.text.toList = j.text ∧ u = j.update l)
      (t.placed.filter fun l => MentionsJournal l.text.toList) t.journalUpdates := by
  rw [Tree.journalUpdates, t.calls_eq_flatMap, List.filterMap_flatMap]
  generalize t.placed = ls at h
  induction ls with
  | nil => exact .nil
  | cons l ls ih =>
    obtain ⟨hl, hls⟩ := List.forall_mem_cons.1 h
    rw [List.flatMap_cons]
    by_cases hmention : MentionsJournal l.text.toList
    · obtain ⟨j, hj⟩ := hl.resolve_right (not_not_intro hmention)
      rw [List.filter_cons_of_pos (by simpa using hmention), j.journalUpdate?_calls hj]
      exact .cons ⟨j, hj, rfl⟩ (ih hls)
    · have hcalls : l.calls journalPattern = [] := by
        rw [PlacedLine.calls, inLine_of_not_mentionsJournal hmention]
        rfl
      rw [List.filter_cons_of_neg (by simpa using hmention), hcalls]
      exact ih hls

/-! ### Programs -/

/-- In a program whose statements either set a journal index or never mention the journal, each
of the former gives one update, in order, with the quest and the index as they are written and
with the block and the requirements of the place where the statement stands. This is so however
the program is spelled, written down with one item on each line for example. -/
theorem Tree.journalUpdates_parse (p : Program) (t : Translator)
    (h : ∀ s ∈ p.statements, (∃ j : JournalStatement, s.text = j.text) ∨ ¬MentionsJournal s.text) :
    (∀ s ∈ p.statements, MentionsJournal s.text ↔ ∃ j : JournalStatement, s.text = j.text) ∧
    Outline.ofLines (sourceLines p.render.toList) = p.outline ∧
    ∀ source : String, Outline.ofLines (sourceLines source.toList) = p.outline →
      let tree := (Tree.parse source t).1
      let lines := p.placed t.globals
      lines.map (·.text) = p.statements.map (fun s => String.ofList s.text) ∧
      tree.placed = lines ∧
      List.Forall₂ (fun l u => ∃ j : JournalStatement, l.text.toList = j.text ∧ u = j.update l)
        (lines.filter fun l => MentionsJournal l.text.toList) tree.journalUpdates := by
  refine ⟨fun s hs => ⟨fun hmention => ?_, ?_⟩, ?_, fun source hsource => ?_⟩
  · exact (h s hs).resolve_right (not_not_intro hmention)
  · rintro ⟨j, hj⟩
    rw [hj]
    exact j.mentionsJournal_text
  · rw [p.sourceLines_render, p.ofLines_lines]
  · have htexts := p.map_text_placed t.globals
    have hplaced := Tree.placed_parse hsource t
    refine ⟨htexts, hplaced, ?_⟩
    rw [← hplaced]
    refine Tree.forall₂_journalUpdates _ fun l hl => ?_
    rw [hplaced] at hl
    have hl := List.mem_map_of_mem (f := (·.text)) hl
    rw [htexts] at hl
    obtain ⟨s, hs, htext⟩ := List.mem_map.1 hl
    rw [← htext, String.toList_ofList]
    exact h s hs

/-- `Journal "MS_X " 10` -/
def firstUpdate : JournalStatement where
  function := "Journal".toList
  before := [' ']
  quest := "MS_X ".toList
  between := [' ']
  index := ⟨false, "10".toList, none, by decide, forall_mem_of_all (by decide), nofun, nofun⟩
  function_mem := by decide +kernel
  isGap_before := .inl ⟨by decide, forall_mem_of_all (by decide)⟩
  no_quote := by decide
  isGap_between := .inl ⟨by decide, forall_mem_of_all (by decide)⟩
  no_fraction := rfl
  index_range := by decide

/-- `setJOURNALindex , "a;b",-5` -/
def otherUpdate : JournalStatement where
  function := "setJOURNALindex".toList
  before := " , ".toList
  quest := "a;b".toList
  between := [',']
  index := ⟨true, "5".toList, none, by decide, forall_mem_of_all (by decide), nofun, nofun⟩
  function_mem := by decide +kernel
  isGap_before := .inr ⟨[' '], [' '], rfl, forall_mem_of_all (by decide),
    forall_mem_of_all (by decide)⟩
  no_quote := by decide
  isGap_between := .inr ⟨[], [], rfl, nofun, nofun⟩
  no_fraction := rfl
  index_range := by decide

def setStatement : Statement where
  text := "set x to 1".toList
  no_break := by decide
  no_comment := by decide
  nonempty := by decide
  trimmed := by decide
  plain := by decide +kernel

/-- A choice between the two updates. -/
def choiceOfUpdates : Program :=
  .script ⟨"quest".toList, by decide, by decide⟩
    (.choice ⟨"( x == 1 )".toList, by decide, by decide⟩
      (.statement (firstUpdate.statement (by decide)) .done)
      (.otherwise (.statement (otherUpdate.statement (by decide)) .done))
      (.statement setStatement .done))
    .done

theorem choiceOfUpdates_journalUpdates :
    let p := choiceOfUpdates
    let tree := (Tree.parse p.render {}).1
    (∀ s ∈ p.statements, (∃ j : JournalStatement, s.text = j.text) ∨ ¬MentionsJournal s.text) ∧
    List.Forall₂ (fun l u => ∃ j : JournalStatement, l.text.toList = j.text ∧ u = j.update l)
      ((p.placed ∅).filter fun l => MentionsJournal l.text.toList) tree.journalUpdates ∧
    tree.journalUpdates.map (fun u => (u.quest, u.index, u.call.block, u.call.gate.size)) =
      [("ms_x", 10, 3, 1), ("a;b", -5, 5, 1)] := by
  intro p tree
  have hstatements : ∀ s ∈ p.statements,
      (∃ j : JournalStatement, s.text = j.text) ∨ ¬MentionsJournal s.text := by
    have hlist : p.statements = [firstUpdate.statement (by decide),
        otherUpdate.statement (by decide), setStatement] := rfl
    intro s hs
    rw [hlist, List.mem_cons, List.mem_pair] at hs
    obtain rfl | rfl | rfl := hs
    · exact .inl ⟨firstUpdate, rfl⟩
    · exact .inl ⟨otherUpdate, rfl⟩
    · exact .inr (by decide +kernel)
  obtain ⟨-, hsource, hupdates⟩ := Tree.journalUpdates_parse p {} hstatements
  exact ⟨hstatements, (hupdates p.render hsource).2.2, by decide +kernel⟩

end Questline
