import Questline.Proofs.Condition.Reading

/-!
# Conditions as they are written

A condition whose command is a known function is read as what it says, however it is spaced: with
any object in front of an arrow, any quoted argument, and any comparison with a decimal or with a
quoted text.

## Main definitions

* `WrittenCondition`: the pieces of a condition with the white space between them
* `WrittenCondition.text`: how it is written
* `WrittenCondition.requirement`: what it says

## Main results

* `WrittenTest.read?_text`: a comparison is read back
* `WrittenCondition.completes`: nothing after the command is taken for something else
* `WrittenCondition.translate_text`: the condition is read as what it says
-/

namespace Questline

/-! ### Pieces -/

/-- White space, or none. -/
structure Gap where
  text : List Char
  isBlank_text : ∀ c ∈ text, isBlank c = true

namespace Gap

variable (g : Gap) {t : List Char}

theorem of_mem_head?_append {c : Char} (hc : c ∈ (g.text ++ t).head?) :
    isBlank c = true ∨ c ∈ t.head? := by
  cases hg : g.text with
  | nil =>
    rw [hg] at hc
    exact .inr hc
  | cons b r =>
    rw [hg] at hc
    obtain rfl := Option.some.inj hc
    exact .inl (g.isBlank_text b (hg ▸ List.mem_cons_self))

theorem trimStart_append (ht : ∀ c ∈ t.head?, isBlank c = false) :
    trimStart (g.text ++ t) = t :=
  dropWhile_append_of_stop g.isBlank_text ht

end Gap

/-- A text in double quotes. -/
structure QuotedText where
  inside : List Char
  noQuote : '"' ∉ inside

namespace QuotedText

variable (q : QuotedText)

def text : List Char :=
  '"' :: (q.inside ++ ['"'])

/-- What the text says: white space around it and letter case do not count. -/
def name : String :=
  (String.ofList (trim q.inside)).toLower

theorem nameOf_text : nameOf q.text = q.name := by
  rw [nameOf, text, unquote_quoted, name]

theorem stringToken?_text_append (t : List Char) :
    stringToken? (q.text ++ t) = some (q.text, t) := by
  have hassoc : q.text ++ t = '"' :: (q.inside ++ '"' :: t) := by simp [text]
  rw [hassoc, stringToken?_append q.noQuote]
  rfl

end QuotedText

/-- What an operand is compared with. -/
inductive Comparand where
  | number (d : Decimal)
  | quoted (q : QuotedText)

namespace Comparand

def text : Comparand → List Char
  | number d => d.text
  | quoted q => q.text

/-- The number that is compared with. -/
def value? : Comparand → Option Float
  | number d => some d.toFloat
  | quoted _ => none

/-- The text that is compared with. -/
def text? : Comparand → Option String
  | number _ => none
  | quoted q => some q.name

variable (x : Comparand)

theorem isBlank_head_text : ∀ c ∈ x.text.head?, isBlank c = false := by
  cases x with
  | number d => exact d.isBlank_head_text
  | quoted q =>
    intro c hc
    obtain rfl := Option.some.inj hc
    decide

theorem head?_text_ne : ∀ c ∈ x.text.head?, c ≠ '=' := by
  intro c hc
  cases x with
  | number d =>
    rintro rfl
    exact d.head?_text_ne (by decide) (by decide) hc
  | quoted q =>
    obtain rfl := Option.some.inj hc
    decide

theorem exists_text_concat : ∃ r c, x.text = r ++ [c] ∧ isBlank c = false := by
  cases x with
  | number d => exact d.exists_text_concat
  | quoted q => exact ⟨'"' :: q.inside, '"', rfl, by decide⟩

theorem isComparand_text : isComparand x.text = true := by
  cases x with
  | number d =>
    rw [isComparand, text, d.isNumeral_text, Bool.or_true]
    rfl
  | quoted q =>
    have hquoted := quoted?_append q.noQuote []
    rw [isComparand, isStringToken, text, QuotedText.text, hquoted]
    rfl

/-- A quoted text is never a number. -/
theorem readFloat?_text : Number.readFloat? x.text = x.value? := by
  cases x with
  | number d => exact d.readFloat?_text_eq
  | quoted q =>
    have hmagnitude : Number.magnitude? q.text = none := rfl
    have hword : Number.word? q.text = none := by
      simp [Number.word?, QuotedText.text]
    have hsign : Number.sign q.text = (false, q.text) := rfl
    rw [text, Number.readFloat?, hsign]
    dsimp only
    rw [hmagnitude, hword]
    rfl

theorem against_text {r : Requirement} (hvalue : r.value = none) (htext : r.text = none) :
    r.against x.text = { r with value := x.value?, text := x.text? } := by
  rw [Requirement.against, x.readFloat?_text]
  cases x with
  | number d => rw [value?, text?, ← htext]
  | quoted q =>
    show { r with text := some (nameOf q.text) } = { r with value := none, text := some q.name }
    rw [q.nameOf_text, ← hvalue]

end Comparand

/-- The symbols of comparisons. There are two for equality. -/
def Comparison.symbols : List (String × Comparison) :=
  [("==", .equal), ("=", .equal), ("!=", .notEqual), (">", .greater), (">=", .greaterOrEqual),
    ("<", .less), ("<=", .lessOrEqual)]

/-- A comparison with the white space in front of it. -/
structure WrittenTest where
  before : Gap
  symbol : String
  comparison : Comparison
  mem_symbols : (symbol, comparison) ∈ Comparison.symbols
  between : Gap
  comparand : Comparand

/-- An argument with the white space in front of it; a comma comes with the white space after it. -/
structure WrittenArgument where
  before : Gap
  comma : Option Gap
  quoted : QuotedText

/-- An object in front of an arrow: a quoted text that is not empty, or a word. -/
inductive WrittenObject where
  | quoted (q : QuotedText) (inside_ne_nil : q.inside ≠ [])
  | word (w : List Char) (isWordText : IsWordText w)

/-- An object with an arrow, with the white space on both sides of the arrow. -/
structure WrittenScope where
  object : WrittenObject
  before : Gap
  after : Gap

/-- A condition on a known command, which can be written in any letter case. -/
structure WrittenCondition where
  lead : Gap
  scope : Option WrittenScope
  spelling : List Char
  command : Command
  mem_table : ((String.ofList spelling).toLower, command) ∈ Command.table
  argument : Option WrittenArgument
  test : Option WrittenTest
  trail : Gap

/-! ### The comparison -/

namespace WrittenTest

def text (t : WrittenTest) : List Char :=
  t.before.text ++ (t.symbol.toList ++ (t.between.text ++ t.comparand.text))

variable (t : WrittenTest)

theorem exists_symbol_eq :
    ∃ a u, t.symbol.toList = a :: u ∧ isBlank a = false ∧ a ∈ ['=', '!', '>', '<'] := by
  have hall : ∀ p ∈ Comparison.symbols, (p.1.toList.head?.any fun a =>
      !isBlank a && ['=', '!', '>', '<'].contains a) = true :=
    forall_mem_of_all (by decide)
  obtain ⟨a, ha, hfirst⟩ := (Option.any_eq_true _ _).1 (hall _ t.mem_symbols)
  obtain ⟨u, hu⟩ := List.head?_eq_some_iff.1 ha
  rw [Bool.and_eq_true, Bool.not_eq_true', List.contains_iff_mem] at hfirst
  exact ⟨a, u, hu, hfirst⟩

/-- A symbol is the longest that stands where it stands. -/
theorem scan?_symbol_append {u : List Char} (hu : ∀ c ∈ u.head?, c ≠ '=') :
    Comparison.scan? (t.symbol.toList ++ u) = some (t.comparison, u) := by
  have hsingle : Comparison.scan? ('=' :: u) = some (.equal, u) ∧
      Comparison.scan? ('>' :: u) = some (.greater, u) ∧
      Comparison.scan? ('<' :: u) = some (.less, u) := by
    cases u with
    | nil => exact ⟨rfl, rfl, rfl⟩
    | cons c u =>
      have hc := hu c rfl
      refine ⟨?_, ?_, ?_⟩ <;> unfold Comparison.scan? <;> split <;> simp_all
  have hall : ∀ p ∈ Comparison.symbols, Comparison.scan? (p.1.toList ++ u) = some (p.2, u) := by
    simp only [Comparison.symbols, List.forall_mem_cons, List.not_mem_nil, false_imp_iff,
      implies_true, and_true]
    exact ⟨rfl, hsingle.1, rfl, hsingle.2.1, rfl, hsingle.2.2, rfl⟩
  exact hall _ t.mem_symbols

theorem exists_text_concat : ∃ r c, t.text = r ++ [c] ∧ isBlank c = false := by
  obtain ⟨r, c, hr, hc⟩ := t.comparand.exists_text_concat
  refine ⟨t.before.text ++ (t.symbol.toList ++ (t.between.text ++ r)), c, ?_, hc⟩
  rw [text, hr]
  simp

theorem trimStart_text :
    trimStart t.text = t.symbol.toList ++ (t.between.text ++ t.comparand.text) := by
  obtain ⟨a, u, ha, hblank, -⟩ := t.exists_symbol_eq
  refine t.before.trimStart_append fun c hc => ?_
  rw [ha] at hc
  obtain rfl := Option.some.inj hc
  exact hblank

/-- A comparison is read back. -/
theorem read?_text : Test.read? t.text = some (some (t.comparison, t.comparand.text)) := by
  have htrim : trim t.text = t.symbol.toList ++ (t.between.text ++ t.comparand.text) := by
    obtain ⟨r, c, hr, hc⟩ := t.exists_text_concat
    rw [trim, ← trimStart_trimEnd, hr, trimEnd_concat hc, ← hr, trimStart_text]
  have hscan : Comparison.scan? (t.symbol.toList ++ (t.between.text ++ t.comparand.text)) =
      some (t.comparison, t.between.text ++ t.comparand.text) := by
    refine t.scan?_symbol_append fun c hc => ?_
    obtain hblank | hc := t.between.of_mem_head?_append hc
    · rintro rfl
      exact absurd hblank (by decide)
    · exact t.comparand.head?_text_ne c hc
  have hvalue := t.between.trimStart_append t.comparand.isBlank_head_text
  obtain ⟨a, u, ha, -⟩ := t.exists_symbol_eq
  rw [Test.read?, htrim]
  rw [ha] at hscan ⊢
  rw [List.cons_append] at hscan ⊢
  dsimp only
  rw [hscan]
  dsimp only
  rw [hvalue, t.comparand.isComparand_text]
  rfl

end WrittenTest

/-! ### The argument -/

namespace WrittenArgument

def text (a : WrittenArgument) : List Char :=
  a.before.text ++ (a.comma.elim [] (',' :: ·.text) ++ a.quoted.text)

variable (a : WrittenArgument)

theorem exists_text_concat : ∃ r, a.text = r ++ ['"'] :=
  ⟨a.before.text ++ (a.comma.elim [] (',' :: ·.text) ++ '"' :: a.quoted.inside), by
    simp [text, QuotedText.text]⟩

theorem afterComma_text_append (u : List Char) :
    Condition.afterComma (a.text ++ u) = a.quoted.text ++ u := by
  have hquote : ∀ c ∈ (a.quoted.text ++ u).head?, isBlank c = false := by
    intro c hc
    obtain rfl := Option.some.inj hc
    decide
  rw [Condition.afterComma, text, List.append_assoc]
  cases a.comma with
  | none =>
    rw [Option.elim_none, List.nil_append, a.before.trimStart_append hquote]
    rfl
  | some g =>
    have hcomma : ∀ c ∈ (',' :: (g.text ++ (a.quoted.text ++ u))).head?, isBlank c = false := by
      intro c hc
      obtain rfl := Option.some.inj hc
      decide
    rw [Option.elim_some, List.append_assoc, List.cons_append, a.before.trimStart_append hcomma]
    exact g.trimStart_append hquote

/-- An argument is cut off as it was written. -/
theorem head?_arguments (u : List Char) :
    (Condition.arguments (a.text ++ u)).head? = some (some a.quoted.text, u) := by
  rw [Condition.arguments, a.afterComma_text_append, a.quoted.stringToken?_text_append]
  rfl

end WrittenArgument

/-! ### What comes after the command -/

/-- The first characters, white space not counted, of what can come after a command. -/
def marks : List Char :=
  [',', '"', '=', '!', '>', '<']

theorem of_mem_marks : ∀ c ∈ marks, isObjectChar c = false ∧ isBlank c = false ∧ c ≠ '.' ∧
    c ≠ '-' :=
  forall_mem_of_all (by decide)

namespace WrittenCondition

variable (c : WrittenCondition)

/-- What is written after the command. -/
def rest : List Char :=
  c.argument.elim [] (·.text) ++ c.test.elim [] (·.text)

theorem exists_rest_eq : ∃ g : Gap, ∃ u, c.rest = g.text ++ u ∧ ∀ a ∈ u.head?, a ∈ marks := by
  rw [rest]
  cases c.argument with
  | some a =>
    refine ⟨a.before, (a.comma.elim [] (',' :: ·.text) ++ a.quoted.text) ++ c.test.elim [] (·.text),
      ?_, ?_⟩
    · simp [WrittenArgument.text]
    · intro b hb
      cases hcomma : a.comma <;> rw [hcomma] at hb <;> obtain rfl := Option.some.inj hb <;> decide
  | none =>
    cases c.test with
    | some t =>
      obtain ⟨a, u, ha, -, hmem⟩ := t.exists_symbol_eq
      refine ⟨t.before, t.symbol.toList ++ (t.between.text ++ t.comparand.text), rfl, ?_⟩
      rw [ha]
      intro b hb
      obtain rfl := Option.some.inj hb
      exact List.mem_cons_of_mem _ (List.mem_cons_of_mem _ hmem)
    | none => exact ⟨⟨[], by simp⟩, [], rfl, by simp⟩

theorem read?_test : Test.read? (c.test.elim [] (·.text)) =
    some (c.test.map fun t => (t.comparison, t.comparand.text)) := by
  cases c.test with
  | some t => exact t.read?_text
  | none => rfl

/-- Nothing after the command is taken for something else. -/
theorem completes : Condition.Completes c.rest (c.argument.map (·.quoted.text))
    (c.test.map fun t => (t.comparison, t.comparand.text)) := by
  obtain ⟨g, u, hrest, hu⟩ := c.exists_rest_eq
  have hstart : trimStart c.rest = u := by
    rw [hrest]
    exact g.trimStart_append fun a ha => (of_mem_marks a (hu a ha)).2.1
  refine ⟨?_, ?_, ?_, c.test.elim [] (·.text), ?_, c.read?_test⟩
  · intro a ha
    rw [hrest] at ha
    obtain hblank | ha := g.of_mem_head?_append ha
    · exact isObjectChar_of_isBlank hblank
    · exact (of_mem_marks a (hu a ha)).1
  · rw [hstart]
    exact fun h => (of_mem_marks _ (hu _ h)).2.2.1 rfl
  · rw [hstart]
    exact fun h => (of_mem_marks _ (hu _ h)).2.2.2 rfl
  · cases hargument : c.argument with
    | some a =>
      rw [rest, hargument]
      exact a.head?_arguments _
    | none =>
      rw [rest, hargument]
      cases htest : c.test with
      | some t =>
        obtain ⟨a, v, ha, -, hmem⟩ := t.exists_symbol_eq
        have htrim := t.trimStart_text
        rw [ha] at htrim
        exact Condition.head?_arguments_of_symbol htrim hmem
      | none => rfl

end WrittenCondition

/-! ### What comes before the command -/

namespace WrittenObject

def text : WrittenObject → List Char
  | quoted q _ => q.text
  | word w _ => w

/-- What the object is called: quotes, white space inside them and letter case do not count. -/
def name : WrittenObject → String
  | quoted q _ => q.name
  | word w _ => (String.ofList w).toLower

variable (o : WrittenObject)

theorem isObject_text : IsObject o.text := by
  cases o with
  | quoted q hne => exact .quoted q.noQuote hne
  | word w hw => exact .word hw

theorem nameOf_text : nameOf o.text = o.name := by
  cases o with
  | quoted q hne => exact q.nameOf_text
  | word w hw =>
    have htrim : trim w = w := by simpa using hw.trim_append []
    have hquote : (trim w).head? ≠ some '"' := by
      rw [htrim]
      intro hquote
      exact hw.not_mem (by decide) (List.mem_of_mem_head? hquote)
    rw [nameOf, text, unquote_of_head? hquote, htrim, name]

end WrittenObject

def WrittenScope.text (s : WrittenScope) : List Char :=
  s.object.text ++ (s.before.text ++ '-' :: '>' :: s.after.text)

/-! ### The command -/

theorem isLetter_of_isLetter_toLower {c : Char} (h : isLetter c.toLower = true) :
    isLetter c = true := by
  unfold Char.toLower at h
  split at h
  · next hupper =>
    have halpha : c.isAlpha = true :=
      Bool.or_eq_true_iff.2 (.inl (decide_eq_true hupper))
    rw [isLetter, halpha]
    rfl
  · exact h

/-- The name of a command is spelled like one in any letter case. -/
theorem isCommandText_of_toLower {w : List Char} (h : IsCommandText (w.map Char.toLower)) :
    IsCommandText w := by
  obtain ⟨a, v, hw, ha, hv⟩ := h
  obtain ⟨b, u, rfl, rfl, rfl⟩ := List.map_eq_cons_iff.1 hw
  rw [List.all_map] at hv
  exact ⟨b, u, rfl, isLetter_of_isLetter_toLower ha,
    List.all_eq_true.2 fun c hc => isWord_of_isWord_toLower (List.all_eq_true.1 hv c hc)⟩

theorem Command.find?_of_mem_table : ∀ p ∈ table, find? p.1 = some p.2 :=
  forall_mem_of_all (by decide +kernel)

theorem Command.isCommandText_of_mem_table : ∀ p ∈ table, IsCommandText p.1.toList := by
  have hall : ∀ p ∈ table, p.1.toList ≠ [] ∧ p.1.toList.head?.all isLetter = true ∧
      p.1.toList.tail.all isWord = true :=
    forall_mem_of_all (by decide +kernel)
  intro p hp
  obtain ⟨hne, hletter, hword⟩ := hall p hp
  obtain ⟨a, v, hp⟩ := List.exists_cons_of_ne_nil hne
  rw [hp] at hletter hword
  exact ⟨a, v, hp, hletter, hword⟩

/-! ### The whole condition -/

namespace WrittenCondition

variable (c : WrittenCondition)

/-- How the condition is written. -/
def text : List Char :=
  c.lead.text ++ (c.scope.elim [] (·.text) ++ (c.spelling ++ (c.rest ++ c.trail.text)))

/-- The name of the command. -/
def name : String :=
  (String.ofList c.spelling).toLower

/-- The object that the condition is applied to. -/
def object? : Option String :=
  c.scope.map (·.object.name)

/-- What the condition says. Without a comparison it asks for more than zero; without an object,
a command that only makes sense for the player is about the player. -/
def requirement : Requirement where
  kind :=
    if c.object?.any (· != player) then c.command.actorKind.getD c.command.kind else c.command.kind
  comparison := c.test.elim .greater (·.comparison)
  value := c.test.elim (some 0.0) (·.comparand.value?)
  text := c.test.bind (·.comparand.text?)
  operand := c.argument.map (·.quoted.name)
  object := c.object?.or (if c.name ∈ playerOnly then some player else none)
  attributeIndex := c.command.attributeIndex
  skillIndex := c.command.skillIndex

theorem isCommandText_spelling : IsCommandText c.spelling := by
  have hname := Command.isCommandText_of_mem_table _ c.mem_table
  rw [toList_toLower, String.toList_ofList] at hname
  exact isCommandText_of_toLower hname

theorem isFront : Condition.IsFront (c.scope.elim [] (·.text)) (c.scope.map (·.object.text)) := by
  cases c.scope with
  | none => exact .nothing
  | some s => exact .arrow s.object.isObject_text s.before.isBlank_text s.after.isBlank_text

theorem trimEnd_rest : trimEnd (c.rest ++ c.trail.text) = c.rest := by
  have hlast : c.rest = [] ∨ ∃ r b, c.rest = r ++ [b] ∧ isBlank b = false := by
    rw [rest]
    cases c.test with
    | some t =>
      obtain ⟨r, b, hr, hb⟩ := t.exists_text_concat
      refine .inr ⟨c.argument.elim [] (·.text) ++ r, b, ?_, hb⟩
      rw [Option.elim_some, hr, List.append_assoc]
    | none =>
      rw [Option.elim_none, List.append_nil]
      cases c.argument with
      | some a =>
        obtain ⟨r, hr⟩ := a.exists_text_concat
        exact .inr ⟨r, '"', hr, by decide⟩
      | none => exact .inl rfl
  rw [trimEnd_append_of_isBlank c.trail.isBlank_text]
  obtain hnil | ⟨r, b, hr, hb⟩ := hlast
  · rw [hnil, trimEnd_nil]
  · rw [hr, trimEnd_concat hb]

theorem trim_text : trim c.text = c.scope.elim [] (·.text) ++ (c.spelling ++ c.rest) := by
  rw [text, trim_append_of_isBlank c.lead.isBlank_text,
    c.isFront.trim_append c.isCommandText_spelling.isWordText, c.trimEnd_rest]

/-- The pieces that are found are those that were written, and they say what is meant. -/
theorem requirement_eq (globals : Names) (scope : Scope) :
    Condition.requirement globals scope
        { scope := c.scope.map (·.object.text), command := c.spelling
          argument := c.argument.map (·.quoted.text)
          test := c.test.map fun t => (t.comparison, t.comparand.text) } =
      (c.requirement, none) := by
  have hobject : (c.scope.map (·.object.text)).map nameOf = c.object? := by
    rw [Option.map_map, object?]
    exact Option.map_congr fun s _ => s.object.nameOf_text
  have hargument : (c.argument.map (·.quoted.text)).map nameOf =
      c.argument.map (·.quoted.name) := by
    rw [Option.map_map]
    exact Option.map_congr fun a _ => a.quoted.nameOf_text
  have hfind : Command.find? c.name = some c.command := Command.find?_of_mem_table _ c.mem_table
  have hplayer : (if playerOnly.contains c.name then some player else none) =
      if c.name ∈ playerOnly then some player else none :=
    if_congr List.contains_iff_mem rfl rfl
  rw [name] at hfind
  rw [name] at hplayer
  rw [Condition.requirement, Condition.operand, Condition.object, Condition.commandName, hfind]
  dsimp only
  rw [hobject, hargument, hplayer, requirement]
  cases c.test with
  | some t =>
    dsimp only [Option.map_some]
    rw [Comparand.against_text]
    · rfl
    · rfl
    · rfl
  | none => rfl

/-- A condition on a known command is read as what it says, and leaves nothing to note. -/
theorem translate_text (t : Translator) (scope : Scope) :
    t.translate scope c.text = (.ok c.requirement, t) := by
  rw [Translator.translate, translate_of_completes t.globals scope c.isFront
    c.isCommandText_spelling c.completes c.trim_text, c.requirement_eq]
  rfl

end WrittenCondition

end Questline
