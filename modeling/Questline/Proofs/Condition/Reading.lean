import Questline.Condition.Translator
import Questline.Proofs.Number.Decimal
import Questline.Proofs.Text.Objects

/-!
# Reading conditions

A command, perhaps applied to an object, with an optional argument and an optional comparison is
read as what it was written from, since the first way to cut it is complete.

## Main definitions

* `Condition.IsFront`, `Condition.Completes`: what can come before and after a command
* `comparisonText`: a comparison with a decimal
* `Condition.IsTail`: what can come after a command and white space

## Main results

* `Test.read?_comparison`: a comparison is read back
* `Condition.isTail_comparison`, `Condition.isTail_quoted`: what comes after the commands
* `translate_of_completes`: conditions are read back
-/

namespace Questline

variable {w r g : List Char}

namespace Decimal

variable (d : Decimal)

theorem isNumeral_magnitude :
    (match d.magnitude.dropWhile isDigit with
      | [] => !d.magnitude.isEmpty
      | '.' :: f => !f.isEmpty && f.all isDigit
      | _ => false) = true := by
  have hwhole : ∀ c ∈ d.whole, isDigit c = true :=
    fun c hc => isDigit_of_isDigit (d.isDigit_whole c hc)
  have hstop : ∀ c ∈ (d.fraction?.elim [] ('.' :: ·)).head?, isDigit c = false := by
    cases d.fraction? with
    | none => simp
    | some ds =>
      intro c hc
      obtain rfl := Option.some.inj hc
      decide
  have hdrop := dropWhile_append_of_stop hwhole hstop
  rw [← magnitude] at hdrop
  rw [hdrop]
  cases hf : d.fraction? with
  | none =>
    obtain ⟨c, r, hc, -⟩ := d.exists_magnitude_eq
    rw [hc]
    rfl
  | some ds =>
    have hne := List.isEmpty_eq_false_iff.2 (d.fraction_ne_nil ds hf)
    have hall : ds.all isDigit = true :=
      List.all_eq_true.2 fun c hc => isDigit_of_isDigit (d.isDigit_fraction ds hf c hc)
    show (!ds.isEmpty && ds.all isDigit) = true
    rw [hne, hall]
    rfl

theorem isNumeral_text : isNumeral d.text = true := by
  have hmagnitude := d.isNumeral_magnitude
  cases hn : d.negative with
  | true =>
    rw [text, hn]
    exact hmagnitude
  | false =>
    obtain ⟨c, r, hc, hdigit⟩ := d.exists_magnitude_eq
    rw [text, hn, if_neg Bool.false_ne_true]
    unfold isNumeral
    split
    · next heq =>
      rw [hc] at heq
      obtain ⟨rfl, -⟩ := List.cons.inj heq
      cases hdigit
    · exact hmagnitude

end Decimal

/-! ### The comparison -/

/-- A comparison with a decimal, as it is written after a condition. -/
def comparisonText (c : Comparison) (d : Decimal) : List Char :=
  c.symbol.toList ++ ' ' :: d.text

section

variable (c : Comparison) (d : Decimal)

/-- The characters that symbols of comparisons start with. -/
theorem exists_comparisonText_eq :
    ∃ a u, comparisonText c d = a :: u ∧ a ∈ ['=', '!', '>', '<'] := by
  cases c <;> exact ⟨_, _, rfl, by decide⟩

/-- No white space is cut off after a comparison. -/
theorem trimEnd_append_comparisonText (u : List Char) :
    trimEnd (u ++ comparisonText c d) = u ++ comparisonText c d := by
  obtain ⟨v, b, hb, hblank⟩ := d.exists_text_concat
  rw [comparisonText, hb, ← List.cons_append, ← List.append_assoc, ← List.append_assoc,
    trimEnd_concat hblank]

theorem trim_append_comparisonText (u : List Char) :
    trim (u ++ comparisonText c d) = trimStart (u ++ comparisonText c d) := by
  rw [trim, ← trimStart_trimEnd, trimEnd_append_comparisonText]

theorem trimEnd_quoted_comparisonText (n : List Char) :
    trimEnd (' ' :: '"' :: (n ++ '"' :: ' ' :: comparisonText c d)) =
      ' ' :: '"' :: (n ++ '"' :: ' ' :: comparisonText c d) := by
  have h := trimEnd_append_comparisonText c d (' ' :: '"' :: (n ++ ['"', ' ']))
  simpa only [List.cons_append, List.append_assoc, List.nil_append] using h

theorem trimStart_comparisonText (hg : ∀ a ∈ g, isBlank a = true) :
    trimStart (g ++ comparisonText c d) = comparisonText c d := by
  obtain ⟨a, u, ha, hmem⟩ := exists_comparisonText_eq c d
  have hnot : ∀ a ∈ ['=', '!', '>', '<'], isBlank a = false := forall_mem_of_all (by decide)
  refine dropWhile_append_of_stop hg fun e he => ?_
  rw [ha] at he
  obtain rfl := Option.some.inj he
  exact hnot _ hmem

theorem scan?_comparisonText : Comparison.scan? (comparisonText c d) = some (c, ' ' :: d.text) := by
  cases c <;> rfl

/-- A comparison with a decimal is read back. -/
theorem Test.read?_comparison (hg : ∀ a ∈ g, isBlank a = true) :
    Test.read? (g ++ comparisonText c d) = some (some (c, d.text)) := by
  obtain ⟨a, u, ha, -⟩ := exists_comparisonText_eq c d
  have htext : trimStart (' ' :: d.text) = d.text := d.trimStart_text
  have hcomparand : isComparand d.text = true := by
    rw [isComparand, d.isNumeral_text, Bool.or_true]
    rfl
  have hscan := scan?_comparisonText c d
  rw [Test.read?, trim_append_comparisonText, trimStart_comparisonText c d hg]
  rw [ha] at hscan ⊢
  dsimp only
  rw [hscan]
  dsimp only
  rw [htext, hcomparand]
  rfl

end

namespace Condition

/-! ### What comes after a command -/

/-- What comes after a command: an argument and a comparison, which no other way to cut the
text can take for something else. -/
structure IsTail (r : List Char) (argument : Option (List Char)) (test : Option Test) : Prop where
  isBlank_head : ∀ c ∈ r.head?, isBlank c = true
  no_point : (trimStart r).head? ≠ some '.'
  no_hyphen : (trimStart r).head? ≠ some '-'
  read : ∃ u, (arguments r).head? = some (argument, u) ∧ Test.read? u = some test

/-- What can complete a condition after its command, perhaps without white space in between: an
argument and a comparison, which no other way to cut the text can take for something else. -/
structure Completes (r : List Char) (argument : Option (List Char)) (test : Option Test) :
    Prop where
  isObjectChar_head : ∀ c ∈ r.head?, isObjectChar c = false
  no_point : (trimStart r).head? ≠ some '.'
  no_hyphen : (trimStart r).head? ≠ some '-'
  read : ∃ u, (arguments r).head? = some (argument, u) ∧ Test.read? u = some test

theorem IsTail.completes {argument : Option (List Char)} {test : Option Test}
    (hr : IsTail r argument test) : Completes r argument test where
  isObjectChar_head c hc := isObjectChar_of_isBlank (hr.isBlank_head c hc)
  no_point := hr.no_point
  no_hyphen := hr.no_hyphen
  read := hr.read

/-- A comparison is no argument. -/
theorem head?_arguments_of_symbol {a : Char} {u : List Char} (hr : trimStart r = a :: u)
    (ha : a ∈ ['=', '!', '>', '<']) : (arguments r).head? = some (none, r) := by
  have hnot : ∀ a ∈ ['=', '!', '>', '<'], a ≠ ',' ∧ a ≠ '"' ∧ isLetter a = false :=
    forall_mem_of_all (by decide)
  obtain ⟨hcomma, hquote, hletter⟩ := hnot a ha
  have hafter : afterComma r = a :: u := by
    rw [afterComma, hr]
    split
    · next heq => exact absurd (List.cons.inj heq).1 hcomma
    · rfl
  have hstring : stringToken? (a :: u) = none := by
    refine stringToken?_eq_none fun e he => ?_
    obtain rfl := Option.some.inj he
    exact hquote
  have hruns : runs isLetter isArgumentChar (a :: u) = [] := by
    refine runs_eq_nil fun e he => ?_
    obtain rfl := Option.some.inj he
    exact hletter
  rw [arguments, hafter, hstring, hruns]
  rfl

variable (c : Comparison) (d : Decimal)

/-- A comparison without an argument. -/
theorem isTail_comparison (hne : g ≠ []) (hg : ∀ a ∈ g, isBlank a = true) :
    IsTail (g ++ comparisonText c d) none (some (c, d.text)) := by
  obtain ⟨a, u, ha, hmem⟩ := exists_comparisonText_eq c d
  have htrim := trimStart_comparisonText c d hg
  have hnot : ∀ a ∈ ['=', '!', '>', '<'], a ≠ '.' ∧ a ≠ '-' := forall_mem_of_all (by decide)
  obtain ⟨hpoint, hhyphen⟩ := hnot a hmem
  refine ⟨?_, ?_, ?_, g ++ comparisonText c d, ?_, Test.read?_comparison c d hg⟩
  · obtain ⟨b, g, rfl⟩ := List.exists_cons_of_ne_nil hne
    intro e he
    obtain rfl := Option.some.inj he
    exact hg _ List.mem_cons_self
  · rw [htrim, ha]
    simpa using hpoint
  · rw [htrim, ha]
    simpa using hhyphen
  · exact head?_arguments_of_symbol (htrim.trans ha) hmem

/-- A quoted argument and a comparison. -/
theorem isTail_quoted {n : List Char} (hn : '"' ∉ n) :
    IsTail (' ' :: '"' :: (n ++ '"' :: ' ' :: comparisonText c d)) (some ('"' :: (n ++ ['"'])))
      (some (c, d.text)) := by
  have hblank : ∀ a ∈ [' '], isBlank a = true := forall_mem_of_all (by decide)
  have htrim : trimStart (' ' :: '"' :: (n ++ '"' :: ' ' :: comparisonText c d)) =
      '"' :: (n ++ '"' :: ' ' :: comparisonText c d) := rfl
  refine ⟨?_, ?_, ?_, ' ' :: comparisonText c d, ?_, Test.read?_comparison c d hblank⟩
  · intro e he
    obtain rfl := Option.some.inj he
    exact hblank _ List.mem_cons_self
  · rw [htrim]
    simp
  · rw [htrim]
    simp
  · have hafter : afterComma (' ' :: '"' :: (n ++ '"' :: ' ' :: comparisonText c d)) =
        '"' :: (n ++ '"' :: ' ' :: comparisonText c d) := rfl
    rw [arguments, hafter, stringToken?_append hn]
    rfl

/-! ### Whole conditions -/

variable {argument : Option (List Char)} {test : Option Test} {t u : List Char}

theorem read?_of_head? {scope : Option (List Char)}
    (hscope : (scopes (trimStart t)).head? = some (scope, u))
    (hcommand : (runs isLetter isWord u).head? = some (w, r))
    (hr : Completes r argument test) : read? t = some { scope, command := w, argument, test } := by
  obtain ⟨v, hargument, htest⟩ := hr.read
  rw [read?]
  refine findSome?_of_head? hscope (findSome?_of_head? hcommand (findSome?_of_head? hargument ?_))
  dsimp only
  rw [htest]
  rfl

/-- The command that starts with the letter `a`, and what comes after it. -/
theorem Completes.head?_runs_append (hr : Completes r argument test) {a : Char} {v : List Char}
    (ha : isLetter a = true) (hv : v.all isWord = true) :
    (runs isLetter isWord (a :: v ++ r)).head? = some (a :: v, r) := by
  have hall : ∀ c ∈ v, isWord c = true := List.all_eq_true.1 hv
  have hstop : ∀ c ∈ r.head?, isWord c = false := by
    intro c hc
    rw [← Bool.not_eq_true]
    exact fun hword =>
      Bool.false_ne_true ((hr.isObjectChar_head c hc).symm.trans (isObjectChar_of_isWord hword))
  rw [List.cons_append, head?_runs ha, takeWhile_append_of_stop hall hstop,
    dropWhile_append_of_stop hall hstop]

/-- What can come before a command: nothing, or an object with an arrow. -/
inductive IsFront : List Char → Option (List Char) → Prop
  | nothing : IsFront [] none
  | arrow {o g g' : List Char} (ho : IsObject o) (hg : ∀ c ∈ g, isBlank c = true)
      (hg' : ∀ c ∈ g', isBlank c = true) : IsFront (o ++ (g ++ '-' :: '>' :: g')) (some o)

end Condition

/-- A name that a command can have: a letter, and word characters after it. -/
def IsCommandText (w : List Char) : Prop :=
  ∃ a v, w = a :: v ∧ isLetter a = true ∧ v.all isWord = true

theorem IsCommandText.isWordText (hw : IsCommandText w) : IsWordText w := by
  obtain ⟨a, v, rfl, ha, hv⟩ := hw
  refine .cons ?_ hv
  rw [isFoldedLetter, ha]
  rfl

section

variable {argument : Option (List Char)} {test : Option Test} {t : List Char}

/-- A text is read as it is when no parentheses are around it. -/
theorem stripParens_of_head? (h : (trim t).head? ≠ some '(') : stripParens t = trim t := by
  have hinner : innerParens? (trim t) = none := by
    unfold innerParens?
    split
    · next heq => exact absurd (by rw [heq]; rfl) h
    · rfl
  rw [stripParens]
  split
  · next heq => cases hinner.symm.trans heq
  · rfl

namespace Condition.IsFront

variable {front : List Char} {object : Option (List Char)}

/-- A condition starts with a quote or a word character. -/
theorem of_mem_head? (hf : IsFront front object) (hw : IsWordText w) {c : Char}
    (hc : c ∈ (front ++ (w ++ r)).head?) : isBlank c = false ∧ c ≠ '(' := by
  have hword {v : List Char} (hv : IsWordText v) (u : List Char) (hc : c ∈ (v ++ u).head?) :
      isBlank c = false ∧ c ≠ '(' := by
    rw [List.head?_append_of_ne_nil _ hv.1] at hc
    have hwordChar := hv.isWord_of_mem (List.mem_of_mem_head? hc)
    refine ⟨isBlank_eq_false_of_isWord hwordChar, ?_⟩
    rintro rfl
    exact absurd hwordChar (by decide)
  cases hf with
  | nothing => exact hword hw r hc
  | arrow ho hg hg' =>
    rw [List.append_assoc] at hc
    cases ho with
    | quoted hn hne =>
      obtain rfl := Option.some.inj hc
      exact ⟨by decide, by decide⟩
    | word hv => exact hword hv _ hc

/-- Trimming leaves what is in front of a command. -/
theorem trim_append (hf : IsFront front object) (hw : IsWordText w) (t : List Char) :
    trim (front ++ (w ++ t)) = front ++ (w ++ trimEnd t) := by
  have hlast : (front ++ w).getLast? = some (w.getLast hw.1) := by
    rw [List.getLast?_append_of_ne_nil _ hw.1, List.getLast?_eq_some_getLast hw.1]
  have hblank := isBlank_eq_false_of_isWord (hw.isWord_of_mem (List.getLast_mem hw.1))
  have hstart : trimStart (front ++ (w ++ t)) = front ++ (w ++ t) :=
    dropWhile_append_of_stop (w := []) (by simp) fun c hc => (hf.of_mem_head? hw hc).1
  rw [trim, hstart, ← List.append_assoc, trimEnd_append hlast hblank, List.append_assoc]

/-- No point follows what an object can be cut to. -/
theorem head?_ne_point (hf : IsFront front object) (hw : IsWordText w)
    {argument : Option (List Char)} {test : Option Test} (hr : Completes r argument test)
    {s : List Char × List Char} (hs : s ∈ objectTokens (front ++ (w ++ r))) :
    (trimStart s.2).head? ≠ some '.' := by
  cases hf with
  | nothing =>
    exact head?_ne_of_mem_objectTokens hw hr.isObjectChar_head (by decide) hr.no_point hs
  | arrow ho hg hg' =>
    rw [List.append_assoc, List.append_assoc, List.cons_append, List.cons_append] at hs
    exact ho.head?_ne_point hg hs

/-- The object is cut off as it was written. -/
theorem head?_scopes (hf : IsFront front object) (hw : IsWordText w)
    {argument : Option (List Char)} {test : Option Test} (hr : Completes r argument test) :
    (scopes (front ++ (w ++ r))).head? = some (object, w ++ r) := by
  cases hf with
  | nothing =>
    rw [List.nil_append, scopes, scopeTokens_eq_nil hw hr.isObjectChar_head hr.no_hyphen]
    rfl
  | @arrow o g g' ho hg hg' =>
    have hstop : ∀ c ∈ (w ++ r).head?, isBlank c = false :=
      fun c hc => (nothing.of_mem_head? hw hc).1
    obtain ⟨l, hl⟩ := List.head?_eq_some_iff.1 (ho.head?_scopeTokens hg (g' ++ (w ++ r)))
    rw [List.append_assoc, List.append_assoc, List.cons_append, List.cons_append, scopes, hl,
      List.map_cons, List.cons_append, List.head?_cons, trimStart,
      dropWhile_append_of_stop hg' hstop]

/-- The player with an arrow. -/
theorem player : IsFront "player->".toList (some "player".toList) := by
  have hplayer : IsObject "player".toList := .word (by decide)
  have hnil : ∀ c ∈ ([] : List Char), isBlank c = true := by simp
  exact .arrow hplayer hnil hnil

end Condition.IsFront

/-- A command with what is before and after it is read back. -/
theorem translate_of_completes (globals : Names) (scope : Scope) {front : List Char}
    {object : Option (List Char)} (hf : Condition.IsFront front object) (hw : IsCommandText w)
    (hr : Condition.Completes r argument test) (ht : trim t = front ++ (w ++ r)) :
    translate globals scope t =
      .ok (Condition.requirement globals scope
        { scope := object, command := w, argument, test }) := by
  have hword := hw.isWordText
  have hstart : trimStart (front ++ (w ++ r)) = front ++ (w ++ r) :=
    dropWhile_append_of_stop (w := []) (by simp) fun c hc => (hf.of_mem_head? hword hc).1
  have hstrip : stripParens t = front ++ (w ++ r) := by
    rw [← ht]
    refine stripParens_of_head? fun h => ?_
    rw [ht] at h
    exact (hf.of_mem_head? hword h).2 rfl
  have hempty : (front ++ (w ++ r)).isEmpty = false := by
    simp [hword.1]
  have hmember : MemberTest.read? (front ++ (w ++ r)) = none := by
    rw [MemberTest.read?, hstart, List.findSome?_eq_none_iff]
    intro s hs
    dsimp only
    rw [stripLiteral?_eq_none (hf.head?_ne_point hword hr hs)]
    rfl
  have hread : Condition.read? (front ++ (w ++ r)) =
      some { scope := object, command := w, argument, test } := by
    have hscope := hf.head?_scopes hword hr
    obtain ⟨a, v, rfl, ha, hv⟩ := hw
    rw [← hstart] at hscope
    exact Condition.read?_of_head? hscope (hr.head?_runs_append ha hv) hr
  rw [translate, hstrip, hempty, hmember, hread]
  rfl

/-- A command with its arguments is read back. -/
theorem translate_command (globals : Names) (scope : Scope) (hw : IsCommandText w)
    (hr : Condition.IsTail r argument test) (ht : trim t = w ++ r) :
    translate globals scope t =
      .ok (Condition.requirement globals scope
        { scope := none, command := w, argument, test }) :=
  translate_of_completes globals scope .nothing hw hr.completes ht

/-- So is a command that is applied to the player. -/
theorem translate_playerCommand (globals : Names) (scope : Scope) (hw : IsCommandText w)
    (hr : Condition.IsTail r argument test) (ht : trim t = "player->".toList ++ (w ++ r)) :
    translate globals scope t =
      .ok (Condition.requirement globals scope
        { scope := some "player".toList, command := w, argument, test }) :=
  translate_of_completes globals scope .player hw hr.completes ht

end

end Questline
