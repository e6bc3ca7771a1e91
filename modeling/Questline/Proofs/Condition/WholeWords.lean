import Questline.Proofs.Condition.Acceptance
import Questline.Proofs.Condition.Reading
import Questline.Proofs.Requirement.Equality
import Questline.Proofs.Script.LineCalls

/-!
# Where a command ends

No white space is asked for between a command and its argument, so a command need not be a
whole word of the text. The longest command that leaves a readable rest is taken. It is a whole
word whenever there is a reading in which it is one; otherwise an apostrophe, a point or a hyphen
follows the word, and the command loses the last letter of the word, which becomes the first of
the argument, with all that follows it.

## Main definitions

* `Condition.Ends`: an argument and a comparison that use up what follows a command
* `Condition.Reads`: a way to read a text as a condition
* `IsWholeWord`, `IsCutShort`: what follows a command that is a whole word, and one that is not

## Main results

* `Condition.ends_word_iff`: what can be read when the command stops inside a word
* `Condition.exists_reads_of_read?`, `Condition.read?_eq_none_iff`: the reading that is taken
* `translate_ends_commands`: where the command of a condition ends
* `hyphenated_is_cut`: a command that is not a whole word
-/

namespace Questline

variable {t u r w : List Char} {argument : Option (List Char)} {test : Option Test}

/-! ### Words and marks -/

/-- The characters of an argument that are not part of a word. -/
def wordMarks : List Char :=
  ['\x27', '.', '-']

theorem Condition.isArgumentChar_iff {c : Char} :
    isArgumentChar c = true ↔ isWord c = true ∨ c ∈ wordMarks := by
  simp [isArgumentChar, wordMarks, or_assoc]

/-- The characters with which a separator, a text in quotes or a comparison starts. -/
def delimiters : List Char :=
  [',', '"', '=', '!', '>', '<']

/-- The character is no white space and starts nothing that can come after a word. -/
def IsPlain (c : Char) : Prop :=
  isBlank c = false ∧ c ∉ delimiters

theorem isPlain_of_isWord {c : Char} (h : isWord c = true) : IsPlain c := by
  have hnot : ∀ d ∈ delimiters, isWord d = false := forall_mem_of_all (by decide)
  refine ⟨isBlank_eq_false_of_isWord h, fun hmem => ?_⟩
  exact Bool.false_ne_true ((hnot c hmem).symm.trans h)

theorem isPlain_of_mem_wordMarks :
    ∀ c ∈ wordMarks, IsPlain c ∧ isWord c = false ∧ isLetter c = false := by
  have hall : ∀ c ∈ wordMarks, isBlank c = false ∧ c ∉ delimiters ∧ isWord c = false ∧
      isLetter c = false :=
    forall_mem_of_all (by decide)
  exact fun c hc => ⟨⟨(hall c hc).1, (hall c hc).2.1⟩, (hall c hc).2.2⟩

/-- What follows a command does not go on with the word. -/
def IsWholeWord (r : List Char) : Prop :=
  ∀ c ∈ r.head?, isWord c = false

/-- What follows a command starts with the last letter of the word, and a mark comes after the
word. -/
def IsCutShort (r : List Char) : Prop :=
  ∃ a v m r', r = a :: v ++ m :: r' ∧ isLetter a = true ∧ (∀ d ∈ v, isWord d = true) ∧
    (∀ d ∈ v, isLetter d = false) ∧ m ∈ wordMarks

theorem isWord_of_isLetter {c : Char} (h : isLetter c = true) : isWord c = true :=
  isWord_of_isFoldedLetter (by rw [isFoldedLetter, h]; rfl)

theorem IsCommandText.append (hw : IsCommandText w) (hu : ∀ c ∈ u, isWord c = true) :
    IsCommandText (w ++ u) := by
  obtain ⟨a, v, rfl, ha, hv⟩ := hw
  refine ⟨a, v ++ u, rfl, ha, ?_⟩
  rw [List.all_append, hv, List.all_eq_true.2 hu]
  rfl

/-! ### The end of a condition -/

/-- Only white space and comparisons can end a condition. -/
theorem Test.read?_cons_eq_none {c : Char} (hc : IsPlain c) (t : List Char) :
    Test.read? (c :: t) = none := by
  have htrim : trim (c :: t) = c :: trimEnd t := by
    rw [trim, trimStart_cons_of_not_isBlank hc.1, trimEnd_cons, if_neg (by simp [hc.1])]
  have hscan : Comparison.scan? (c :: trimEnd t) = none := by
    have hne := hc.2
    unfold Comparison.scan?
    split <;> simp_all [delimiters]
  rw [Test.read?, htrim]
  dsimp only
  rw [hscan]

namespace Condition

/-- An argument, if there is one, and a comparison, if there is one, use up what follows a
command. -/
def Ends (r : List Char) (argument : Option (List Char)) (test : Option Test) : Prop :=
  ∃ u, (argument, u) ∈ arguments r ∧ Test.read? u = some test

theorem ends_of_read? (h : Test.read? r = some test) : Ends r none test :=
  ⟨r, List.mem_append_right _ (List.mem_singleton_self _), h⟩

theorem ends_cons_iff {c : Char} (hc : IsPlain c) : Ends (c :: t) argument test ↔
    isLetter c = true ∧ ∃ x u, (∀ d ∈ x, isArgumentChar d = true) ∧ t = x ++ u ∧
      argument = some (c :: x) ∧ Test.read? u = some test := by
  have hafter : afterComma (c :: t) = c :: t := by
    rw [afterComma, trimStart_cons_of_not_isBlank hc.1]
    split
    · next heq =>
      obtain ⟨rfl, -⟩ := List.cons.inj heq
      exact absurd (by decide) hc.2
    · rfl
  have hstring : stringToken? (c :: t) = none := by
    refine stringToken?_eq_none fun d hd => ?_
    obtain rfl := Option.some.inj hd
    rintro rfl
    exact absurd (by decide) hc.2
  have harguments : arguments (c :: t) = (runs isLetter isArgumentChar (c :: t)).map
      (fun s => (some s.1, s.2)) ++ [(none, c :: t)] := by
    rw [arguments, hafter, hstring]
    rfl
  unfold Ends
  rw [harguments]
  constructor
  · rintro ⟨u, hu, htest⟩
    obtain hu | hu := List.mem_append.1 hu
    · obtain ⟨s, hs, heq⟩ := List.mem_map.1 hu
      obtain ⟨rfl, rfl⟩ := Prod.mk.inj heq
      obtain ⟨a, x, hx, ha, hargument, happend⟩ := mem_runs_iff.1 hs
      rw [hx, List.cons_append] at happend
      obtain ⟨rfl, rfl⟩ := List.cons.inj happend
      exact ⟨ha, x, s.2, hargument, rfl, congrArg some hx, htest⟩
    · -- without an argument a comparison has to come next
      obtain ⟨-, rfl⟩ := Prod.mk.inj (List.mem_singleton.1 hu)
      cases (Test.read?_cons_eq_none hc t).symm.trans htest
  · rintro ⟨hletter, x, u, hx, rfl, rfl, htest⟩
    have hmem : (c :: x, u) ∈ runs isLetter isArgumentChar (c :: (x ++ u)) :=
      mem_runs_iff.2 ⟨c, x, rfl, hletter, hx, rfl⟩
    exact ⟨u, List.mem_append_left _ (List.mem_map.2 ⟨_, hmem, rfl⟩), htest⟩

/-- Nothing can be read after a command that a mark follows. -/
theorem not_ends_wordMark {m : Char} (hm : m ∈ wordMarks) : ¬Ends (m :: t) argument test := by
  obtain ⟨hplain, -, hletter⟩ := isPlain_of_mem_wordMarks m hm
  intro h
  exact Bool.false_ne_true (hletter.symm.trans ((ends_cons_iff hplain).1 h).1)

/-- White space at the front of what follows a command does not count. -/
theorem Ends.after_blanks (h : Ends r argument test) : Ends (trimStart r) argument test := by
  have htrim : trimStart (trimStart r) = trimStart r :=
    List.dropWhile_idempotent _ _
  have hafter : afterComma (trimStart r) = afterComma r := by
    rw [afterComma, htrim]
    rfl
  have hread : Test.read? (trimStart r) = Test.read? r := by
    rw [Test.read?, trim, htrim]
    rfl
  obtain ⟨u, hu, htest⟩ := h
  obtain hu | hu := List.mem_append.1 hu
  · exact ⟨u, List.mem_append_left _ (hafter ▸ hu), htest⟩
  · obtain ⟨rfl, rfl⟩ := Prod.mk.inj (List.mem_singleton.1 hu)
    exact ends_of_read? (hread.trans htest)

/-- When a command stops inside a word, all that is left of the word goes to the argument. -/
theorem ends_word_iff {a : Char} {v : List Char} (hword : ∀ d ∈ a :: v, isWord d = true) :
    Ends (a :: v ++ r) argument test ↔
      isLetter a = true ∧ ∃ x u, (∀ d ∈ x, isArgumentChar d = true) ∧ r = x ++ u ∧
        argument = some (a :: (v ++ x)) ∧ Test.read? u = some test := by
  obtain ⟨ha, hv⟩ := List.forall_mem_cons.1 hword
  rw [List.cons_append, ends_cons_iff (isPlain_of_isWord ha)]
  refine and_congr_right fun _ => ⟨?_, ?_⟩
  · rintro ⟨x, u, hx, happend, rfl, htest⟩
    obtain ⟨y, rfl, rfl⟩ | ⟨y, rfl, rfl⟩ := List.append_eq_append_iff.1 happend
    · exact ⟨y, u, fun d hd => hx d (List.mem_append_right v hd), rfl, rfl, htest⟩
    · cases y with
      | nil => exact ⟨[], r, by simp, rfl, by simp, htest⟩
      | cons b y =>
        have hb := isPlain_of_isWord (hv b (List.mem_append_right x List.mem_cons_self))
        cases (Test.read?_cons_eq_none hb _).symm.trans htest
  · rintro ⟨x, u, hx, rfl, rfl, htest⟩
    refine ⟨v ++ x, u, List.forall_mem_append.2 ⟨?_, hx⟩, by simp, rfl, htest⟩
    exact fun d hd => isArgumentChar_iff.2 (.inl (hv d hd))

/-- The longest command that leaves a readable rest is a whole word, or it lacks the last letter
of the word with what follows the letter. -/
theorem isWholeWord_or_isCutShort (hw : IsCommandText w) (hr : Ends r argument test)
    (hlongest : ∀ w' r', w' ++ r' = w ++ r → IsCommandText w' → w.length < w'.length →
      ∀ argument test, ¬Ends r' argument test) : IsWholeWord r ∨ IsCutShort r := by
  cases r with
  | nil => exact .inl (by simp [IsWholeWord])
  | cons a s =>
    by_cases ha : isWord a = true
    · -- `v` is what is left of the word and `rest` what comes after it
      obtain ⟨v, rest, rfl, hv, hrest⟩ := exists_append_stop isWord s
      have hword : ∀ d ∈ a :: v, isWord d = true := List.forall_mem_cons.2 ⟨ha, hv⟩
      obtain ⟨hletter, x, u, hx, rfl, rfl, htest⟩ := (ends_word_iff hword).1 hr
      cases x with
      | nil =>
        have hlonger : w.length < (w ++ a :: v).length := by simp
        exact absurd (ends_of_read? htest)
          (hlongest _ u (by simp) (hw.append hword) hlonger none test)
      | cons m x =>
        have hm : m ∈ wordMarks := (isArgumentChar_iff.1 (hx m List.mem_cons_self)).resolve_left
          (by rw [hrest m rfl]; exact Bool.false_ne_true)
        refine .inr ⟨a, v, m, x ++ u, rfl, hletter, hv, fun d hd => ?_, hm⟩
        -- with a later letter in the word, the command could go on up to that letter
        rw [← Bool.not_eq_true]
        intro hd'
        obtain ⟨v₁, v₂, rfl⟩ := List.append_of_mem hd
        obtain ⟨hv₁, hv₂⟩ := List.forall_mem_append.1 hv
        have hlonger : w.length < (w ++ a :: v₁).length := by simp
        have hends : Ends (d :: v₂ ++ (m :: x ++ u)) (some (d :: (v₂ ++ m :: x))) test :=
          (ends_word_iff hv₂).2 ⟨hd', m :: x, u, hx, rfl, rfl, htest⟩
        have hcommand := hw.append (List.forall_mem_cons.2 ⟨ha, hv₁⟩)
        exact hlongest _ _ (by simp) hcommand hlonger _ _ hends
    · left
      intro c hc
      obtain rfl := Option.some.inj hc
      exact Bool.eq_false_iff.2 ha

/-- Where a command is cut short, no reading takes the whole word. -/
theorem not_ends_of_isCutShort {w' r' : List Char} (hw : IsCommandText w) (hr : IsCutShort r)
    (hw' : IsCommandText w') (hr' : IsWholeWord r') (h : w' ++ r' = w ++ r) :
    ¬Ends r' argument test := by
  obtain ⟨a, v, m, r, rfl, ha, hv, -, hm⟩ := hr
  have hstop : ∀ c ∈ (m :: r).head?, isWord c = false := by
    intro c hc
    obtain rfl := Option.some.inj hc
    exact (isPlain_of_mem_wordMarks m hm).2.1
  obtain ⟨z, hz, rfl⟩ := exists_append_of_append_eq (w := w ++ a :: v)
    (fun c hc => hw'.isWordText.isWord_of_mem hc) hstop (by rw [h, List.append_assoc])
  cases z with
  | nil => exact not_ends_wordMark hm
  | cons b z =>
    -- the word would go on with `b`
    have hword := hw.append (List.forall_mem_cons.2 ⟨isWord_of_isLetter ha, hv⟩)
    have hb : isWord b = true := hword.isWordText.isWord_of_mem (by simp [hz])
    exact absurd (hr' b rfl) (by simp [hb])

/-! ### Readings -/

/-- A way to read a text as a condition: `r` is what follows the command. -/
structure Reads (t : List Char) (c : Condition) (r : List Char) : Prop where
  scope : (c.scope, c.command ++ r) ∈ scopes (trimStart t)
  isCommandText : IsCommandText c.command
  ends : Ends r c.argument c.test

/-- The condition with a given object and command, and the first argument that leaves a
comparison. -/
def ofTail? (scope : Option (List Char)) (w r : List Char) : Option Condition :=
  (arguments r).findSome? fun s =>
    (Test.read? s.2).map fun test => { scope, command := w, argument := s.1, test }

/-- The condition with a given object, and the first command that leaves a readable rest. -/
def ofCommand? (scope : Option (List Char)) (u : List Char) : Option Condition :=
  (runs isLetter isWord u).findSome? fun s => ofTail? scope s.1 s.2

variable {scope : Option (List Char)} {c c' : Condition} {r' : List Char}

theorem read?_eq (t : List Char) :
    read? t = (scopes (trimStart t)).findSome? fun s => ofCommand? s.1 s.2 :=
  rfl

theorem ofTail?_eq_some (h : ofTail? scope w r = some c) :
    c.scope = scope ∧ c.command = w ∧ Ends r c.argument c.test := by
  obtain ⟨s, hs, h⟩ := List.exists_of_findSome?_eq_some h
  obtain ⟨test, htest, rfl⟩ := Option.map_eq_some_iff.1 h
  exact ⟨rfl, rfl, s.2, hs, htest⟩

theorem ofTail?_eq_none_iff :
    ofTail? scope w r = none ↔ ∀ argument test, ¬Ends r argument test := by
  unfold ofTail? Ends
  simp only [List.findSome?_eq_none_iff, Option.map_eq_none_iff, Prod.forall, not_exists, not_and]
  constructor
  · intro h argument test u hu htest
    cases (h argument u hu).symm.trans htest
  · intro h argument u hu
    exact Option.eq_none_iff_forall_ne_some.2 fun test => h argument test u hu

theorem mem_runs_command_iff :
    (w, r) ∈ runs isLetter isWord u ↔ IsCommandText w ∧ w ++ r = u := by
  rw [mem_runs_iff]
  constructor
  · rintro ⟨a, v, hw, ha, hv, happend⟩
    exact ⟨⟨a, v, hw, ha, List.all_eq_true.2 hv⟩, happend⟩
  · rintro ⟨⟨a, v, hw, ha, hv⟩, happend⟩
    exact ⟨a, v, hw, ha, List.all_eq_true.1 hv, happend⟩

theorem ofCommand?_eq_none_iff : ofCommand? scope u = none ↔
    ∀ w r, IsCommandText w → w ++ r = u → ∀ argument test, ¬Ends r argument test := by
  unfold ofCommand?
  simp only [List.findSome?_eq_none_iff, ofTail?_eq_none_iff, Prod.forall, mem_runs_command_iff,
    and_imp]

/-- Commands are tried from the longest one down. -/
theorem exists_of_ofCommand?_eq_some (h : ofCommand? scope u = some c) :
    ∃ r, c.scope = scope ∧ c.command ++ r = u ∧ IsCommandText c.command ∧
      Ends r c.argument c.test ∧ (IsWholeWord r ∨ IsCutShort r) := by
  obtain ⟨⟨w, r⟩, hs, hsome, hlongest⟩ := exists_largest_of_findSome?
    (pairwise_runs isLetter isWord u) h
  obtain ⟨hscope, rfl, hends⟩ := ofTail?_eq_some hsome
  obtain ⟨hw, rfl⟩ := mem_runs_command_iff.1 hs
  refine ⟨r, hscope, rfl, hw, hends, isWholeWord_or_isCutShort hw hends ?_⟩
  intro w' r' happend hw' hlonger
  have hmem := mem_runs_command_iff.2 ⟨hw', happend⟩
  exact ofTail?_eq_none_iff.1 (hlongest (w', r') hmem hlonger)

theorem mem_scopes_iff {s : Option (List Char) × List Char} : s ∈ scopes t ↔
    (∃ o ∈ scopeTokens t, s = (some o.1, trimStart o.2)) ∨ s = (none, t) := by
  unfold scopes
  rw [List.mem_append, List.mem_map, List.mem_singleton]
  simp only [eq_comm]

theorem read?_eq_none_iff : read? t = none ↔ ∀ c r, ¬Reads t c r := by
  rw [read?_eq]
  simp only [List.findSome?_eq_none_iff, ofCommand?_eq_none_iff]
  constructor
  · exact fun h c r hr => h _ hr.scope c.command r hr.isCommandText rfl _ _ hr.ends
  · rintro h ⟨scope, u⟩ hs w r hw rfl argument test hends
    exact h { scope, command := w, argument, test } r ⟨hs, hw, hends⟩

/-- The reading that is taken. An object with an arrow is preferred to none. -/
theorem exists_reads_of_read? (h : read? t = some c) :
    ∃ r, c.Reads t r ∧ (IsWholeWord r ∨ IsCutShort r) ∧
      (c.scope = none → ∀ {c' : Condition} {r'}, c'.Reads t r' → c'.scope = none) := by
  rw [read?_eq, scopes, List.findSome?_append, Option.or_eq_some_iff] at h
  obtain h | ⟨hnone, h⟩ := h
  · obtain ⟨s, hs, h⟩ := List.exists_of_findSome?_eq_some h
    obtain ⟨r, hscope, happend, hcommand, hends, hcut⟩ := exists_of_ofCommand?_eq_some h
    refine ⟨r, ⟨?_, hcommand, hends⟩, hcut, fun hc => ?_⟩
    · rw [hscope, happend]
      exact List.mem_append_left _ hs
    · obtain ⟨o, -, rfl⟩ := List.mem_map.1 hs
      cases hc.symm.trans hscope
  · rw [List.findSome?_singleton] at h
    obtain ⟨r, hscope, happend, hcommand, hends, hcut⟩ := exists_of_ofCommand?_eq_some h
    refine ⟨r, ⟨?_, hcommand, hends⟩, hcut, fun _ c' r' hr' => ?_⟩
    · rw [hscope, happend]
      exact List.mem_append_right _ (List.mem_singleton_self _)
    · obtain hmem | hmem := List.mem_append.1 hr'.scope
      · have hnone' := List.findSome?_eq_none_iff.1 hnone _ hmem
        exact absurd hr'.ends (ofCommand?_eq_none_iff.1 hnone' _ _ hr'.isCommandText rfl _ _)
      · exact congrArg Prod.fst (List.mem_singleton.1 hmem)

/-! ### Objects with an arrow -/

/-- Of two pieces of an object, one of which goes on with `x`, only one can have an arrow after
it. -/
theorem eq_nil_of_afterArrow? {x : List Char} (hx : ∀ c ∈ x, isObjectChar c = true)
    (h : (afterArrow? (x ++ u)).isSome = true) (h' : (afterArrow? u).isSome = true) : x = [] := by
  obtain ⟨v, hv⟩ := Option.isSome_iff_exists.1 h
  obtain ⟨v', hv'⟩ := Option.isSome_iff_exists.1 h'
  have harrow : '-' :: '>' :: v = trimStart (x ++ u) := append_of_stripLiteral? hv
  have harrow' : '-' :: '>' :: v' = trimStart u := append_of_stripLiteral? hv'
  cases x with
  | nil => rfl
  | cons b x =>
    obtain ⟨hb, hx⟩ := List.forall_mem_cons.1 hx
    have hblank : isBlank b = false := by
      rw [← Bool.not_eq_true]
      exact fun hblank => Bool.false_ne_true ((isObjectChar_of_isBlank hblank).symm.trans hb)
    rw [List.cons_append, trimStart_cons_of_not_isBlank hblank] at harrow
    obtain ⟨-, harrow⟩ := List.cons.inj harrow
    cases x with
    | nil =>
      -- `u` starts with the head of the first arrow
      obtain rfl : u = '>' :: v := harrow.symm
      rw [trimStart_cons_of_not_isBlank (by decide)] at harrow'
      exact absurd (List.cons.inj harrow').1 (by decide)
    | cons e x =>
      obtain ⟨rfl, -⟩ := List.cons.inj harrow
      exact absurd (hx '>' List.mem_cons_self) (by decide)

/-- There is at most one object with an arrow in front of a text. -/
theorem eq_of_afterArrow? {o o' : List Char × List Char} (ho : o ∈ objectTokens t)
    (ho' : o' ∈ objectTokens t) (h : (afterArrow? o.2).isSome = true)
    (h' : (afterArrow? o'.2).isSome = true) : o = o' := by
  by_cases hquote : t.head? = some '"'
  · have hruns : runs isObjectChar isObjectChar t = [] := by
      refine runs_eq_nil fun c hc => ?_
      obtain rfl := Option.some.inj (hquote.symm.trans hc)
      decide
    rw [objectTokens, hruns, List.append_nil, Option.mem_toList] at ho ho'
    exact Option.mem_unique ho ho'
  · have hstring : stringToken? t = none := by
      refine stringToken?_eq_none fun c hc => ?_
      rintro rfl
      exact hquote hc
    rw [objectTokens, hstring] at ho ho'
    have happend : o.1 ++ o.2 = o'.1 ++ o'.2 :=
      (append_of_mem_runs ho).trans (append_of_mem_runs ho').symm
    have hchars := all_of_mem_runs ho
    have hchars' := all_of_mem_runs ho'
    obtain ⟨x, hx, hrest⟩ | ⟨x, hx, hrest⟩ := List.append_eq_append_iff.1 happend
    · rw [hx] at hchars'
      rw [hrest] at h
      obtain rfl := eq_nil_of_afterArrow? (List.forall_mem_append.1 hchars').2 h h'
      exact Prod.ext (by simpa using hx.symm) hrest
    · rw [hx] at hchars
      rw [hrest] at h'
      obtain rfl := eq_nil_of_afterArrow? (List.forall_mem_append.1 hchars).2 h' h
      exact Prod.ext (by simpa using hx) hrest.symm

theorem eq_of_mem_scopeTokens {s s' : List Char × List Char} (hs : s ∈ scopeTokens t)
    (hs' : s' ∈ scopeTokens t) : s = s' := by
  obtain ⟨o, ho, hs⟩ := List.mem_filterMap.1 hs
  obtain ⟨o', ho', hs'⟩ := List.mem_filterMap.1 hs'
  obtain ⟨r, hr, rfl⟩ := Option.map_eq_some_iff.1 hs
  obtain ⟨r', hr', rfl⟩ := Option.map_eq_some_iff.1 hs'
  obtain rfl := eq_of_afterArrow? ho ho' (Option.isSome_of_eq_some hr)
    (Option.isSome_of_eq_some hr')
  obtain rfl := Option.some.inj (hr.symm.trans hr')
  rfl

/-- A text that can be read with a whole word in front as its command has no object with an
arrow. -/
theorem scopeTokens_eq_nil_of_ends (hw : IsCommandText w) (hr : IsWholeWord r)
    (hends : Ends r argument test) : scopeTokens (w ++ r) = [] := by
  -- a mark cannot follow the word, nor can a hyphen after white space
  refine scopeTokens_eq_nil hw.isWordText ?_ ?_
  · cases r with
    | nil => simp
    | cons c r =>
      intro d hd
      obtain rfl := Option.some.inj hd
      have hword : isWord c = false := hr c rfl
      have hmark : c ∉ wordMarks := fun hc => not_ends_wordMark hc hends
      simp only [wordMarks, List.mem_cons, not_or] at hmark
      simp [isObjectChar, hword, hmark]
  · intro hhyphen
    obtain ⟨s, hs⟩ := List.head?_eq_some_iff.1 hhyphen
    have hmark : '-' ∈ wordMarks := by decide
    exact not_ends_wordMark hmark (hs ▸ hends.after_blanks)

/-- No reading in which the command is a whole word is passed over. -/
theorem isWholeWord_iff_exists {c : Condition} (hread : c.Reads t r)
    (hcut : IsWholeWord r ∨ IsCutShort r)
    (hscope : c.scope = none → ∀ {c' : Condition} {r'}, c'.Reads t r' → c'.scope = none) :
    IsWholeWord r ↔ ∃ (c' : Condition) (r' : _), c'.Reads t r' ∧ IsWholeWord r' := by
  refine ⟨fun h => ⟨c, r, hread, h⟩, ?_⟩
  rintro ⟨c', r', hread', hwhole⟩
  refine hcut.resolve_right fun hshort => ?_
  -- both commands start in the same place
  have hstart : c'.command ++ r' = c.command ++ r := by
    obtain ⟨o, ho, heq⟩ | heq := mem_scopes_iff.1 hread.scope
    · obtain ⟨o', ho', heq'⟩ | heq' := mem_scopes_iff.1 hread'.scope
      · obtain rfl := eq_of_mem_scopeTokens ho ho'
        exact (congrArg Prod.snd heq').trans (congrArg Prod.snd heq).symm
      · have hnone := scopeTokens_eq_nil_of_ends hread'.isCommandText hwhole hread'.ends
        have htext : c'.command ++ r' = trimStart t := congrArg Prod.snd heq'
        rw [htext] at hnone
        rw [hnone] at ho
        cases ho
    · have hnone : c'.scope = none := hscope (congrArg Prod.fst heq) hread'
      obtain ⟨o', -, heq'⟩ | heq' := mem_scopes_iff.1 hread'.scope
      · cases hnone.symm.trans (congrArg Prod.fst heq')
      · exact (congrArg Prod.snd heq').trans (congrArg Prod.snd heq).symm
  exact not_ends_of_isCutShort hread.isCommandText hshort hread'.isCommandText hwhole hstart
    hread'.ends

/-- What stands in front of a command is no part of a word. -/
theorem Reads.exists_front {c : Condition} (h : c.Reads t r) :
    ∃ front, t = front ++ (c.command ++ r) ∧ ∀ d ∈ front.getLast?, isWord d = false := by
  have hblanks (v : List Char) : ∀ d ∈ v.takeWhile isBlank, isWord d = false :=
    fun d hd => isWord_eq_false_of_isBlank (List.mem_takeWhile_imp hd)
  have hsplit (v : List Char) : v = v.takeWhile isBlank ++ trimStart v :=
    List.takeWhile_append_dropWhile.symm
  obtain ⟨o, ho, heq⟩ | heq := mem_scopes_iff.1 h.scope
  · obtain ⟨x, hx, ho⟩ := List.mem_filterMap.1 ho
    obtain ⟨v, hv, rfl⟩ := Option.map_eq_some_iff.1 ho
    have harrow : '-' :: '>' :: v = trimStart x.2 := append_of_stripLiteral? hv
    have hsuffix : trimStart x.2 <:+ t :=
      ((List.dropWhile_suffix _).trans (isSuffix_of_mem_objectTokens hx)).trans
        (List.dropWhile_suffix _)
    obtain ⟨front, rfl⟩ := hsuffix
    refine ⟨front ++ ['-'] ++ '>' :: v.takeWhile isBlank, ?_, ?_⟩
    · have hcommand : c.command ++ r = trimStart v := congrArg Prod.snd heq
      rw [← harrow, hcommand]
      conv_lhs => rw [hsplit v]
      simp
    · intro d hd
      rw [List.getLast?_append_of_ne_nil _ (List.cons_ne_nil _ _)] at hd
      obtain rfl | hd := List.mem_cons.1 (List.mem_of_getLast? hd)
      · decide
      · exact hblanks v d hd
  · refine ⟨t.takeWhile isBlank, ?_, fun d hd => hblanks t d (List.mem_of_getLast? hd)⟩
    have hcommand : c.command ++ r = trimStart t := congrArg Prod.snd heq
    rw [hcommand]
    exact hsplit t

/-! ### The name of a command -/

/-- No command of the table tests a variable. -/
theorem kindFor_ne_variable {k : Command} {name : String} (h : Command.find? name = some k)
    (object : Option String) :
    k.kindFor object ≠ .localVariable ∧ k.kindFor object ≠ .globalVariable := by
  refine Command.kindFor_of_table (P := fun kind => kind ≠ .localVariable ∧ kind ≠ .globalVariable)
    ?_ h object
  decide +kernel

/-- A requirement on a variable is about the one that is called like the command. -/
theorem operand_requirement {c : Condition} {globals : Names} {scope : Scope}
    (h : (c.requirement globals scope).1.kind = .localVariable ∨
      (c.requirement globals scope).1.kind = .globalVariable) :
    (c.requirement globals scope).1.operand = some c.commandName := by
  obtain ⟨value, text, hrequirement⟩ := c.exists_requirement_eq globals scope
  rw [hrequirement] at h ⊢
  change (c.operand globals scope).1.kind = _ ∨ (c.operand globals scope).1.kind = _ at h
  change (c.operand globals scope).1.operand = _
  unfold operand at h ⊢
  cases hfind : Command.find? c.commandName with
  | some k =>
    rw [hfind] at h
    obtain ⟨hlocal, hglobal⟩ := kindFor_ne_variable hfind (c.scope.map nameOf)
    exact absurd h (not_or.2 ⟨hlocal, hglobal⟩)
  | none =>
    dsimp only
    split_ifs <;> rfl

end Condition

/-! ### Texts -/

variable {globals : Names} {scope : Scope} {text : List Char}

theorem read?_of_ofText? {c : Condition} (h : Condition.ofText? text = some c) :
    Condition.read? (stripParens text) = some c := by
  unfold Condition.ofText? at h
  dsimp only at h
  split at h
  · cases h
  · exact h

/-- A text is not read when it is not empty, compares no member of an object and is no
condition. -/
theorem translate_eq_unparsed_iff {s : String} :
    translate globals scope text = .error (.unparsed s) ↔
      stripParens text ≠ [] ∧ MemberTest.read? (stripParens text) = none ∧
        Condition.read? (stripParens text) = none ∧ s = String.ofList (stripParens text) := by
  unfold translate
  dsimp only
  split
  · next hempty => simp [List.isEmpty_iff.1 hempty]
  · next hempty =>
    have hne : stripParens text ≠ [] := fun h => hempty (List.isEmpty_iff.2 h)
    split
    · next hm => simp [hm]
    · next hm =>
      split
      · next hc => simp [hc]
      · next hc => simp [hne, hm, hc, eq_comm]

/-- Where the command of a condition ends. A text that is read has one reading that counts. Its
command starts a word, and it is the whole word if there is a reading in which it is; otherwise
it stops before the last letter of a word that a mark follows. The name of the command is the
variable of a requirement on a variable, and the name that is noted, if one is. A text without
any reading is not read. -/
theorem translate_ends_commands (globals : Names) (scope : Scope) (text : List Char) :
    (∀ q novel, translate globals scope text = .ok (q, novel) →
      ∃ (c : Condition) (r : List Char), c.Reads (stripParens text) r ∧
        (q, novel) = c.requirement globals scope ∧
        (∃ front, stripParens text = front ++ (c.command ++ r) ∧
          ∀ d ∈ front.getLast?, isWord d = false) ∧
        (IsWholeWord r ↔
          ∃ (c' : Condition) (r' : List Char), c'.Reads (stripParens text) r' ∧ IsWholeWord r') ∧
        (IsWholeWord r ∨ IsCutShort r) ∧
        (∀ name, novel = some name → name = c.commandName) ∧
        (q.kind = .localVariable ∨ q.kind = .globalVariable →
          q.operand = some c.commandName)) ∧
    ∀ s, translate globals scope text = .error (.unparsed s) ↔
      stripParens text ≠ [] ∧ MemberTest.read? (stripParens text) = none ∧
        (∀ (c : Condition) (r : List Char), ¬c.Reads (stripParens text) r) ∧
        s = String.ofList (stripParens text) := by
  refine ⟨fun q novel h => ?_, fun s => ?_⟩
  · cases hc : Condition.ofText? text with
    | none =>
      obtain ⟨e, he⟩ := exists_translate_error hc globals scope
      cases he.symm.trans h
    | some c =>
      obtain ⟨r, hread, hcut, hscope⟩ := Condition.exists_reads_of_read? (read?_of_ofText? hc)
      have hrequirement : c.requirement globals scope = (q, novel) := by
        rw [translate_of_ofText? hc] at h
        exact Except.ok.inj h
      have hq : (c.requirement globals scope).1 = q := congrArg Prod.fst hrequirement
      have hnovel : (c.requirement globals scope).2 = novel := congrArg Prod.snd hrequirement
      refine ⟨c, r, hread, hrequirement.symm, hread.exists_front,
        Condition.isWholeWord_iff_exists hread hcut hscope, hcut, ?_, ?_⟩
      · rintro name rfl
        exact (Condition.requirement_snd_eq_some_iff.1 hnovel).2.symm
      · rw [← hq]
        exact Condition.operand_requirement
  · rw [translate_eq_unparsed_iff, Condition.read?_eq_none_iff]

/-- `foo-bar` is read as the command `fo` with the argument `o-bar`, although no reading of the
text has a whole word as its command. -/
theorem hyphenated_is_cut :
    translate ∅ {} "foo-bar == 1".toList =
        .ok ({ Requirement.onLocal {} .equal "fo" with value := some 1 }, some "fo") ∧
      ¬∃ (c : Condition) (r : List Char),
        c.Reads (stripParens "foo-bar == 1".toList) r ∧ IsWholeWord r := by
  have hstrip : stripParens "foo-bar == 1".toList = "foo-bar == 1".toList := by decide +kernel
  let c : Condition :=
    { scope := none, command := "fo".toList, argument := some "o-bar".toList,
      test := some (.equal, "1".toList) }
  have hc : Condition.ofText? "foo-bar == 1".toList = some c := by decide +kernel
  have hrequirement : c.requirement ∅ {} =
      ({ Requirement.onLocal {} .equal "fo" with value := some 1 }, some "fo") := by
    decide +kernel
  refine ⟨(translate_of_ofText? hc).trans (congrArg Except.ok hrequirement), fun hwhole => ?_⟩
  obtain ⟨r, hread, hcut, hscope⟩ := Condition.exists_reads_of_read? (read?_of_ofText? hc)
  have hr : r = "o-bar == 1".toList := by
    rw [hstrip] at hread
    obtain ⟨o, -, heq⟩ | heq := Condition.mem_scopes_iff.1 hread.scope
    · cases congrArg Prod.fst heq
    · have happend : "fo".toList ++ r = "fo".toList ++ "o-bar == 1".toList := congrArg Prod.snd heq
      exact List.append_cancel_left happend
  have hword := (Condition.isWholeWord_iff_exists hread hcut hscope).2 hwhole
  rw [hr] at hword
  exact absurd (hword 'o' rfl) (by decide)

end Questline
