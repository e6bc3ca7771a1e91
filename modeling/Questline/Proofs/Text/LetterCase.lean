import Questline.Proofs.Text.Folded
import Questline.Text.Object

/-!
# Cutting texts in lower case

No class of characters that script text is cut by tells a letter from its lower case, and no mark
is a letter. So a text in lower case is cut where the text itself is cut, and the pieces are the
same in lower case.

## Main definitions

* `lowered`, `loweredCut`: a text, and both pieces of one, in lower case
* `IsCaseless`: a class of characters that does not tell a letter from its lower case

## Main results

* `IsCaseless.of_capitals`: only the capital letters have to be looked at
* `lines_lowered`, `trim_lowered`, `uncomment_lowered`, `stripParens_lowered`: pieces of a text
* `splits_lowered`, `runs_lowered`, `objectTokens_lowered`: the ways to cut a text
* `nameOf_lowered`: the name that a text stands for
* `matchFolded?_lowered`: literals
-/

namespace Questline

/-- A text in lower case. -/
def lowered (t : List Char) : List Char :=
  t.map Char.toLower

/-- Both pieces of a text in lower case. -/
def loweredCut (s : List Char × List Char) : List Char × List Char :=
  (lowered s.1, lowered s.2)

section

variable (t u : List Char) (c : Char)

@[simp] theorem lowered_nil : lowered [] = [] := rfl

@[simp] theorem lowered_cons : lowered (c :: t) = c.toLower :: lowered t := rfl

@[simp] theorem lowered_append : lowered (t ++ u) = lowered t ++ lowered u :=
  List.map_append

@[simp] theorem length_lowered : (lowered t).length = t.length :=
  List.length_map _

@[simp] theorem isEmpty_lowered : (lowered t).isEmpty = t.isEmpty :=
  List.isEmpty_map

@[simp] theorem head?_lowered : (lowered t).head? = t.head?.map Char.toLower :=
  List.head?_map

@[simp] theorem getLast?_lowered : (lowered t).getLast? = t.getLast?.map Char.toLower :=
  List.getLast?_map

@[simp] theorem reverse_lowered : (lowered t).reverse = lowered t.reverse :=
  List.map_reverse.symm

@[simp] theorem dropLast_lowered : (lowered t).dropLast = lowered t.dropLast :=
  List.map_dropLast.symm

theorem ofList_lowered : String.ofList (lowered t) = (String.ofList t).toLower := by
  apply String.toList_inj.1
  rw [toList_toLower, String.toList_ofList, String.toList_ofList, lowered]

@[simp] theorem toLower_ofList_lowered :
    (String.ofList (lowered t)).toLower = (String.ofList t).toLower := by
  rw [ofList_lowered, toLower_toLower]

end

/-! ### Classes of characters -/

/-- The class does not tell a letter from its lower case. -/
def IsCaseless (p : Char → Bool) : Prop :=
  ∀ c : Char, p c.toLower = p c

namespace IsCaseless

variable {p q : Char → Bool} {t : List Char}

/-- Only the capital letters have another lower case. -/
theorem of_capitals
    (h : ∀ n < 26, p (Char.ofNat (65 + n)).toLower = p (Char.ofNat (65 + n))) : IsCaseless p := by
  intro c
  by_cases hupper : c.val ≥ 'A'.val ∧ c.val ≤ 'Z'.val
  · have hA : 65 ≤ c.toNat := UInt32.le_iff_toNat_le.1 hupper.1
    have hZ : c.toNat ≤ 90 := UInt32.le_iff_toNat_le.1 hupper.2
    have hn := h (c.toNat - 65) (by omega)
    rwa [Nat.add_sub_cancel' hA, Char.ofNat_toNat] at hn
  · -- what is no capital letter is its own lower case
    have hself : c.toLower = c := dif_neg hupper
    rw [hself]

theorem or (hp : IsCaseless p) (hq : IsCaseless q) : IsCaseless fun c => p c || q c :=
  fun c => congrArg₂ _ (hp c) (hq c)

theorem not (hp : IsCaseless p) : IsCaseless fun c => !p c :=
  fun c => congrArg _ (hp c)

theorem takeWhile (hp : IsCaseless p) : (lowered t).takeWhile p = lowered (t.takeWhile p) := by
  rw [lowered, List.takeWhile_map]
  exact congrArg (fun q => lowered (t.takeWhile q)) (funext hp)

theorem dropWhile (hp : IsCaseless p) : (lowered t).dropWhile p = lowered (t.dropWhile p) := by
  rw [lowered, List.dropWhile_map]
  exact congrArg (fun q => lowered (t.dropWhile q)) (funext hp)

theorem all (hp : IsCaseless p) : (lowered t).all p = t.all p := by
  rw [lowered, List.all_map]
  exact congrArg t.all (funext hp)

theorem any_head? (hp : IsCaseless p) : (lowered t).head?.any p = t.head?.any p := by
  rw [head?_lowered, Option.any_map]
  exact congrArg t.head?.any (funext hp)

theorem any_getLast? (hp : IsCaseless p) : (lowered t).getLast?.any p = t.getLast?.any p := by
  rw [getLast?_lowered, Option.any_map]
  exact congrArg t.getLast?.any (funext hp)

end IsCaseless

theorem isCaseless_isBlank : IsCaseless isBlank :=
  .of_capitals (by decide)

theorem isCaseless_isWord : IsCaseless isWord :=
  .of_capitals (by decide +kernel)

theorem isCaseless_isDigit : IsCaseless isDigit :=
  .of_capitals (by decide)

/-- Capital letters are letters, and so are those of lower case. -/
theorem isAlpha_capital : ∀ n < 26, (Char.ofNat (65 + n)).isAlpha = true ∧
    (Char.ofNat (65 + n)).toLower.isAlpha = true := by
  decide

theorem isCaseless_isAlpha : IsCaseless Char.isAlpha :=
  .of_capitals fun n hn => (isAlpha_capital n hn).2.trans (isAlpha_capital n hn).1.symm

/-- A mark is no letter. -/
theorem isCaseless_beq {d : Char} (hd : d.isAlpha = false) : IsCaseless (· == d) := by
  have hne {c : Char} (hc : c.isAlpha = true) : (c == d) = false :=
    beq_eq_false_iff_ne.2 fun h => Bool.false_ne_true (hd.symm.trans (h ▸ hc))
  refine .of_capitals fun n hn => ?_
  rw [hne (isAlpha_capital n hn).1, hne (isAlpha_capital n hn).2]

theorem isCaseless_isLetter : IsCaseless isLetter :=
  isCaseless_isAlpha.or (isCaseless_beq (by decide))

theorem isCaseless_isFoldedLetter : IsCaseless isFoldedLetter :=
  (isCaseless_isLetter.or (isCaseless_beq (by decide))).or (isCaseless_beq (by decide))

theorem isCaseless_isObjectChar : IsCaseless isObjectChar :=
  (isCaseless_isWord.or (isCaseless_beq (by decide))).or (isCaseless_beq (by decide))

theorem toLower_eq_iff {c d : Char} (hd : d.isAlpha = false) : c.toLower = d ↔ c = d := by
  have hbeq := isCaseless_beq hd c
  rwa [Bool.eq_iff_iff, beq_iff_eq, beq_iff_eq] at hbeq

/-- A character is a mark if its lower case is. -/
theorem toLower_cases {d : Char} (hd : d.isAlpha = false) (c : Char) :
    (c = d ∧ c.toLower = d) ∨ (c ≠ d ∧ c.toLower ≠ d) := by
  by_cases hc : c = d
  · exact .inl ⟨hc, (toLower_eq_iff hd).2 hc⟩
  · exact .inr ⟨hc, mt (toLower_eq_iff hd).1 hc⟩

/-- Where a text in lower case has a mark, the text has it. -/
theorem exists_of_lowered_eq_cons {t u : List Char} {d : Char} (hd : d.isAlpha = false)
    (h : lowered t = d :: u) : ∃ r, t = d :: r ∧ lowered r = u := by
  obtain ⟨c, r, rfl, hc, hr⟩ := List.map_eq_cons_iff.1 h
  exact ⟨r, by rw [(toLower_eq_iff hd).1 hc], hr⟩

theorem lowered_ne_cons {t : List Char} {d : Char} (hd : d.isAlpha = false)
    (h : ∀ r, t = d :: r → False) (u : List Char) (hu : lowered t = d :: u) : False := by
  obtain ⟨r, hr, -⟩ := exists_of_lowered_eq_cons hd hu
  exact h r hr

/-- What a character folds to does not depend on its letter case. -/
theorem foldCase_toLower (c : Char) : foldCase c.toLower = foldCase c := by
  -- letters that fold to one from outside of ASCII have no lower case here
  by_cases hc : c.toNat < 0x80
  · have hascii : IsCaseless fun c => decide (c.toNat < 0x80) := .of_capitals (by decide)
    have hc' : c.toLower.toNat < 0x80 := by simpa using (hascii c).trans (decide_eq_true hc)
    rw [foldCase_of_ascii hc, foldCase_of_ascii hc', toLower_toLower_char]
  · rw [toLower_eq_self (Nat.le_of_not_lt hc)]

/-! ### Pieces -/

variable (t : List Char)

@[simp] theorem trimStart_lowered : trimStart (lowered t) = lowered (trimStart t) :=
  isCaseless_isBlank.dropWhile

@[simp] theorem trimEnd_lowered : trimEnd (lowered t) = lowered (trimEnd t) := by
  rw [trimEnd, reverse_lowered, isCaseless_isBlank.dropWhile, reverse_lowered]
  rfl

@[simp] theorem trim_lowered : trim (lowered t) = lowered (trim t) := by
  rw [trim, trimStart_lowered, trimEnd_lowered]
  rfl

@[simp] theorem firstWord_lowered : firstWord (lowered t) = lowered (firstWord t) := by
  rw [firstWord, trimStart_lowered]
  exact isCaseless_isBlank.not.takeWhile

theorem splits_lowered {p : Char → Bool} (hp : IsCaseless p) :
    splits p (lowered t) = (splits p t).map loweredCut := by
  induction t with
  | nil => rfl
  | cons c t ih =>
    rw [lowered_cons, splits, splits, hp c, ih]
    split
    · simp [loweredCut]
    · rfl

theorem runs_lowered {p q : Char → Bool} (hp : IsCaseless p) (hq : IsCaseless q) :
    runs p q (lowered t) = (runs p q t).map loweredCut := by
  cases t with
  | nil => rfl
  | cons c t =>
    rw [lowered_cons, runs, runs, hp c, splits_lowered t hq]
    split
    · simp [loweredCut]
    · rfl

theorem stripLiteral?_lowered {p : List Char} (hp : p.any Char.isAlpha = false) :
    stripLiteral? p (lowered t) = (stripLiteral? p t).map lowered := by
  induction p generalizing t with
  | nil => cases t <;> rfl
  | cons a p ih =>
    cases t with
    | nil => rfl
    | cons c t =>
      rw [List.any_cons, Bool.or_eq_false_iff] at hp
      have ha : (a == c.toLower) = (a == c) := by
        rw [BEq.comm, BEq.comm (a := a)]
        exact isCaseless_beq hp.1 c
      rw [lowered_cons, stripLiteral?, stripLiteral?, ha, ih t hp.2]
      split <;> rfl

theorem lines_lowered : lines (lowered t) = (lines t).map lowered := by
  induction t with
  | nil => rfl
  | cons c t ih =>
    have hc : (c.toLower == '\n') = (c == '\n') := isCaseless_beq (by decide) c
    rw [lowered_cons, lines, lines, hc, ih]
    split
    · rfl
    · cases lines t <;> rfl

/-! ### Quotes and parentheses -/

theorem quoted?_lowered : quoted? (lowered t) = (quoted? t).map loweredCut := by
  have hquote : IsCaseless (· != '"') := (isCaseless_beq (by decide)).not
  cases t with
  | nil => rfl
  | cons c t =>
    obtain ⟨rfl, hc⟩ | ⟨hc, hc'⟩ := toLower_cases (d := '"') (by decide) c
    · rw [lowered_cons, hc, quoted?, quoted?, hquote.takeWhile, hquote.dropWhile]
      cases t.dropWhile (· != '"') <;> rfl
    · rw [lowered_cons]
      simp [quoted?, hc, hc']

theorem stringToken?_lowered : stringToken? (lowered t) = (stringToken? t).map loweredCut := by
  rw [stringToken?, stringToken?, quoted?_lowered, Option.map_map, Option.map_map]
  have hquote : '"'.toLower = '"' := by decide
  refine congrArg (Option.map · (quoted? t)) (funext fun s => ?_)
  simp [loweredCut, hquote]

theorem unquote_lowered : unquote (lowered t) = lowered (unquote t) := by
  unfold unquote
  rw [trim_lowered]
  cases trim t with
  | nil => rfl
  | cons c r =>
    obtain ⟨rfl, hc⟩ | ⟨hc, hc'⟩ := toLower_cases (d := '"') (by decide) c
    · have hlast : r.getLast?.map Char.toLower = some '"' ↔ r.getLast? = some '"' := by
        simp [toLower_eq_iff]
      rw [lowered_cons, hc]
      simp only [getLast?_lowered, hlast, dropLast_lowered, trim_lowered]
      split
      · rfl
      · rw [lowered_cons, hc]
    · rw [lowered_cons]
      simp [hc, hc']

/-- A text stands for the same name in every letter case. -/
theorem nameOf_lowered : nameOf (lowered t) = nameOf t := by
  rw [nameOf, nameOf, unquote_lowered, toLower_ofList_lowered]

theorem uncomment_lowered (inside : Bool) :
    uncomment inside (lowered t) = lowered (uncomment inside t) := by
  induction t generalizing inside with
  | nil => rfl
  | cons c t ih =>
    have hquote : (c.toLower == '"') = (c == '"') := isCaseless_beq (by decide) c
    have hsemicolon : (c.toLower == ';') = (c == ';') := isCaseless_beq (by decide) c
    rw [lowered_cons, uncomment, uncomment, hquote, hsemicolon, ih, ih]
    split
    · rfl
    · split <;> rfl

theorem closesAtEnd_lowered (inside : Bool) (depth : Nat) :
    closesAtEnd inside depth (lowered t) = closesAtEnd inside depth t := by
  induction t generalizing inside depth with
  | nil => rfl
  | cons c t ih =>
    have hquote : (c.toLower == '"') = (c == '"') := isCaseless_beq (by decide) c
    have hopen : (c.toLower == '(') = (c == '(') := isCaseless_beq (by decide) c
    have hclose : (c.toLower == ')') = (c == ')') := isCaseless_beq (by decide) c
    rw [lowered_cons, closesAtEnd, closesAtEnd, hquote, hopen, hclose, isEmpty_lowered]
    simp only [ih]

theorem innerParens?_lowered : innerParens? (lowered t) = (innerParens? t).map lowered := by
  cases t with
  | nil => rfl
  | cons c t =>
    obtain ⟨rfl, hc⟩ | ⟨hc, hc'⟩ := toLower_cases (d := '(') (by decide) c
    · have hcloses := closesAtEnd_lowered ('(' :: t) false 0
      have hlast : (lowered t).getLast? = some ')' ↔ t.getLast? = some ')' := by
        simp [toLower_eq_iff]
      rw [lowered_cons, hc] at hcloses ⊢
      simp only [innerParens?, hlast, hcloses, dropLast_lowered]
      split <;> rfl
    · rw [lowered_cons]
      simp [innerParens?, hc, hc']

theorem stripParens_lowered : stripParens (lowered t) = lowered (stripParens t) := by
  fun_induction stripParens t with
  | case1 t r h _ _ ih =>
    have hinner : innerParens? (trim (lowered t)) = some (lowered r) := by
      rw [trim_lowered, innerParens?_lowered, h, Option.map_some]
    rw [stripParens]
    split
    · next r' h' =>
      obtain rfl := Option.some.inj (h'.symm.trans hinner)
      exact ih
    · next h' => cases h'.symm.trans hinner
  | case2 t h =>
    have hinner : innerParens? (trim (lowered t)) = none := by
      rw [trim_lowered, innerParens?_lowered, h, Option.map_none]
    rw [stripParens]
    split
    · next r' h' => cases h'.symm.trans hinner
    · exact trim_lowered t

/-! ### Literals and objects -/

theorem matchFolded?_lowered (p : List Char) :
    matchFolded? p (lowered t) = (matchFolded? p t).map loweredCut := by
  induction p generalizing t with
  | nil => cases t <;> rfl
  | cons a p ih =>
    cases t with
    | nil => rfl
    | cons c t =>
      have hsame : sameUpToCase a c.toLower = sameUpToCase a c := by
        rw [sameUpToCase, sameUpToCase, foldCase_toLower]
      rw [lowered_cons, matchFolded?, matchFolded?, hsame, ih]
      split
      · rw [Option.map_map, Option.map_map]
        rfl
      · rfl

theorem endsWord_lowered (u : List Char) :
    endsWord (lowered t) (lowered u) = endsWord t u := by
  rw [endsWord, endsWord, isCaseless_isWord.any_getLast?, isCaseless_isWord.any_head?]

/-- Words end at the same places in lower case. -/
theorem filter_endsWord_lowered (s : Option (List Char × List Char)) :
    (s.map loweredCut).filter (fun s => endsWord s.1 s.2) =
      (s.filter fun s => endsWord s.1 s.2).map loweredCut := by
  rw [Option.filter_map]
  exact congrArg (fun q => (s.filter q).map loweredCut) (funext fun s => endsWord_lowered s.1 s.2)

theorem afterBlanks?_lowered : afterBlanks? (lowered t) = (afterBlanks? t).map lowered := by
  rw [afterBlanks?, afterBlanks?, isCaseless_isBlank.any_head?, trimStart_lowered]
  split <;> rfl

theorem objectTokens_lowered : objectTokens (lowered t) = (objectTokens t).map loweredCut := by
  rw [objectTokens, objectTokens, stringToken?_lowered,
    runs_lowered t isCaseless_isObjectChar isCaseless_isObjectChar, List.map_append]
  congr 1
  cases stringToken? t with
  | none => rfl
  | some s =>
    rw [Option.map_some, Option.filter_some, Option.filter_some, loweredCut, length_lowered]
    split <;> rfl

theorem afterArrow?_lowered : afterArrow? (lowered t) = (afterArrow? t).map lowered := by
  rw [afterArrow?, afterArrow?, trimStart_lowered, stripLiteral?_lowered _ (by decide)]

theorem scopeTokens_lowered : scopeTokens (lowered t) = (scopeTokens t).map loweredCut := by
  rw [scopeTokens, scopeTokens, objectTokens_lowered, List.filterMap_map, List.map_filterMap]
  refine List.filterMap_congr fun s _ => ?_
  rw [Function.comp_apply, loweredCut, afterArrow?_lowered, Option.map_map, Option.map_map]
  rfl

end Questline
