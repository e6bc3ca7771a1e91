import Questline.Condition.Translator
import Questline.Proofs.Text.LetterCase

/-!
# Conditions in lower case

A condition is read in the same pieces in every letter case, and its numbers are the same. What it
requires is said in lower case anyway. So a text that is a condition gives the same requirement in
lower case.

## Main definitions

* `Condition.lowered`, `MemberTest.lowered`: the pieces of a condition in lower case

## Main results

* `Number.readFloat?_lowered`, `Number.readInt?_lowered`: numbers
* `Condition.read?_lowered`, `MemberTest.read?_lowered`: conditions
* `translate_lowered`: requirements
-/

namespace Questline

variable (t : List Char)

/-! ### Numbers -/

namespace Number

theorem isCaseless_isDigit : IsCaseless Char.isDigit :=
  .of_capitals (by decide)

/-- Digits are no letters. -/
theorem lowered_of_isDigit {t : List Char} (h : ∀ c ∈ t, c.isDigit = true) : lowered t = t := by
  rw [lowered]
  refine (List.map_congr_left fun c hc => ?_).trans (List.map_id t)
  have hdigit := toNat_of_isDigit (h c hc)
  refine dif_neg fun hupper => ?_
  have hA : 65 ≤ c.toNat := UInt32.le_iff_toNat_le.1 hupper.1
  omega

theorem sign_lowered : sign (lowered t) = ((sign t).1, lowered (sign t).2) := by
  cases t with
  | nil => rfl
  | cons c t =>
    -- a sign is its own lower case, and no other character becomes one
    obtain ⟨rfl, -⟩ | ⟨hm, hm'⟩ := toLower_cases (d := '-') (by decide) c
    · rfl
    · obtain ⟨rfl, -⟩ | ⟨hp, hp'⟩ := toLower_cases (d := '+') (by decide) c
      · rfl
      · rw [lowered_cons]
        simp [sign, hm, hp, hm', hp']

theorem digits?_lowered : digits? (lowered t) = digits? t := by
  rw [digits?, digits?, isEmpty_lowered, isCaseless_isDigit.all]
  split
  · rfl
  · next h =>
    have hdigits : ∀ c ∈ t, c.isDigit = true := by simp_all
    rw [lowered_of_isDigit hdigits]

theorem signed?_lowered : signed? (lowered t) = signed? t := by
  rw [signed?, signed?, sign_lowered]
  dsimp only
  rw [digits?_lowered]

theorem exponent?_lowered : exponent? (lowered t) = exponent? t := by
  cases t with
  | nil => rfl
  | cons c t =>
    have he : IsCaseless fun c => c == 'e' || c == 'E' := .of_capitals (by decide)
    have hc : (c.toLower == 'e' || c.toLower == 'E') = (c == 'e' || c == 'E') := he c
    rw [lowered_cons, exponent?, exponent?, hc, signed?_lowered]

theorem fraction_lowered : fraction (lowered t) = loweredCut (fraction t) := by
  cases t with
  | nil => rfl
  | cons c t =>
    obtain ⟨rfl, hc⟩ | ⟨hc, hc'⟩ := toLower_cases (d := '.') (by decide) c
    · rw [lowered_cons, hc, fraction, fraction, isCaseless_isDigit.takeWhile,
        isCaseless_isDigit.dropWhile]
      rfl
    · rw [lowered_cons]
      simp [fraction, hc, hc', loweredCut]

theorem isDigit_of_mem_fraction {c : Char} (h : c ∈ (fraction t).1) : c.isDigit = true := by
  unfold fraction at h
  split at h
  · exact List.mem_takeWhile_imp h
  · exact absurd h List.not_mem_nil

theorem magnitude?_lowered : magnitude? (lowered t) = magnitude? t := by
  have hdigits : ∀ c ∈ t.takeWhile Char.isDigit ++ (fraction (t.dropWhile Char.isDigit)).1,
      c.isDigit = true := by
    intro c hc
    obtain hc | hc := List.mem_append.1 hc
    · exact List.mem_takeWhile_imp hc
    · exact isDigit_of_mem_fraction _ hc
  rw [magnitude?, magnitude?, isCaseless_isDigit.takeWhile, isCaseless_isDigit.dropWhile,
    fraction_lowered]
  dsimp only [loweredCut]
  rw [isEmpty_lowered, isEmpty_lowered, exponent?_lowered, length_lowered, ← lowered_append,
    lowered_of_isDigit hdigits]

theorem word?_lowered : word? (lowered t) = word? t := by
  have hlower : (lowered t).map Char.toLower = t.map Char.toLower := by
    rw [lowered, List.map_map]
    exact List.map_congr_left fun c _ => toLower_toLower_char c
  rw [word?, word?, hlower]

theorem readFloat?_lowered : readFloat? (lowered t) = readFloat? t := by
  rw [readFloat?, readFloat?, sign_lowered]
  dsimp only
  rw [magnitude?_lowered, word?_lowered]

theorem readInt?_lowered (lo hi : Int) : readInt? lo hi (lowered t) = readInt? lo hi t := by
  rw [readInt?, readInt?, signed?_lowered]

end Number

/-! ### Comparisons -/

theorem Comparison.scan?_lowered :
    Comparison.scan? (lowered t) = (Comparison.scan? t).map fun s => (s.1, lowered s.2) := by
  fun_cases Comparison.scan? t with
  | case1 | case2 | case3 | case4 => rfl
  | case5 r hr => exact scan?.eq_5 _ (lowered_ne_cons (by decide) hr)
  | case6 r hr => exact scan?.eq_6 _ (lowered_ne_cons (by decide) hr)
  | case7 r hr => exact scan?.eq_7 _ (lowered_ne_cons (by decide) hr)
  | case8 _ hee hne hge hle hg hl he =>
    -- an exclamation mark alone is no comparison, so both marks have to be looked at
    have hbang (u : List Char) (hu : lowered t = '!' :: '=' :: u) : False := by
      obtain ⟨r, rfl, hr⟩ := exists_of_lowered_eq_cons (by decide) hu
      obtain ⟨r, rfl, -⟩ := exists_of_lowered_eq_cons (by decide) hr
      exact hne r rfl
    have hgreater := lowered_ne_cons (by decide) hg
    have hless := lowered_ne_cons (by decide) hl
    have hequal := lowered_ne_cons (by decide) he
    exact scan?.eq_8 _ (fun u => hequal _) hbang (fun u => hgreater _) (fun u => hless _) hgreater
      hless hequal

/-- A number in a condition, after its sign. -/
def isMagnitude (t : List Char) : Bool :=
  match t.dropWhile isDigit with
  | [] => !t.isEmpty
  | '.' :: f => !f.isEmpty && f.all isDigit
  | _ => false

theorem isNumeral_cons_minus : isNumeral ('-' :: t) = isMagnitude t := rfl

theorem isNumeral_of_ne {t : List Char} (h : ∀ r, t = '-' :: r → False) :
    isNumeral t = isMagnitude t := by
  unfold isNumeral
  split
  · next r => exact absurd rfl (h r)
  · rfl

theorem isMagnitude_lowered : isMagnitude (lowered t) = isMagnitude t := by
  rw [isMagnitude, isMagnitude, isCaseless_isDigit.dropWhile, isEmpty_lowered]
  cases t.dropWhile isDigit with
  | nil => rfl
  | cons c f =>
    obtain ⟨rfl, hc⟩ | ⟨hc, hc'⟩ := toLower_cases (d := '.') (by decide) c
    · rw [lowered_cons, hc]
      show (!(lowered f).isEmpty && (lowered f).all isDigit) = (!f.isEmpty && f.all isDigit)
      rw [isEmpty_lowered, isCaseless_isDigit.all]
    · rw [lowered_cons]
      simp [hc, hc']

theorem isNumeral_lowered : isNumeral (lowered t) = isNumeral t := by
  by_cases hminus : ∃ r, t = '-' :: r
  · obtain ⟨r, rfl⟩ := hminus
    have hsign : '-'.toLower = '-' := by decide
    rw [lowered_cons, hsign, isNumeral_cons_minus, isNumeral_cons_minus, isMagnitude_lowered]
  · have hplain : ∀ r, t = '-' :: r → False := not_exists.1 hminus
    rw [isNumeral_of_ne hplain, isNumeral_of_ne (lowered_ne_cons (by decide) hplain),
      isMagnitude_lowered]

theorem isDottedName_lowered : isDottedName (lowered t) = isDottedName t := by
  have hrest : IsCaseless fun c => isWord c || c == '.' :=
    isCaseless_isWord.or (isCaseless_beq (by decide))
  cases t with
  | nil => rfl
  | cons c t => rw [lowered_cons, isDottedName, isDottedName, isCaseless_isLetter c, hrest.all]

theorem isStringToken_lowered : isStringToken (lowered t) = isStringToken t := by
  rw [isStringToken, isStringToken, quoted?_lowered]
  cases quoted? t with
  | none => rfl
  | some s =>
    obtain ⟨a, b⟩ := s
    cases b <;> rfl

theorem isComparand_lowered : isComparand (lowered t) = isComparand t := by
  rw [isComparand, isComparand, isStringToken_lowered, isNumeral_lowered, isDottedName_lowered]

/-- A comparison with the value in lower case. -/
def Test.lowered (x : Test) : Test :=
  (x.1, Questline.lowered x.2)

theorem Test.read?_lowered :
    Test.read? (Questline.lowered t) = (Test.read? t).map (Option.map Test.lowered) := by
  rw [Test.read?, Test.read?, trim_lowered]
  generalize trim t = u
  cases u with
  | nil => rfl
  | cons c r =>
    have hscan := Comparison.scan?_lowered (c :: r)
    rw [lowered_cons] at hscan ⊢
    dsimp only
    rw [hscan]
    cases Comparison.scan? (c :: r) with
    | none => rfl
    | some s =>
      dsimp only [Option.map_some]
      rw [trimStart_lowered, isComparand_lowered]
      split <;> rfl

/-! ### Conditions -/

/-- The pieces of a condition in lower case. -/
def Condition.lowered (c : Condition) : Condition where
  scope := c.scope.map Questline.lowered
  command := Questline.lowered c.command
  argument := c.argument.map Questline.lowered
  test := c.test.map Test.lowered

/-- The pieces of a comparison of a variable of an object in lower case. -/
def MemberTest.lowered (m : MemberTest) : MemberTest where
  object := Questline.lowered m.object
  member := Questline.lowered m.member
  test := m.test.map Test.lowered

/-- A piece that need not be there, and what follows it, in lower case. -/
def loweredOption (s : Option (List Char) × List Char) : Option (List Char) × List Char :=
  (s.1.map lowered, lowered s.2)

/-- To look for the first result in lower case is to look for the first result. -/
theorem findSome?_map_of_comm {α β γ : Type} {f : α → α} {g : β → γ} {p : α → Option γ}
    {q : α → Option β} (h : ∀ a, p (f a) = (q a).map g) (l : List α) :
    (l.map f).findSome? p = (l.findSome? q).map g := by
  rw [List.findSome?_map, List.map_findSome?]
  exact congrArg (List.findSome? · l) (funext h)

namespace Condition

theorem isCaseless_isArgumentChar : IsCaseless isArgumentChar :=
  ((isCaseless_isWord.or (isCaseless_beq (by decide))).or (isCaseless_beq (by decide))).or
    (isCaseless_beq (by decide))

theorem afterComma_lowered : afterComma (Questline.lowered t) = Questline.lowered (afterComma t) := by
  rw [afterComma, afterComma, trimStart_lowered]
  cases trimStart t with
  | nil => rfl
  | cons c r =>
    obtain ⟨rfl, hc⟩ | ⟨hc, hc'⟩ := toLower_cases (d := ',') (by decide) c
    · rw [lowered_cons, hc]
      exact trimStart_lowered r
    · rw [lowered_cons]
      simp [hc, hc']

theorem arguments_lowered : arguments (Questline.lowered t) = (arguments t).map loweredOption := by
  rw [arguments, arguments, afterComma_lowered, stringToken?_lowered,
    runs_lowered _ isCaseless_isLetter isCaseless_isArgumentChar, Option.toList_map]
  simp only [List.map_append, List.map_map]
  rfl

theorem scopes_lowered : scopes (Questline.lowered t) = (scopes t).map loweredOption := by
  rw [scopes, scopes, scopeTokens_lowered, List.map_append, List.map_map, List.map_map]
  congr 1
  refine List.map_congr_left fun s _ => ?_
  simp [loweredOption, loweredCut]

theorem read?_lowered : read? (Questline.lowered t) = (read? t).map lowered := by
  rw [read?, read?, trimStart_lowered, scopes_lowered]
  refine findSome?_map_of_comm (fun s => ?_) _
  dsimp only [loweredOption]
  rw [runs_lowered _ isCaseless_isLetter isCaseless_isWord]
  refine findSome?_map_of_comm (fun s => ?_) _
  dsimp only [loweredCut]
  rw [arguments_lowered]
  refine findSome?_map_of_comm (fun s => ?_) _
  dsimp only [loweredOption]
  rw [Test.read?_lowered, Option.map_map, Option.map_map]
  rfl

end Condition

theorem MemberTest.read?_lowered :
    MemberTest.read? (Questline.lowered t) = (MemberTest.read? t).map lowered := by
  rw [read?, read?, trimStart_lowered, objectTokens_lowered]
  refine findSome?_map_of_comm (fun s => ?_) _
  dsimp only [loweredCut]
  rw [trimStart_lowered, stripLiteral?_lowered _ (by decide), Option.bind_map, Option.map_bind]
  refine congrArg (Option.bind _) (funext fun r => ?_)
  rw [Function.comp_apply, trimStart_lowered, runs_lowered _ isCaseless_isLetter isCaseless_isWord]
  refine findSome?_map_of_comm (fun s => ?_) _
  dsimp only [loweredCut]
  rw [Test.read?_lowered, Option.map_map, Option.map_map]
  rfl

/-! ### Requirements -/

theorem map_nameOf_lowered (o : Option (List Char)) :
    (o.map lowered).map nameOf = o.map nameOf := by
  rw [Option.map_map]
  exact congrArg (Option.map · o) (funext nameOf_lowered)

theorem Requirement.against_lowered (r : Requirement) : r.against (lowered t) = r.against t := by
  rw [against, against, Number.readFloat?_lowered, nameOf_lowered]

namespace Condition

variable (c : Condition)

@[simp] theorem commandName_lowered : c.lowered.commandName = c.commandName :=
  toLower_ofList_lowered c.command

@[simp] theorem comparison_lowered : c.lowered.comparison = c.comparison := by
  rw [comparison, comparison, lowered]
  cases c.test <;> rfl

@[simp] theorem object_lowered : c.lowered.object = c.object := by
  rw [object, object, commandName_lowered, lowered, map_nameOf_lowered]

theorem operand_lowered (globals : Names) (scope : Scope) :
    c.lowered.operand globals scope = c.operand globals scope := by
  rw [operand, operand, commandName_lowered, comparison_lowered]
  simp only [lowered, map_nameOf_lowered]

/-- What a condition requires is the same in every letter case. -/
theorem requirement_lowered (globals : Names) (scope : Scope) :
    c.lowered.requirement globals scope = c.requirement globals scope := by
  rw [requirement, requirement, operand_lowered, object_lowered]
  cases htest : c.test with
  | none => simp [lowered, htest]
  | some x => simp [lowered, htest, Test.lowered, Requirement.against_lowered]

end Condition

/-- What is a condition is the same condition in lower case. -/
theorem translate_lowered {globals : Names} {scope : Scope} {text : List Char}
    {x : Requirement × Option String} (h : translate globals scope text = .ok x) :
    translate globals scope (lowered text) = .ok x := by
  rw [translate] at h ⊢
  rw [stripParens_lowered, isEmpty_lowered, MemberTest.read?_lowered, Condition.read?_lowered]
  split at h
  · cases h
  · next hempty =>
    rw [if_neg hempty]
    cases hmember : MemberTest.read? (stripParens text) with
    | some m => rw [hmember] at h; cases h
    | none =>
      rw [hmember] at h
      cases hread : Condition.read? (stripParens text) with
      | none => rw [hread] at h; cases h
      | some c =>
        rw [hread] at h
        exact (congrArg Except.ok (c.requirement_lowered globals scope)).trans h

end Questline
