import Questline.Condition.Translator
import Questline.Proofs.Text.Lines

/-!
# Parentheses around a condition

Parentheses around the whole of a text do not count. Those that are dropped are always a pair: the
first one is closed by the last one, and not before. In a pair like this stands a text in which
parentheses are balanced, and any such text can be put between parentheses, so that a balanced
condition means the same however many parentheses are around it.

## Main definitions

* `IsClosed`, `IsBalanced`: a text that closes what is open before it, and a balanced text
* `Wraps`: a text with parentheses and white space around it

## Main results

* `innerParens?_eq_some_iff`: what stands between parentheses that are a pair
* `wraps_stripParens`, `stripParens_stripParens`, `IsBalanced.stripParens`: what is dropped from
  any text
* `Wraps.stripParens_eq`: what is around a balanced text is dropped
* `Translator.translate_wraps`: parentheses around a condition
-/

namespace Questline

variable {inside : Bool} {depth : Nat} {c : Char} {t u r w : List Char}

/-! ### Balanced texts -/

/-- The characters of a text outside double quotes; `inside` says whether a string is open. -/
def unquoted (inside : Bool) : List Char → List Char
  | [] => []
  | c :: t =>
    if c == '"' then unquoted (!inside) t
    else if inside then unquoted inside t
    else c :: unquoted inside t

/-- A text ends outside strings and closes `depth` parentheses that are open before it, and no
others; `inside` says whether a string is open before it. Parentheses in strings do not count. -/
@[mk_iff] structure IsClosed (inside : Bool) (depth : Nat) (t : List Char) : Prop where
  even_quotes : (t.count '"' + inside.toNat) % 2 = 0
  count_le : ∀ u, u <+: t →
    (unquoted inside u).count ')' ≤ depth + (unquoted inside u).count '('
  count_eq : (unquoted inside t).count ')' = depth + (unquoted inside t).count '('

/-- Each string of the text is closed, and so is each parenthesis outside strings, by one that
comes after it. -/
def IsBalanced (t : List Char) : Prop :=
  IsClosed false 0 t

theorem unquoted_quote : unquoted inside ('"' :: t) = unquoted (!inside) t := rfl

theorem unquoted_inside (hc : c ≠ '"') : unquoted true (c :: t) = unquoted true t := by
  simp [unquoted, hc]

theorem unquoted_outside (hc : c ≠ '"') : unquoted false (c :: t) = c :: unquoted false t := by
  simp [unquoted, hc]

theorem forall_isPrefix_cons {P : List Char → Prop} :
    (∀ u, u <+: c :: t → P u) ↔ P [] ∧ ∀ u, u <+: t → P (c :: u) := by
  simp only [List.prefix_cons_iff]
  constructor
  · intro h
    exact ⟨h _ (.inl rfl), fun u hu => h _ (.inr ⟨u, rfl, hu⟩)⟩
  · rintro ⟨hnil, hcons⟩ u (rfl | ⟨v, rfl, hv⟩)
    · exact hnil
    · exact hcons v hv

namespace IsClosed

theorem nil_iff : IsClosed inside depth [] ↔ inside = false ∧ depth = 0 := by
  constructor
  · rintro ⟨heven, -, hcount⟩
    have hdepth : 0 = depth + 0 := hcount
    cases inside with
    | false => exact ⟨rfl, by omega⟩
    | true => cases heven
  · rintro ⟨rfl, rfl⟩
    refine ⟨rfl, fun u hu => ?_, rfl⟩
    obtain rfl := List.prefix_nil.1 hu
    exact Nat.le_refl 0

theorem cons_iff_count : IsClosed inside depth (c :: t) ↔
    ((c :: t).count '"' + inside.toNat) % 2 = 0 ∧
    (∀ u, u <+: t →
      (unquoted inside (c :: u)).count ')' ≤ depth + (unquoted inside (c :: u)).count '(') ∧
    (unquoted inside (c :: t)).count ')' = depth + (unquoted inside (c :: t)).count '(' := by
  constructor
  · rintro ⟨heven, hle, hcount⟩
    exact ⟨heven, (forall_isPrefix_cons.1 hle).2, hcount⟩
  · rintro ⟨heven, hle, hcount⟩
    exact ⟨heven, forall_isPrefix_cons.2 ⟨Nat.zero_le _, hle⟩, hcount⟩

/-- A quote opens a string or closes it. -/
theorem quote_iff : IsClosed inside depth ('"' :: t) ↔ IsClosed (!inside) depth t := by
  simp only [cons_iff_count, count_quote_cons_mod, isClosed_iff (!inside), unquoted_quote]

/-- Nothing but a quote counts in a string. -/
theorem inside_iff (hc : c ≠ '"') : IsClosed true depth (c :: t) ↔ IsClosed true depth t := by
  rw [cons_iff_count, isClosed_iff]
  simp only [unquoted_inside hc, List.count_cons_of_ne hc]

theorem open_iff : IsClosed false depth ('(' :: t) ↔ IsClosed false (depth + 1) t := by
  have hc : '(' ≠ '"' := by decide
  have hclose : '(' ≠ ')' := by decide
  rw [cons_iff_count, isClosed_iff]
  simp only [unquoted_outside hc, List.count_cons_of_ne hc, List.count_cons_self,
    List.count_cons_of_ne hclose, Nat.add_right_comm depth 1, ← Nat.add_assoc]

theorem close_iff : IsClosed false (depth + 1) (')' :: t) ↔ IsClosed false depth t := by
  have hc : ')' ≠ '"' := by decide
  have hopen : ')' ≠ '(' := by decide
  rw [cons_iff_count, isClosed_iff]
  simp only [unquoted_outside hc, List.count_cons_of_ne hc, List.count_cons_self,
    List.count_cons_of_ne hopen, Nat.add_right_comm depth 1, Nat.add_le_add_iff_right,
    Nat.add_right_cancel_iff]

/-- Where no parenthesis is open, none is closed. -/
theorem not_close : ¬IsClosed false 0 (')' :: t) := by
  intro h
  have hle := h.count_le [')'] ⟨t, rfl⟩
  exact absurd hle (by decide)

theorem other_iff (hc : c ≠ '"' ∧ c ≠ '(' ∧ c ≠ ')') :
    IsClosed inside depth (c :: t) ↔ IsClosed inside depth t := by
  cases inside with
  | true => exact inside_iff hc.1
  | false =>
    rw [cons_iff_count, isClosed_iff]
    simp only [unquoted_outside hc.1, List.count_cons_of_ne hc.1, List.count_cons_of_ne hc.2.1,
      List.count_cons_of_ne hc.2.2]

end IsClosed

/-- Whether a string is open and how many parentheses are, after one more character. A parenthesis
that closes nothing leads nowhere. -/
def after? (inside : Bool) (depth : Nat) (c : Char) : Option (Bool × Nat) :=
  if c = '"' then some (!inside, depth)
  else if inside then some (true, depth)
  else if c = '(' then some (false, depth + 1)
  else if c = ')' then if depth = 0 then none else some (false, depth - 1)
  else some (false, depth)

/-- One more open parenthesis stays open. -/
theorem after?_succ {s : Bool × Nat} (h : after? inside depth c = some s) :
    after? inside (depth + 1) c = some (s.1, s.2 + 1) := by
  simp only [after?, Nat.add_one_ne_zero, if_false, Nat.add_sub_cancel] at h ⊢
  split_ifs at h ⊢ with hquote hinside hopen hclose hdepth
  all_goals obtain rfl := Option.some.inj h
  case neg => rw [Nat.sub_add_cancel (Nat.pos_of_ne_zero hdepth)]
  all_goals rfl

theorem after?_of_isBlank (hc : isBlank c = true) :
    after? inside depth c = some (inside, depth) := by
  have hne : c ≠ '"' ∧ c ≠ '(' ∧ c ≠ ')' := by
    refine ⟨?_, ?_, ?_⟩ <;> rintro rfl <;> exact absurd hc (by decide)
  cases inside with
  | false => simp [after?, hne]
  | true => simp [after?, hne]

theorem closesAtEnd_cons : closesAtEnd inside (depth + 1) (c :: t) =
    (after? inside depth c).elim t.isEmpty fun s => closesAtEnd s.1 (s.2 + 1) t := by
  unfold after?
  split_ifs with hquote hinside hopen hclose hdepth
  case neg =>
    have hdepth : ¬depth + 1 ≤ 1 := by omega
    have hsub : depth - 1 + 1 = depth := by omega
    simp [closesAtEnd, *]
  all_goals simp [closesAtEnd, *]

namespace IsClosed

/-- A text is read character by character. -/
theorem cons_iff : IsClosed inside depth (c :: t) ↔
    ∃ s, after? inside depth c = some s ∧ IsClosed s.1 s.2 t := by
  unfold after?
  split_ifs with hquote hinside hopen hclose hdepth
  · rw [hquote, quote_iff]
    simp
  · rw [hinside, inside_iff hquote]
    simp
  · rw [eq_false_of_ne_true hinside, hopen, open_iff]
    simp
  · rw [eq_false_of_ne_true hinside, hclose, hdepth]
    simp [not_close]
  · obtain ⟨d, rfl⟩ := Nat.exists_eq_succ_of_ne_zero hdepth
    rw [eq_false_of_ne_true hinside, hclose, close_iff]
    simp
  · rw [other_iff ⟨hquote, hopen, hclose⟩, eq_false_of_ne_true hinside]
    simp

/-- What can be read the same way can be put after any text. -/
theorem append_congr (h : ∀ inside depth, IsClosed inside depth u ↔ IsClosed inside depth w)
    (t : List Char) : IsClosed inside depth (t ++ u) ↔ IsClosed inside depth (t ++ w) := by
  induction t generalizing inside depth with
  | nil => exact h inside depth
  | cons c t ih => simp only [List.cons_append, cons_iff, ih]

/-- White space does not count. -/
theorem blanks_append_iff {g : List Char} (hg : ∀ c ∈ g, isBlank c = true) :
    IsClosed inside depth (g ++ t) ↔ IsClosed inside depth t := by
  induction g with
  | nil => rfl
  | cons c g ih =>
    obtain ⟨hc, hg⟩ := List.forall_mem_cons.1 hg
    rw [List.cons_append, cons_iff, after?_of_isBlank hc, ← ih hg]
    simp

theorem append_blanks_iff {g : List Char} (hg : ∀ c ∈ g, isBlank c = true) :
    IsClosed inside depth (t ++ g) ↔ IsClosed inside depth t := by
  have hnil : ∀ inside depth, IsClosed inside depth g ↔ IsClosed inside depth [] := by
    intro inside depth
    rw [← List.append_nil g]
    exact blanks_append_iff hg
  conv_rhs => rw [← List.append_nil t]
  exact append_congr hnil t

/-- One more parenthesis that is open before a text is closed behind it. -/
theorem close (h : IsClosed inside depth t) : IsClosed inside (depth + 1) (t ++ [')']) := by
  induction t generalizing inside depth with
  | nil =>
    obtain ⟨rfl, rfl⟩ := nil_iff.1 h
    exact close_iff.2 h
  | cons c t ih =>
    obtain ⟨s, hs, h⟩ := cons_iff.1 h
    exact cons_iff.2 ⟨_, after?_succ hs, ih h⟩

/-- The last character closes one more parenthesis that is open before a text, and does so for the
first time, exactly when the text closes all others. -/
theorem closesAtEnd_iff :
    closesAtEnd inside (depth + 1) (t ++ [')']) = true ↔ IsClosed inside depth t := by
  induction t generalizing inside depth with
  | nil =>
    rw [nil_iff]
    cases inside with
    | false => simp [closesAtEnd]
    | true => simp [closesAtEnd]
  | cons c t ih =>
    rw [List.cons_append, closesAtEnd_cons, cons_iff]
    cases after? inside depth c with
    | none => simp
    | some s => simp [ih]

end IsClosed

/-- A text is balanced when its last parenthesis is the one that closes its first, once it stands
between parentheses itself. -/
instance (t : List Char) : Decidable (IsBalanced t) :=
  decidable_of_iff (closesAtEnd false 1 (t ++ [')']) = true) IsClosed.closesAtEnd_iff

/-! ### White space -/

theorem IsBalanced.append_append_iff {g h : List Char} (hg : ∀ c ∈ g, isBlank c = true)
    (hh : ∀ c ∈ h, isBlank c = true) : IsBalanced (g ++ (t ++ h)) ↔ IsBalanced t := by
  rw [IsBalanced, IsClosed.blanks_append_iff hg, IsClosed.append_blanks_iff hh, IsBalanced]

theorem IsBalanced.trim_iff : IsBalanced (trim t) ↔ IsBalanced t := by
  obtain ⟨g, h, ht, hg, hh⟩ := exists_trim t
  conv_rhs => rw [ht, IsBalanced.append_append_iff hg hh]

/-! ### Pairs of parentheses -/

/-- A balanced text stays balanced between parentheses. -/
theorem IsBalanced.parens (h : IsBalanced t) : IsBalanced ('(' :: (t ++ [')'])) :=
  IsClosed.open_iff.2 h.close

/-- The first parenthesis and the last are a pair when the text between them is balanced. -/
theorem innerParens?_eq_some_iff :
    innerParens? t = some r ↔ t = '(' :: (r ++ [')']) ∧ IsBalanced r := by
  constructor
  · intro h
    unfold innerParens? at h
    split at h
    · next u =>
      split at h
      · next hu =>
        obtain ⟨hlast, hcloses⟩ := hu
        obtain rfl := Option.some.inj h
        have hsplit : u = u.dropLast ++ [')'] := (List.dropLast_append_getLast? ')' hlast).symm
        have hcloses : closesAtEnd false 1 (u.dropLast ++ [')']) = true := hsplit ▸ hcloses
        exact ⟨congrArg ('(' :: ·) hsplit, IsClosed.closesAtEnd_iff.1 hcloses⟩
      · cases h
    · cases h
  · rintro ⟨rfl, hr⟩
    have hcloses : closesAtEnd false 0 ('(' :: (r ++ [')'])) = true := IsClosed.closesAtEnd_iff.2 hr
    rw [innerParens?, if_pos ⟨List.getLast?_concat, hcloses⟩, List.dropLast_concat]

/-- A piece of a string stands between two positions, which are between characters. -/
theorem exists_extract_eq (a b c : String) : ∃ front back : (a ++ b ++ c).Pos,
    front.offset.byteIdx = a.utf8ByteSize ∧
    back.offset.byteIdx = a.utf8ByteSize + b.utf8ByteSize ∧ String.extract front back = b := by
  refine ⟨⟨a.rawEndPos, String.Pos.Raw.isValid_iff_exists_append.2
    ⟨a, b ++ c, String.append_assoc, rfl⟩⟩, ⟨(a ++ b).rawEndPos,
    String.Pos.Raw.isValid_iff_exists_append.2 ⟨a ++ b, c, rfl, rfl⟩⟩, rfl,
    String.utf8ByteSize_append, ?_⟩
  apply String.toByteArray_inj.1
  rw [String.toByteArray_extract]
  show (a ++ b ++ c).toByteArray.extract a.utf8ByteSize (a ++ b).utf8ByteSize = b.toByteArray
  rw [String.toByteArray_append, String.toByteArray_append, ByteArray.append_assoc,
    String.utf8ByteSize_append]
  exact (ByteArray.extract_append_size_add (i := 0)).trans (ByteArray.extract_append_eq_left rfl)

/-- Cutting a pair of parentheses off never cuts through a character: one byte is cut off each end
of the text, and both cuts are between characters. -/
theorem exists_extract_of_innerParens? (h : innerParens? t = some r) :
    ∃ front back : (String.ofList t).Pos,
      front.offset.byteIdx = 1 ∧ back.offset.byteIdx + 1 = (String.ofList t).utf8ByteSize ∧
        String.extract front back = String.ofList r := by
  obtain ⟨rfl, -⟩ := innerParens?_eq_some_iff.1 h
  have htext : String.ofList ('(' :: (r ++ [')'])) = "(" ++ String.ofList r ++ ")" := by
    apply String.toList_inj.1
    simp
  obtain ⟨front, back, hfront, hback, hextract⟩ := exists_extract_eq "(" (String.ofList r) ")"
  rw [htext]
  refine ⟨front, back, hfront, ?_, hextract⟩
  rw [hback, String.utf8ByteSize_append, String.utf8ByteSize_append]
  rfl

/-- A text with white space and parentheses around it. What stands between two parentheses
satisfies `P`. -/
inductive Wraps (P : List Char → Prop) (t : List Char) : List Char → Prop
  | refl : Wraps P t t
  | blanks {g h w : List Char} (hg : ∀ c ∈ g, isBlank c = true) (hh : ∀ c ∈ h, isBlank c = true)
      (hw : Wraps P t w) : Wraps P t (g ++ (w ++ h))
  | parens {w : List Char} (hP : P w) (hw : Wraps P t w) : Wraps P t ('(' :: (w ++ [')']))

theorem stripParens_of_some (h : innerParens? (trim t) = some r) :
    stripParens t = stripParens r := by
  rw [stripParens]
  split
  · next r' h' =>
    obtain rfl := Option.some.inj (h'.symm.trans h)
    rfl
  · next h' => cases h'.symm.trans h

theorem stripParens_of_none (h : innerParens? (trim t) = none) : stripParens t = trim t := by
  rw [stripParens]
  split
  · next r' h' => cases h'.symm.trans h
  · rfl

theorem stripParens_congr (h : trim t = trim u) : stripParens t = stripParens u := by
  cases hu : innerParens? (trim u) with
  | none => rw [stripParens_of_none hu, stripParens_of_none (h ▸ hu), h]
  | some r => rw [stripParens_of_some hu, stripParens_of_some (h ▸ hu)]

/-- Whatever is around a balanced text is dropped, and leaves it balanced. -/
theorem Wraps.stripParens_eq {P : List Char → Prop} (ht : IsBalanced t) (hw : Wraps P t w) :
    stripParens w = stripParens t ∧ IsBalanced w := by
  induction hw with
  | refl => exact ⟨rfl, ht⟩
  | blanks hg hh _ ih =>
    refine ⟨(stripParens_congr (trim_append_append hg hh _)).trans ih.1, ?_⟩
    exact (IsBalanced.append_append_iff hg hh).2 ih.2
  | @parens w _ _ ih =>
    have htrim : trim ('(' :: (w ++ [')'])) = '(' :: (w ++ [')']) := by
      refine trim_eq_self (fun c hc => ?_) (fun c hc => ?_)
      · obtain rfl := Option.some.inj hc
        decide
      · rw [← List.cons_append, List.getLast?_concat] at hc
        obtain rfl := Option.some.inj hc
        decide
    have hinner : innerParens? (trim ('(' :: (w ++ [')']))) = some w := by
      rw [htrim]
      exact innerParens?_eq_some_iff.2 ⟨rfl, ih.2⟩
    exact ⟨(stripParens_of_some hinner).trans ih.1, ih.2.parens⟩

/-- Of any text only white space is dropped, and parentheses that are a pair. -/
theorem wraps_stripParens (t : List Char) : Wraps IsBalanced (stripParens t) t := by
  fun_induction stripParens t with
  | case1 t r hr _ _ ih =>
    obtain ⟨htrim, hbalanced⟩ := innerParens?_eq_some_iff.1 hr
    obtain ⟨g, h, ht, hg, hh⟩ := exists_trim t
    have hpair : Wraps IsBalanced (stripParens r) (trim t) := htrim ▸ .parens hbalanced ih
    exact ht ▸ .blanks hg hh hpair
  | case2 t _ =>
    obtain ⟨g, h, ht, hg, hh⟩ := exists_trim t
    have hself : Wraps IsBalanced (trim t) (g ++ (trim t ++ h)) := .blanks hg hh .refl
    rwa [← ht] at hself

/-- There is nothing more to drop after that. -/
theorem stripParens_stripParens (t : List Char) :
    stripParens (stripParens t) = stripParens t := by
  fun_induction stripParens t with
  | case1 t r hr _ _ ih => exact ih
  | case2 t hnone => rw [stripParens_of_none (by rwa [trim_trim]), trim_trim]

/-- The first parenthesis is closed before the end, or one in a string comes last. -/
example : stripParens " (a) == (b)".toList = "(a) == (b)".toList ∧
    stripParens "((a \")\")".toList = "((a \")\")".toList := by
  decide +kernel

theorem IsBalanced.stripParens (h : IsBalanced t) : IsBalanced (stripParens t) := by
  revert h
  fun_induction Questline.stripParens t with
  | case1 t r hr _ _ ih => exact fun _ => ih (innerParens?_eq_some_iff.1 hr).2
  | case2 t _ => exact IsBalanced.trim_iff.2

/-! ### Conditions -/

variable {globals : Names} {scope : Scope}

/-- A condition is read without the parentheses around it. -/
theorem translate_eq_of_stripParens_eq (h : stripParens w = stripParens t) :
    translate globals scope w = translate globals scope t := by
  rw [translate, translate, h]

/-- What is kept of a text that is no condition differs in the text only. -/
theorem verbatim_eq_of_stripParens_eq (h : stripParens w = stripParens t) :
    verbatim w = { verbatim t with raw := some (String.ofList (trim w)) } := by
  unfold verbatim
  dsimp only
  rw [h]
  cases MemberTest.read? (stripParens t) with
  | none => rfl
  | some m =>
    dsimp only
    cases m.test with
    | none => rfl
    | some test =>
      dsimp only
      unfold Requirement.against
      cases Number.readFloat? test.2 <;> rfl

namespace Translator

variable {tr tr' : Translator} {q : Requirement} {e : Misreading}

theorem translateOrKeep_of_ok (h : tr.translate scope t = (.ok q, tr')) :
    tr.translateOrKeep scope t = (q, tr') := by
  unfold translate at h
  unfold translateOrKeep
  split at h
  · cases h
    rfl
  · cases h

theorem translateOrKeep_of_error (h : tr.translate scope t = (.error e, tr')) :
    tr' = tr ∧ tr.translateOrKeep scope t =
      (verbatim t, { tr with failed := tr.failed ++ [String.ofList (trim t)] }) := by
  unfold translate at h
  unfold translateOrKeep
  split at h
  · cases h
  · cases h
    exact ⟨rfl, rfl⟩

/-- Parentheses around a balanced condition, as many as there may be, and white space around and
between them change neither its requirement nor the error, nor what is noted of it; only the text
that is kept when it cannot be read is another one. Of any text at all, balanced or not, only white
space and pairs of parentheses are dropped, each pair without cutting through a character; nothing
is left to be dropped after that, and what is left of a balanced text is balanced. -/
theorem translate_wraps (tr : Translator) (scope : Scope) (t u : List Char) (ht : IsBalanced t)
    (hu : Wraps (fun _ => True) t u) :
    (tr.translate scope u = tr.translate scope t ∧
      (∀ q tr', tr.translate scope t = (.ok q, tr') →
        ∀ text ∈ [t, u], tr.translateOrKeep scope text = (q, tr')) ∧
      (∀ e tr', tr.translate scope t = (.error e, tr') → tr' = tr ∧ ∃ q : Requirement,
        ∀ text ∈ [t, u], tr.translateOrKeep scope text =
          ({ q with raw := some (String.ofList (trim text)) },
            { tr with failed := tr.failed ++ [String.ofList (trim text)] }))) ∧
    ∀ s : List Char,
      Wraps IsBalanced (stripParens s) s ∧
      stripParens (stripParens s) = stripParens s ∧
      (IsBalanced s → IsBalanced (stripParens s)) ∧
      ∀ r, innerParens? s = some r → ∃ front back : (String.ofList s).Pos,
        front.offset.byteIdx = 1 ∧ back.offset.byteIdx + 1 = (String.ofList s).utf8ByteSize ∧
          String.extract front back = String.ofList r := by
  have hstrip : stripParens u = stripParens t := (hu.stripParens_eq ht).1
  have htranslate : tr.translate scope u = tr.translate scope t := by
    rw [translate, translate, translate_eq_of_stripParens_eq hstrip]
  refine ⟨⟨htranslate, fun q tr' hq => ?_, fun e tr' he => ?_⟩, fun s => ?_⟩
  · rw [List.forall_mem_cons, List.forall_mem_singleton]
    exact ⟨translateOrKeep_of_ok hq, translateOrKeep_of_ok (htranslate.trans hq)⟩
  · obtain ⟨htr, hkeep⟩ := translateOrKeep_of_error he
    refine ⟨htr, verbatim t, ?_⟩
    rw [List.forall_mem_cons, List.forall_mem_singleton, hkeep, ← verbatim_eq_of_stripParens_eq rfl,
      ← verbatim_eq_of_stripParens_eq hstrip]
    exact ⟨rfl, (translateOrKeep_of_error (htranslate.trans he)).2⟩
  · exact ⟨wraps_stripParens s, stripParens_stripParens s, IsBalanced.stripParens,
      fun r => exists_extract_of_innerParens?⟩

/-- A condition with a parenthesis in a string. -/
def keyCondition : List Char :=
  "GetItemCount \"key (\" > 1".toList

/-- The condition with two pairs of parentheses and white space around it. -/
def wrappedKeyCondition : List Char :=
  " (\t(GetItemCount \"key (\" > 1) )".toList

theorem keyCondition_translate_wraps :
    let tr : Translator := {}
    IsBalanced keyCondition ∧ Wraps (fun _ => True) keyCondition wrappedKeyCondition ∧
    tr.translate {} wrappedKeyCondition = tr.translate {} keyCondition ∧
    ((tr.translateOrKeep {} wrappedKeyCondition).1.kind,
      (tr.translateOrKeep {} wrappedKeyCondition).1.operand) = (.item, some "key (") := by
  intro tr
  have hbalanced : IsBalanced keyCondition := by decide +kernel
  have hwraps : Wraps (fun _ => True) keyCondition wrappedKeyCondition := by
    have htext : wrappedKeyCondition =
        [' '] ++ ('(' :: (['\t'] ++ ('(' :: (keyCondition ++ [')']) ++ [' ']) ++ [')']) ++ []) := by
      decide +kernel
    rw [htext]
    refine .blanks (forall_mem_of_all (by decide)) nofun (.parens trivial ?_)
    exact .blanks (forall_mem_of_all (by decide)) (forall_mem_of_all (by decide))
      (.parens trivial .refl)
  obtain ⟨⟨htranslate, -⟩, -⟩ := translate_wraps tr {} keyCondition wrappedKeyCondition hbalanced
    hwraps
  exact ⟨hbalanced, hwraps, htranslate, by decide +kernel⟩

end Translator

end Questline
