import Mathlib.Data.List.DropRight
import Questline.Proofs.Text.Cuts
import Questline.Script.Line

/-!
# Reading back lines of text

What the lines of a text, its white space and its first word are when the text was put
together from pieces.

## Main results

* `lines_append_break`: the lines of a text on both sides of a line feed
* `uncomment_append`, `trim_append`: a line with a word in front
* `uncomment_quoted`, `unquote_quoted`: strings in double quotes
* `toLower_toLower`: lower case twice is lower case once
* `Line.ofText_keyword`, `Line.ofText_declaration`: lines with a keyword in front
-/

namespace Questline

/-! ### White space is never part of a word -/

namespace CharClass

/-- Membership in and above the first stretch of a class. -/
theorem contains_cons_cons {a b : Nat} {bs : List Nat} {c : Char} (h : a ≤ b) :
    (CharClass.mk (a :: b :: bs)).contains c = true ↔
      (a ≤ c.toNat ∧ c.toNat < b) ∨ (b ≤ c.toNat ∧ (CharClass.mk bs).contains c = true) := by
  unfold contains
  by_cases hb : b ≤ c.toNat
  · have ha : a ≤ c.toNat := Nat.le_trans h hb
    simp [ha, hb]
    omega
  · by_cases ha : a ≤ c.toNat
    · simp [ha, hb]
      omega
    · simp [ha, hb]

theorem contains_nil (c : Char) : (CharClass.mk []).contains c = false := rfl

end CharClass

/-- The white space characters. -/
def blanks : List Char :=
  [0x9, 0xA, 0xB, 0xC, 0xD, 0x20, 0x85, 0xA0, 0x1680, 0x2000, 0x2001, 0x2002, 0x2003, 0x2004,
    0x2005, 0x2006, 0x2007, 0x2008, 0x2009, 0x200A, 0x2028, 0x2029, 0x202F, 0x205F,
    0x3000].map Char.ofNat

theorem mem_blanks {c : Char} (h : isBlank c = true) : c ∈ blanks := by
  -- the class has ten stretches, and `blanks` lists what is in them
  unfold isBlank CharClass.blank at h
  simp (disch := decide) only [CharClass.contains_cons_cons, CharClass.contains_nil,
    Bool.false_eq_true, and_false, or_false] at h
  rw [← Char.ofNat_toNat c]
  apply List.mem_map_of_mem
  simp only [List.mem_cons, List.not_mem_nil, or_false]
  omega

theorem isWord_eq_false_of_isBlank {c : Char} (h : isBlank c = true) : isWord c = false :=
  have hall : blanks.all (fun c => !isWord c) = true := by decide +kernel
  Bool.not_eq_true' _ ▸ List.all_eq_true.1 hall c (mem_blanks h)

theorem isWord_of_isFoldedLetter {c : Char} (h : isFoldedLetter c = true) : isWord c = true := by
  have hascii : ((List.range 128).map Char.ofNat).all (fun c => !isLetter c || isWord c) =
      true := by
    decide +kernel
  unfold isFoldedLetter at h
  simp only [Bool.or_eq_true, beq_iff_eq] at h
  obtain (hletter | rfl) | rfl := h
  -- letters are ASCII, where every value was checked
  · have hlt : c.toNat < 128 := by
      have h : (decide (c.val ≥ 'A'.val ∧ c.val ≤ 'Z'.val) ||
          (decide (c.val ≥ 'a'.val) && decide (c.val ≤ 'z'.val)) || c == '_') = true := hletter
      simp only [Bool.or_eq_true, Bool.and_eq_true, decide_eq_true_eq, beq_iff_eq,
        ge_iff_le, UInt32.le_iff_toNat_le] at h
      obtain (h | h) | rfl := h
      · exact Nat.lt_of_le_of_lt h.2 (by decide)
      · exact Nat.lt_of_le_of_lt h.2 (by decide)
      · decide
    have hmem : c ∈ (List.range 128).map Char.ofNat :=
      List.mem_map.2 ⟨c.toNat, List.mem_range.2 hlt, Char.ofNat_toNat c⟩
    simpa [hletter] using List.all_eq_true.1 hascii c hmem
  · decide +kernel
  · decide +kernel

theorem isBlank_eq_false_of_isWord {c : Char} (h : isWord c = true) : isBlank c = false := by
  rw [← Bool.not_eq_true]
  exact fun hb => Bool.false_ne_true ((isWord_eq_false_of_isBlank hb).symm.trans h)

/-! ### Digits -/

theorem toNat_of_isDigit {c : Char} (h : c.isDigit = true) : 0x30 ≤ c.toNat ∧ c.toNat < 0x3A := by
  have hval : (decide (c.val ≥ '0'.val) && decide (c.val ≤ '9'.val)) = true := h
  simp only [Bool.and_eq_true, decide_eq_true_eq, ge_iff_le, UInt32.le_iff_toNat_le] at hval
  exact ⟨hval.1, Nat.lt_succ_of_le hval.2⟩

theorem isDigit_of_isDigit {c : Char} (h : c.isDigit = true) : isDigit c = true :=
  (CharClass.contains_cons_cons (by decide)).2 (.inl (toNat_of_isDigit h))

theorem isWord_of_isDigit {c : Char} (h : c.isDigit = true) : isWord c = true :=
  (CharClass.contains_cons_cons (by decide)).2 (.inl (toNat_of_isDigit h))

/-! ### Lower case -/

theorem toLower_toLower_char (c : Char) : c.toLower.toLower = c.toLower := by
  unfold Char.toLower
  by_cases h : c.val ≥ 'A'.val ∧ c.val ≤ 'Z'.val
  · have hA : 'A'.val.toNat = 65 := rfl
    have hZ : 'Z'.val.toNat = 90 := rfl
    have hd : ('a'.val - 'A'.val).toNat = 32 := rfl
    have hnot : ¬(c.val + ('a'.val - 'A'.val) ≥ 'A'.val ∧
        c.val + ('a'.val - 'A'.val) ≤ 'Z'.val) := by
      rw [ge_iff_le, UInt32.le_iff_toNat_le, UInt32.le_iff_toNat_le] at h ⊢
      rw [UInt32.toNat_add]
      omega
    rw [dif_pos h, dif_neg hnot]
  · rw [dif_neg h, dif_neg h]

/-- A name in lower case stays as it is. -/
theorem toLower_toLower (s : String) : s.toLower.toLower = s.toLower := by
  unfold String.toLower
  rw [String.map_map]
  congr 1
  funext c
  exact toLower_toLower_char c

theorem toList_toLower (s : String) : s.toLower.toList = s.toList.map Char.toLower :=
  String.toList_map

theorem toLower_append (s t : String) : (s ++ t).toLower = s.toLower ++ t.toLower := by
  apply String.toList_inj.1
  rw [toList_toLower, String.toList_append, String.toList_append, toList_toLower, toList_toLower,
    List.map_append]

theorem isWord_of_isWord_toLower {c : Char} (h : isWord c.toLower = true) : isWord c = true := by
  unfold Char.toLower at h
  split at h
  · next hupper =>
    -- the second stretch of word characters are the capital letters
    rw [ge_iff_le, UInt32.le_iff_toNat_le, UInt32.le_iff_toNat_le] at hupper
    have hlow : (65 : Nat) ≤ c.toNat := hupper.1
    have hhigh : c.toNat ≤ 90 := hupper.2
    refine (CharClass.contains_cons_cons (by decide)).2 (.inr ⟨by omega, ?_⟩)
    exact (CharClass.contains_cons_cons (by decide)).2 (.inl ⟨by omega, by omega⟩)
  · exact h

/-! ### Pieces of a text -/

theorem lines_ne_nil (t : List Char) : lines t ≠ [] := by
  cases t with
  | nil => exact List.cons_ne_nil _ _
  | cons c t =>
    rw [lines]
    split
    · exact List.cons_ne_nil _ _
    · split <;> exact List.cons_ne_nil _ _

/-- A line feed ends a line, whatever the lines before it are. -/
theorem lines_append_break (s t : List Char) : lines (s ++ '\n' :: t) = lines s ++ lines t := by
  induction s with
  | nil => rfl
  | cons c s ih =>
    rw [List.cons_append, lines, lines, ih]
    split
    · rfl
    · cases hs : lines s with
      | nil => exact absurd hs (lines_ne_nil s)
      | cons l ls => rfl

theorem lines_of_not_mem {l : List Char} (h : '\n' ∉ l) : lines l = [l] := by
  induction l with
  | nil => rfl
  | cons c l ih =>
    rw [List.mem_cons, not_or] at h
    have hc : (c == '\n') = false := by simpa using Ne.symm h.1
    simp [lines, hc, ih h.2]

/-- A piece without quotes and semicolons is no comment and opens no string. -/
theorem uncomment_append {w : List Char} (h : '"' ∉ w ∧ ';' ∉ w) (t : List Char) :
    uncomment false (w ++ t) = w ++ uncomment false t := by
  induction w with
  | nil => rfl
  | cons c w ih =>
    simp only [List.mem_cons, not_or] at h
    have hq : (c == '"') = false := by simpa using Ne.symm h.1.1
    have hs : (c == ';') = false := by simpa using Ne.symm h.2.1
    simp [uncomment, hq, hs, ih ⟨h.1.2, h.2.2⟩]

/-- A string that is closed holds no comment. -/
theorem uncomment_quoted {q : List Char} (hq : '"' ∉ q) (t : List Char) :
    uncomment false ('"' :: (q ++ '"' :: t)) = '"' :: (q ++ '"' :: uncomment false t) := by
  have hinside : uncomment true (q ++ '"' :: t) = q ++ '"' :: uncomment false t := by
    induction q with
    | nil => rfl
    | cons c q ih =>
      rw [List.mem_cons, not_or] at hq
      have hc : (c == '"') = false := by simpa using Ne.symm hq.1
      simp [uncomment, hc, ih hq.2]
  rw [uncomment, if_pos (by decide), Bool.not_false, hinside]

/-- A quote opens a string or closes it, and makes an even number of quotes odd. -/
theorem count_quote_cons_mod (inside : Bool) (t : List Char) :
    (('"' :: t).count '"' + inside.toNat) % 2 = (t.count '"' + (!inside).toNat) % 2 := by
  rw [List.count_cons_self]
  cases inside with
  | false => rfl
  | true =>
    simp only [Bool.toNat_true, Bool.not_true, Bool.toNat_false]
    omega

@[simp] theorem trimEnd_nil : trimEnd [] = [] := rfl

theorem trimEnd_append {w t : List Char} {c : Char} (hc : w.getLast? = some c)
    (hb : isBlank c = false) : trimEnd (w ++ t) = w ++ trimEnd t := by
  obtain ⟨v, rfl⟩ := List.getLast?_eq_some_iff.1 hc
  unfold trimEnd
  rw [List.reverse_append, List.dropWhile_append]
  split
  · next he =>
    rw [List.isEmpty_iff.1 he]
    simp [hb]
  · simp

theorem trimEnd_concat {c : Char} (hb : isBlank c = false) (t : List Char) :
    trimEnd (t ++ [c]) = t ++ [c] := by
  have hend := trimEnd_append (t := []) (List.getLast?_concat (l := t)) hb
  rwa [List.append_nil, trimEnd_nil, List.append_nil] at hend

theorem trimEnd_cons (c : Char) (t : List Char) :
    trimEnd (c :: t) = if trimEnd t = [] ∧ isBlank c = true then [] else c :: trimEnd t := by
  unfold trimEnd
  rw [List.reverse_cons, List.dropWhile_append]
  by_cases ht : t.reverse.dropWhile isBlank = []
  · cases hc : isBlank c <;> simp [ht, hc]
  · simp [ht]

@[simp] theorem trimEnd_trimEnd (t : List Char) : trimEnd (trimEnd t) = trimEnd t := by
  unfold trimEnd
  rw [List.reverse_reverse, List.dropWhile_idempotent]

theorem trimStart_trimEnd (t : List Char) : trimStart (trimEnd t) = trimEnd (trimStart t) := by
  induction t with
  | nil => rfl
  | cons c t ih =>
    rw [trimEnd_cons]
    cases hc : isBlank c with
    | false =>
      rw [if_neg (by simp), trimStart_cons_of_not_isBlank hc, trimStart_cons_of_not_isBlank hc,
        trimEnd_cons, if_neg (by simp [hc])]
    | true =>
      have hstart : ∀ u, trimStart (c :: u) = trimStart u := fun u => by simp [trimStart, hc]
      rw [hstart, ← ih]
      split
      · next ht => rw [ht.1]
      · exact hstart _

@[simp] theorem trim_trimEnd (t : List Char) : trim (trimEnd t) = trim t := by
  unfold trim
  rw [trimStart_trimEnd, trimEnd_trimEnd]

theorem trim_eq_self {t : List Char} (hhead : ∀ c ∈ t.head?, isBlank c = false)
    (hlast : ∀ c ∈ t.getLast?, isBlank c = false) : trim t = t := by
  cases t with
  | nil => rfl
  | cons c t =>
    obtain ⟨r, b, hr⟩ := (List.eq_nil_or_concat' (c :: t)).resolve_left (List.cons_ne_nil c t)
    rw [trim, trimStart_cons_of_not_isBlank (hhead c rfl), hr]
    exact trimEnd_concat (hlast b (by rw [hr, List.getLast?_concat]; rfl)) r

/-- What is cut off the end is white space. -/
theorem exists_trimEnd_append (t : List Char) :
    ∃ g, t = trimEnd t ++ g ∧ ∀ c ∈ g, isBlank c = true := by
  refine ⟨(t.reverse.takeWhile isBlank).reverse, ?_, fun c hc => ?_⟩
  · rw [trimEnd, ← List.reverse_append, List.takeWhile_append_dropWhile, List.reverse_reverse]
  · exact List.mem_takeWhile_imp (List.mem_reverse.1 hc)

theorem unquote_of_head? (h : (trim t).head? ≠ some '"') : unquote t = trim t := by
  unfold unquote
  split
  · next heq => exact absurd (by rw [heq]; rfl) h
  · rfl

/-- The name in a quoted string. -/
theorem unquote_quoted (t : List Char) : unquote ('"' :: (t ++ ['"'])) = trim t := by
  have htrim : trim ('"' :: (t ++ ['"'])) = '"' :: (t ++ ['"']) := by
    refine trim_eq_self (fun c hc => ?_) (fun c hc => ?_)
    · obtain rfl := Option.some.inj hc
      decide
    · rw [← List.cons_append, List.getLast?_concat] at hc
      obtain rfl := Option.some.inj hc
      decide
  rw [unquote, htrim]
  simp

theorem trim_append_of_isBlank {g : List Char} (hg : ∀ c ∈ g, isBlank c = true) (t : List Char) :
    trim (g ++ t) = trim t := by
  rw [trim, trimStart, List.dropWhile_append_of_pos hg]
  rfl

theorem trimEnd_append_of_isBlank {g : List Char} (hg : ∀ c ∈ g, isBlank c = true)
    (t : List Char) : trimEnd (t ++ g) = trimEnd t := by
  rw [trimEnd, List.reverse_append,
    List.dropWhile_append_of_pos fun c hc => hg c (List.mem_reverse.1 hc)]
  rfl

theorem trim_cons_of_isBlank {c : Char} (hc : isBlank c = true) (t : List Char) :
    trim (c :: t) = trim t := by
  simp [trim, trimStart, hc]

/-- A text that does not end in white space keeps what stands before it. -/
theorem trimEnd_append_of_ne_nil {t : List Char} (ht : trimEnd t ≠ []) (w : List Char) :
    trimEnd (w ++ t) = w ++ trimEnd t := by
  induction w with
  | nil => rfl
  | cons c w ih =>
    have hne : ¬(trimEnd (w ++ t) = [] ∧ isBlank c = true) := fun h =>
      List.append_ne_nil_of_right_ne_nil w ht (ih ▸ h.1)
    rw [List.cons_append, trimEnd_cons, if_neg hne, ih, List.cons_append]

/-- A text is what is left of it with white space on both sides. -/
theorem exists_trim (t : List Char) : ∃ g h, t = g ++ (trim t ++ h) ∧
    (∀ c ∈ g, isBlank c = true) ∧ ∀ c ∈ h, isBlank c = true := by
  obtain ⟨h, hend, hh⟩ := exists_trimEnd_append (trimStart t)
  refine ⟨t.takeWhile isBlank, h, ?_, fun c hc => List.mem_takeWhile_imp hc, hh⟩
  rw [trim, ← hend, trimStart, List.takeWhile_append_dropWhile]

theorem trim_append_append {g h : List Char} (hg : ∀ c ∈ g, isBlank c = true)
    (hh : ∀ c ∈ h, isBlank c = true) (t : List Char) : trim (g ++ (t ++ h)) = trim t := by
  rw [trim_append_of_isBlank hg, ← trim_trimEnd, trimEnd_append_of_isBlank hh, trim_trimEnd]

theorem trim_trim (t : List Char) : trim (trim t) = trim t := by
  obtain ⟨g, h, ht, hg, hh⟩ := exists_trim t
  conv_rhs => rw [ht, trim_append_append hg hh]

/-! ### A word in front -/

/-- A text of word characters. -/
def IsWordText (w : List Char) : Prop :=
  w ≠ [] ∧ w.all isWord = true

instance (w : List Char) : Decidable (IsWordText w) :=
  inferInstanceAs (Decidable (_ ∧ _))

namespace IsWordText

variable {w t : List Char}

theorem cons {c : Char} (hc : isFoldedLetter c = true) (ht : t.all isWord = true) :
    IsWordText (c :: t) := by
  refine ⟨List.cons_ne_nil c t, ?_⟩
  rw [List.all_cons, isWord_of_isFoldedLetter hc, ht]
  rfl

theorem isWord_of_mem (hw : IsWordText w) {c : Char} (hc : c ∈ w) : isWord c = true :=
  List.all_eq_true.1 hw.2 c hc

theorem not_mem (hw : IsWordText w) {c : Char} (hc : isWord c = false) : c ∉ w :=
  fun h => Bool.false_ne_true (hc.symm.trans (hw.isWord_of_mem h))

theorem uncomment_append (hw : IsWordText w) (t : List Char) :
    uncomment false (w ++ t) = w ++ uncomment false t :=
  Questline.uncomment_append ⟨hw.not_mem (by decide), hw.not_mem (by decide)⟩ t

/-- Trimming a text leaves the word in front of it. -/
theorem trim_append (hw : IsWordText w) (t : List Char) : trim (w ++ t) = w ++ trimEnd t := by
  have hblank : ∀ c ∈ w, isBlank c = false :=
    fun c hc => isBlank_eq_false_of_isWord (hw.isWord_of_mem hc)
  have hlast := hblank _ (List.getLast_mem hw.1)
  have hstart : trimStart (w ++ t) = w ++ t := by
    cases w with
    | nil => exact absurd rfl hw.1
    | cons c w => exact trimStart_cons_of_not_isBlank (hblank c List.mem_cons_self)
  rw [trim, hstart, trimEnd_append (List.getLast?_eq_some_getLast hw.1) hlast]

theorem takeWhile_append (hw : IsWordText w) (ht : ∀ c ∈ t.head?, isWord c = false) :
    (w ++ t).takeWhile isWord = w ∧ (w ++ t).dropWhile isWord = t :=
  have hall : ∀ c ∈ w, isWord c = true := fun _ => hw.isWord_of_mem
  ⟨takeWhile_append_of_stop hall ht, dropWhile_append_of_stop hall ht⟩

end IsWordText

namespace Line

/-- A keyword that makes a label, with a blank and any text after it. -/
theorem ofText_keyword {w t : List Char} {l : Label} (hw : IsWordText w)
    (hl : Label.ofKeyword? (String.ofList w).toLower (trim t) = some l) :
    ofText (trim (w ++ ' ' :: t)) = .label l (String.ofList (trim (w ++ ' ' :: t))) := by
  rw [hw.trim_append]
  have hhead : ∀ c ∈ (trimEnd (' ' :: t)).head?, isWord c = false := by
    rw [trimEnd_cons]
    split
    · simp
    · simp
      decide
  obtain ⟨htake, hdrop⟩ := hw.takeWhile_append hhead
  have hrest : trim (trimEnd (' ' :: t)) = trim t := by
    rw [trim_trimEnd, trim_cons_of_isBlank (by decide)]
  rw [ofText, htake, hdrop, hrest, hl]

/-- A keyword that makes a label on its own. -/
theorem ofText_bare {w : List Char} {l : Label} (hw : IsWordText w)
    (hl : Label.ofKeyword? (String.ofList w).toLower [] = some l) :
    ofText w = .label l (String.ofList w) := by
  obtain ⟨htake, hdrop⟩ := hw.takeWhile_append (t := []) (by simp)
  rw [List.append_nil] at htake hdrop
  rw [ofText, htake, hdrop, trim_nil, hl]

/-- A declaration of a name, which is read in lower case. -/
theorem ofText_declaration (type : VariableType) {c : Char} {t : List Char}
    (hc : isFoldedLetter c = true) (ht : t.all isWord = true) :
    ofText (trim (type.keyword.toList ++ ' ' :: c :: t)) =
      .declaration type (String.ofList (c :: t)).toLower := by
  have hw : IsWordText type.keyword.toList := by cases type <;> decide +kernel
  have hname : IsWordText (c :: t) := .cons hc ht
  have htrim : trim (c :: t) = c :: t := by simpa using hname.trim_append []
  have hend : trimEnd (c :: t) = c :: t := by
    rw [← htrim, trim, trimEnd_trimEnd]
  have hblank : trimEnd (' ' :: c :: t) = ' ' :: c :: t := by
    rw [trimEnd_cons, hend, if_neg (by simp)]
  obtain ⟨htake, hdrop⟩ := hw.takeWhile_append (t := ' ' :: c :: t) (by simp; decide)
  have hlower : type.keyword.toLower = type.keyword := by cases type <;> decide +kernel
  have hlabel : Label.ofKeyword? type.keyword (c :: t) = none := by cases type <;> rfl
  have hspace : isBlank ' ' = true := by decide
  have hread : declaration? (type.keyword.toList ++ ' ' :: c :: t) =
      some (type, (String.ofList (c :: t)).toLower) := by
    rw [declaration?, htake, hdrop, trim_cons_of_isBlank hspace, htrim, String.ofList_toList,
      hlower, VariableType.ofKeyword?_keyword]
    simp only [List.head?_cons, Option.any_some, hspace, hc, ht, Bool.and_self, if_true]
  rw [hw.trim_append, hblank, ofText, htake, hdrop, trim_cons_of_isBlank hspace, htrim,
    String.ofList_toList, hlower, hlabel, hread]

end Line

end Questline
