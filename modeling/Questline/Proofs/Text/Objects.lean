import Questline.Proofs.Text.Lines
import Questline.Text.Object

/-!
# Objects in front of a text

A word is cut off as an object in every way in which it can be cut short, so that what comes
after it is rarely an arrow or a point.

## Main definitions

* `IsObject`: how an object can be written in front of an arrow

## Main results

* `of_mem_objectTokens`: what is left after an object
* `scopeTokens_eq_nil`: a word without an arrow after it is no object
* `IsObject.head?_scopeTokens`: an object with an arrow is cut off as it was written
-/

namespace Questline

variable {w t : List Char}

theorem isObjectChar_of_isWord {c : Char} (h : isWord c = true) : isObjectChar c = true := by
  rw [isObjectChar, h]
  rfl

theorem isObjectChar_of_isBlank {c : Char} (h : isBlank c = true) : isObjectChar c = false := by
  have hall : blanks.all (fun c => !isObjectChar c) = true := by decide +kernel
  exact Bool.not_eq_true' _ ▸ List.all_eq_true.1 hall c (mem_blanks h)

theorem IsWordText.head?_ne (hw : IsWordText w) {c : Char} (hc : isWord c = false)
    (t : List Char) : ∀ d ∈ (w ++ t).head?, d ≠ c := by
  obtain ⟨a, v, rfl⟩ := List.exists_cons_of_ne_nil hw.1
  intro d hd hdc
  obtain rfl := Option.some.inj hd
  exact hw.not_mem hc (hdc ▸ List.mem_cons_self)

/-- What is left of characters of an object after an object was cut off, white space not counted,
starts with one of them or is what comes after them. -/
theorem of_mem_objectTokens (hw : ∀ c ∈ w, isObjectChar c = true) (hne : w ≠ [])
    (ht : ∀ c ∈ t.head?, isObjectChar c = false) {s : List Char × List Char}
    (hs : s ∈ objectTokens (w ++ t)) :
    trimStart s.2 = trimStart t ∨ ∃ c r, trimStart s.2 = c :: r ∧ c ∈ w := by
  have hquote : ∀ c ∈ (w ++ t).head?, c ≠ '"' := by
    rw [List.head?_append_of_ne_nil _ hne]
    intro c hc hquote
    have hchar := hw c (List.mem_of_mem_head? hc)
    rw [hquote] at hchar
    exact absurd hchar (by decide)
  rw [objectTokens, stringToken?_eq_none hquote] at hs
  obtain ⟨v, rfl, hv⟩ := exists_of_mem_runs ht hs
  rw [hv]
  cases v with
  | nil => exact .inl rfl
  | cons c v =>
    have hc : c ∈ s.1 ++ c :: v := List.mem_append_right s.1 List.mem_cons_self
    refine .inr ⟨c, v ++ t, ?_, hc⟩
    rw [List.cons_append, trimStart_cons_of_not_isBlank]
    rw [← Bool.not_eq_true]
    exact fun hb => Bool.false_ne_true ((isObjectChar_of_isBlank hb).symm.trans (hw c hc))

/-- A character that is neither among the characters of an object nor after them is not what
follows an object. -/
theorem head?_ne_of_not_mem (hw : ∀ c ∈ w, isObjectChar c = true) (hne : w ≠ [])
    (ht : ∀ c ∈ t.head?, isObjectChar c = false) {d : Char} (hd : d ∉ w)
    (htd : (trimStart t).head? ≠ some d) {s : List Char × List Char}
    (hs : s ∈ objectTokens (w ++ t)) : (trimStart s.2).head? ≠ some d := by
  obtain h | ⟨c, r, h, hc⟩ := of_mem_objectTokens hw hne ht hs
  · rwa [h]
  · rw [h, List.head?_cons]
    intro hcd
    obtain rfl := Option.some.inj hcd
    exact hd hc

/-- A character that is not in the word and not after it is not what follows an object. -/
theorem head?_ne_of_mem_objectTokens (hw : IsWordText w)
    (ht : ∀ c ∈ t.head?, isObjectChar c = false) {d : Char} (hd : isWord d = false)
    (htd : (trimStart t).head? ≠ some d) {s : List Char × List Char}
    (hs : s ∈ objectTokens (w ++ t)) : (trimStart s.2).head? ≠ some d :=
  head?_ne_of_not_mem (fun _ hc => isObjectChar_of_isWord (hw.isWord_of_mem hc)) hw.1 ht
    (hw.not_mem hd) htd hs

theorem stripLiteral?_eq_none {a : Char} {p t : List Char} (h : t.head? ≠ some a) :
    stripLiteral? (a :: p) t = none := by
  cases t with
  | nil => rfl
  | cons c t =>
    have hac : (a == c) = false := by simpa using fun hac : a = c => h (by rw [hac]; rfl)
    rw [stripLiteral?, hac]
    rfl

/-- A word without an arrow after it is no object. -/
theorem scopeTokens_eq_nil (hw : IsWordText w) (ht : ∀ c ∈ t.head?, isObjectChar c = false)
    (harrow : (trimStart t).head? ≠ some '-') : scopeTokens (w ++ t) = [] := by
  rw [scopeTokens, List.filterMap_eq_nil_iff]
  intro s hs
  have hhead := head?_ne_of_mem_objectTokens hw ht (by decide) harrow hs
  rw [afterArrow?, stripLiteral?_eq_none hhead]
  rfl

/-! ### Objects with an arrow -/

/-- How an object can be written in front of an arrow: in quotes, or as a word. -/
inductive IsObject : List Char → Prop
  | quoted {n : List Char} (hn : '"' ∉ n) (hne : n ≠ []) : IsObject ('"' :: (n ++ ['"']))
  | word {w : List Char} (hw : IsWordText w) : IsObject w

section

variable {g n : List Char}

theorem trimStart_arrow (hg : ∀ c ∈ g, isBlank c = true) (t : List Char) :
    trimStart (g ++ '-' :: '>' :: t) = '-' :: '>' :: t :=
  dropWhile_append_of_stop hg (by simp; decide)

theorem afterArrow?_arrow (hg : ∀ c ∈ g, isBlank c = true) (t : List Char) :
    afterArrow? (g ++ '-' :: '>' :: t) = some t := by
  rw [afterArrow?, trimStart_arrow hg]
  rfl

theorem objectTokens_quoted (hn : '"' ∉ n) (hne : n ≠ []) (t : List Char) :
    objectTokens ('"' :: (n ++ ['"']) ++ t) = [('"' :: (n ++ ['"']), t)] := by
  have hruns : runs isObjectChar isObjectChar ('"' :: (n ++ '"' :: t)) = [] :=
    runs_eq_nil (by simp; decide)
  have hlength : ('"' :: (n ++ ['"'])).length > 2 := by
    have := List.length_pos_of_ne_nil hne
    simp
    omega
  have hassoc : '"' :: (n ++ ['"']) ++ t = '"' :: (n ++ '"' :: t) := by simp
  rw [hassoc, objectTokens, stringToken?_append hn, Option.filter_some,
    if_pos (decide_eq_true hlength), hruns]
  rfl

/-- An object with an arrow is cut off as it was written. -/
theorem IsObject.head?_scopeTokens {o : List Char} (ho : IsObject o)
    (hg : ∀ c ∈ g, isBlank c = true) (t : List Char) :
    (scopeTokens (o ++ (g ++ '-' :: '>' :: t))).head? = some (o, t) := by
  have harrow := afterArrow?_arrow hg t
  rw [scopeTokens, List.head?_filterMap]
  cases ho with
  | quoted hn hne =>
    rw [objectTokens_quoted hn hne, List.findSome?_cons, harrow]
    rfl
  | word hw =>
    have hchar : ∀ c ∈ o, isObjectChar c = true :=
      fun _ hc => isObjectChar_of_isWord (hw.isWord_of_mem hc)
    have hquote : ∀ u, ∀ c ∈ (o ++ u).head?, c ≠ '"' := hw.head?_ne (by decide)
    rw [objectTokens, stringToken?_eq_none (hquote _)]
    cases g with
    | nil =>
      -- the hyphen of the arrow goes to the object first
      have hstop : ∀ c ∈ ('>' :: t).head?, isObjectChar c = false := by
        simp
        decide
      have hhyphen : isObjectChar '-' = true := by decide
      obtain ⟨l, hl⟩ := exists_runs_append_cons hchar hw.1 hhyphen hstop
      rw [List.nil_append, hl]
      rfl
    | cons b g =>
      have hstop : ∀ c ∈ (b :: g ++ '-' :: '>' :: t).head?, isObjectChar c = false := by
        intro c hc
        obtain rfl := Option.some.inj hc
        exact isObjectChar_of_isBlank (hg _ List.mem_cons_self)
      obtain ⟨a, v, rfl⟩ := List.exists_cons_of_ne_nil hw.1
      rw [List.forall_mem_cons] at hchar
      have hhead : (runs isObjectChar isObjectChar (a :: v ++ (b :: g ++ '-' :: '>' :: t))).head? =
          some (a :: v, b :: g ++ '-' :: '>' :: t) := by
        rw [List.cons_append, head?_runs hchar.1, takeWhile_append_of_stop hchar.2 hstop,
          dropWhile_append_of_stop hchar.2 hstop]
      refine findSome?_of_head? hhead ?_
      rw [harrow]
      rfl

/-- An object with an arrow is no object with a point. -/
theorem IsObject.head?_ne_point {o : List Char} (ho : IsObject o)
    (hg : ∀ c ∈ g, isBlank c = true) {t : List Char} {s : List Char × List Char}
    (hs : s ∈ objectTokens (o ++ (g ++ '-' :: '>' :: t))) : (trimStart s.2).head? ≠ some '.' := by
  cases ho with
  | quoted hn hne =>
    rw [objectTokens_quoted hn hne] at hs
    obtain rfl := List.mem_singleton.1 hs
    rw [trimStart_arrow hg]
    simp
  | word hw =>
    have hchar : ∀ c ∈ o, isObjectChar c = true :=
      fun _ hc => isObjectChar_of_isWord (hw.isWord_of_mem hc)
    have hpoint : '.' ∉ o := hw.not_mem (by decide)
    cases g with
    | nil =>
      have hassoc : o ++ ([] ++ '-' :: '>' :: t) = (o ++ ['-']) ++ '>' :: t := by simp
      rw [hassoc] at hs
      refine head?_ne_of_not_mem ?_ ?_ ?_ ?_ ?_ hs
      · exact List.forall_mem_append.2 ⟨hchar, by simp; decide⟩
      · simp
      · simp
        decide
      · simpa using hpoint
      · rw [trimStart_cons_of_not_isBlank (by decide)]
        simp
    | cons b g =>
      refine head?_ne_of_not_mem hchar hw.1 ?_ hpoint ?_ hs
      · intro c hc
        obtain rfl := Option.some.inj hc
        exact isObjectChar_of_isBlank (hg _ List.mem_cons_self)
      · rw [trimStart_arrow hg]
        simp

end

end Questline
