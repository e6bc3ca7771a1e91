import Questline.Proofs.Text.Lines
import Questline.Text.Folded

/-!
# Words in any letter case

A literal is met by the texts that fold like it. For a word of ASCII letters these are its
spellings in ASCII, except that the long s and the Kelvin sign fold to ASCII letters too.

## Main results

* `le_toNat_foldCase`: what folds to ASCII from outside
* `foldCase_eq_of_toLower`, `toLower_eq_of_foldCase`: folding in ASCII is lower case
* `matchFolded?_append`, `map_foldCase_of_matchFolded?`: the texts that meet a literal
* `isInfix_map_toLower_of_matchFolded?`: a piece of a literal is there in lower case
-/

namespace Questline

variable {c p : Char} {w v t : List Char}

/-! ### Letters -/

theorem toNat_ofNat {n : Nat} (h : n.isValidChar) : (Char.ofNat n).toNat = n := by
  rw [Char.ofNat, dif_pos h]
  rfl

/-- Outside ASCII only the long s and the Kelvin sign fold to ASCII letters. -/
theorem le_toNat_foldCase (h : 0x80 ≤ c.toNat) :
    foldCase c = 's' ∨ foldCase c = 'k' ∨ 0x80 ≤ (foldCase c).toNat := by
  -- the images of a run lie outside ASCII and are code points, unless it is one of the two
  have hruns : ∀ r ∈ foldRuns, r.last < 0x80 ∨
      (r.first = r.last ∧ (Char.ofNat r.image = 's' ∨ Char.ofNat r.image = 'k')) ∨
      (0x80 ≤ r.image ∧ (r.image + (r.last - r.first) < 0xD800 ∨
        (0xDFFF < r.image ∧ r.image + (r.last - r.first) < 0x110000))) := by
    decide +kernel
  rw [foldCase, if_neg (Nat.not_lt.2 h)]
  cases himage : foldRuns.findSome? (·.imageOf? c.toNat) with
  | none => exact .inr (.inr h)
  | some n =>
    obtain ⟨r, hr, hn⟩ := List.exists_of_findSome?_eq_some himage
    unfold FoldRun.imageOf? at hn
    split at hn
    · next hrun =>
      obtain rfl := Option.some.inj hn
      rw [Option.map_some, Option.getD_some]
      obtain hascii | ⟨hone, hletter⟩ | ⟨himage, hvalid⟩ := hruns r hr
      · omega
      · rw [show r.image + (c.toNat - r.first) = r.image by omega, ← or_assoc]
        exact .inl hletter
      · have hchar : (r.image + (c.toNat - r.first)).isValidChar := by
          unfold Nat.isValidChar
          omega
        rw [toNat_ofNat hchar]
        omega
    · cases hn

theorem toLower_eq_self (h : 0x80 ≤ c.toNat) : c.toLower = c := by
  unfold Char.toLower
  refine dif_neg fun hupper => ?_
  have hZ : c.toNat ≤ 90 := UInt32.le_iff_toNat_le.1 hupper.2
  omega

/-- A character with an ASCII letter for its lower case folds to it. -/
theorem foldCase_eq_of_toLower (hp : p.toNat < 0x80) (h : c.toLower = p) : foldCase c = p := by
  by_cases hc : c.toNat < 0x80
  · rw [foldCase_of_ascii hc, h]
  · rw [toLower_eq_self (Nat.le_of_not_lt hc)] at h
    exact absurd (h ▸ hp) hc

/-- A character that folds to an ASCII letter has it for its lower case, but for two letters. -/
theorem toLower_eq_of_foldCase (hp : p.toNat < 0x80) (hs : p ≠ 's') (hk : p ≠ 'k')
    (h : foldCase c = p) : c.toLower = p := by
  by_cases hc : c.toNat < 0x80
  · rw [← foldCase_of_ascii hc, h]
  · have houtside := le_toNat_foldCase (Nat.le_of_not_lt hc)
    rw [h] at houtside
    obtain h | h | h := houtside
    · exact absurd h hs
    · exact absurd h hk
    · omega

theorem map_foldCase_of_map_toLower {q : List Char} (hq : ∀ c ∈ q, c.toNat < 0x80)
    (h : w.map Char.toLower = q) : w.map foldCase = q := by
  rw [← h]
  refine List.map_congr_left fun c hc => foldCase_eq_of_toLower (hq _ ?_) rfl
  exact h ▸ List.mem_map_of_mem hc

/-! ### Literals -/

/-- A text that folds like a literal meets it. -/
theorem matchFolded?_append {q : List Char} (h : w.map foldCase = q.map foldCase)
    (t : List Char) : matchFolded? q (w ++ t) = some (w, t) := by
  induction q generalizing w with
  | nil =>
    obtain rfl := List.map_eq_nil_iff.1 h
    cases t <;> rfl
  | cons a q ih =>
    obtain ⟨c, w, rfl, hc, hw⟩ := List.map_eq_cons_iff.1 h
    have hsame : sameUpToCase a c = true := by rw [sameUpToCase, hc, beq_self_eq_true]
    rw [List.cons_append, matchFolded?, if_pos hsame, ih hw]
    rfl

/-- What meets a literal folds like it. -/
theorem map_foldCase_of_matchFolded? {q : List Char} {s : List Char × List Char}
    (h : matchFolded? q t = some s) : s.1.map foldCase = q.map foldCase := by
  fun_induction matchFolded? q t generalizing s with
  | case1 => cases h; rfl
  | case2 => cases h
  | case3 a q c t hsame ih =>
    obtain ⟨u, hu, rfl⟩ := Option.map_eq_some_iff.1 h
    rw [List.map_cons, List.map_cons, ih hu, ← eq_of_beq hsame]
  | case4 => cases h

/-- A text whose first letter folds differently does not meet a literal. -/
theorem matchFolded?_eq_none {q : List Char} (hq : q ≠ []) (hw : w ≠ [])
    (h : (q.map foldCase).head? ≠ (w.map foldCase).head?) (t : List Char) :
    matchFolded? q (w ++ t) = none := by
  obtain ⟨a, q, rfl⟩ := List.exists_cons_of_ne_nil hq
  obtain ⟨b, w, rfl⟩ := List.exists_cons_of_ne_nil hw
  have hsame : sameUpToCase a b = false := beq_eq_false_iff_ne.2 fun hab => h (congrArg some hab)
  rw [List.cons_append, matchFolded?, hsame]
  rfl

/-- A text in which a literal is met has any piece of the literal in lower case, as long as
no letter of the piece is met outside ASCII. -/
theorem isInfix_map_toLower_of_matchFolded? {q : List Char} {s : List Char × List Char}
    (hv : ∀ c ∈ v, c.toNat < 0x80 ∧ c ≠ 's' ∧ c ≠ 'k') (hq : v <:+: q.map foldCase)
    (h : matchFolded? q t = some s) : v <:+: t.map Char.toLower := by
  obtain ⟨before, after, hcut⟩ := hq
  rw [← map_foldCase_of_matchFolded? h] at hcut
  obtain ⟨b, e, hbe, hb, -⟩ := List.map_eq_append_iff.1 hcut.symm
  obtain ⟨a, w, rfl, -, hw⟩ := List.map_eq_append_iff.1 hb
  have hlower : w.map Char.toLower = v := by
    rw [← hw]
    refine List.map_congr_left fun c hc => ?_
    obtain ⟨hascii, hs, hk⟩ := hv _ (hw ▸ List.mem_map_of_mem hc)
    exact toLower_eq_of_foldCase hascii hs hk rfl
  refine ⟨a.map Char.toLower, (e ++ s.2).map Char.toLower, ?_⟩
  rw [← append_of_matchFolded? h, hbe, ← hlower]
  simp only [List.map_append, List.append_assoc]

/-- A word ends where no word character follows. -/
theorem endsWord_of_isWordText (hw : IsWordText w) (ht : ∀ c ∈ t.head?, isWord c = false) :
    endsWord w t = true := by
  have hlast : w.getLast?.any isWord = true := by
    rw [List.getLast?_eq_some_getLast hw.1]
    exact hw.isWord_of_mem (List.getLast_mem hw.1)
  have hhead : t.head?.any isWord = false := by
    cases t with
    | nil => rfl
    | cons c t => exact ht c rfl
  rw [endsWord, hlast, hhead]
  rfl

end Questline
