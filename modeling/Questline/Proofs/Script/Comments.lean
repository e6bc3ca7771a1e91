import Mathlib.Logic.Relation
import Questline.Proofs.Text.Lines
import Questline.Script.Layout

/-!
# Comments, blank lines and white space

A script is read from the texts of its lines, without their comments and the white space around
them, and lines of which nothing is left are dropped. So nobody sees whether lines like this come
or go, how lines are indented or ended, and what is written into comments. A semicolon in a string
does not begin a comment.

## Main definitions

* `IsIdle`: a line of which nothing is left
* `LineEdit`, `SourceEdit`: changes to a line and to a source that nobody sees

## Main results

* `exists_uncomment_append`: where a line is cut
* `SourceEdit.sourceTexts_eq`: a change keeps what is left of a source
* `Tree.parse_of_edits`: the tree of a source after such changes
-/

namespace Questline

variable {inside : Bool} {s t l c g h : List Char}

/-! ### Where a line is cut -/

theorem uncomment_quote : uncomment inside ('"' :: l) = '"' :: uncomment (!inside) l := rfl

theorem uncomment_semicolon : uncomment false (';' :: l) = [] := rfl

theorem uncomment_cons {a : Char} (hquote : a ≠ '"') (hcut : ¬(a = ';' ∧ inside = false)) :
    uncomment inside (a :: l) = a :: uncomment inside l := by
  cases inside with
  | false => simp_all [uncomment]
  | true => simp [uncomment, hquote]

/-- A line is cut nowhere but before a semicolon outside strings, and none of these is left: each
semicolon that is left stands in a string. Strings are counted by the quotes before them. -/
theorem exists_uncomment_append (inside : Bool) (l : List Char) :
    ∃ rest, l = uncomment inside l ++ rest ∧
      (rest = [] ∨ ∃ c, rest = ';' :: c ∧
        ((uncomment inside l).count '"' + inside.toNat) % 2 = 0) ∧
      ∀ u v, uncomment inside l = u ++ ';' :: v → (u.count '"' + inside.toNat) % 2 = 1 := by
  induction l generalizing inside with
  | nil => exact ⟨[], rfl, .inl rfl, fun u v h => by simp [uncomment] at h⟩
  | cons a l ih =>
    obtain rfl | hquote := eq_or_ne a '"'
    · obtain ⟨rest, hl, hrest, hleft⟩ := ih (!inside)
      refine ⟨rest, congrArg ('"' :: ·) hl, ?_, fun u v huv => ?_⟩
      · rwa [uncomment_quote, count_quote_cons_mod]
      · rw [uncomment_quote, List.cons_eq_append_iff] at huv
        obtain ⟨-, h⟩ | ⟨u, rfl, huv⟩ := huv
        · cases h
        · rw [count_quote_cons_mod]
          exact hleft u v huv
    · by_cases hcut : a = ';' ∧ inside = false
      · obtain ⟨rfl, rfl⟩ := hcut
        exact ⟨';' :: l, rfl, .inr ⟨l, rfl, rfl⟩, fun u v h => by simp [uncomment_semicolon] at h⟩
      · obtain ⟨rest, hl, hrest, hleft⟩ := ih inside
        rw [uncomment_cons hquote hcut, List.count_cons_of_ne hquote]
        refine ⟨rest, congrArg (a :: ·) hl, hrest, fun u v huv => ?_⟩
        rw [List.cons_eq_append_iff] at huv
        obtain ⟨rfl, h⟩ | ⟨u, rfl, huv⟩ := huv
        · obtain ⟨rfl, -⟩ := List.cons.inj h
          cases inside with
          | false => exact absurd ⟨rfl, rfl⟩ hcut
          | true => rfl
        · rw [List.count_cons_of_ne hquote]
          exact hleft u v huv

/-- A comment that is put behind a closed string, or where there is one already, is cut off. -/
theorem uncomment_append_comment
    (hclosed : ((uncomment inside l).count '"' + inside.toNat) % 2 = 0) (c : List Char) :
    uncomment inside (l ++ ';' :: c) = uncomment inside l := by
  induction l generalizing inside with
  | nil =>
    cases inside with
    | false => rfl
    | true => cases hclosed
  | cons a l ih =>
    obtain rfl | hquote := eq_or_ne a '"'
    · rw [uncomment_quote, count_quote_cons_mod] at hclosed
      rw [List.cons_append, uncomment_quote, uncomment_quote, ih hclosed]
    · by_cases hcut : a = ';' ∧ inside = false
      · obtain ⟨rfl, rfl⟩ := hcut
        rfl
      · rw [uncomment_cons hquote hcut, List.count_cons_of_ne hquote] at hclosed
        rw [List.cons_append, uncomment_cons hquote hcut, uncomment_cons hquote hcut, ih hclosed]

theorem uncomment_of_isBlank (hh : ∀ a ∈ h, isBlank a = true) (inside : Bool) :
    uncomment inside h = h := by
  induction h with
  | nil => rfl
  | cons a h ih =>
    obtain ⟨ha, hh⟩ := List.forall_mem_cons.1 hh
    have hne : a ≠ '"' ∧ a ≠ ';' := by
      constructor <;> rintro rfl <;> exact absurd ha (by decide)
    rw [uncomment_cons hne.1 fun hcut => hne.2 hcut.1, ih hh]

/-- White space behind a line stays there, or is cut off with a comment. -/
theorem exists_uncomment_append_blanks (hh : ∀ a ∈ h, isBlank a = true) (inside : Bool)
    (l : List Char) : ∃ g, (∀ a ∈ g, isBlank a = true) ∧
      uncomment inside (l ++ h) = uncomment inside l ++ g := by
  induction l generalizing inside with
  | nil => exact ⟨h, hh, uncomment_of_isBlank hh inside⟩
  | cons a l ih =>
    obtain rfl | hquote := eq_or_ne a '"'
    · obtain ⟨g, hg, hl⟩ := ih (!inside)
      exact ⟨g, hg, congrArg ('"' :: ·) hl⟩
    · by_cases hcut : a = ';' ∧ inside = false
      · obtain ⟨rfl, rfl⟩ := hcut
        exact ⟨[], nofun, rfl⟩
      · obtain ⟨g, hg, hl⟩ := ih inside
        refine ⟨g, hg, ?_⟩
        rw [List.cons_append, uncomment_cons hquote hcut, uncomment_cons hquote hcut, hl,
          List.cons_append]

/-- White space around a line does not matter. -/
theorem trim_uncomment_append_append (hg : ∀ a ∈ g, isBlank a = true)
    (hh : ∀ a ∈ h, isBlank a = true) (l : List Char) :
    trim (uncomment false (g ++ (l ++ h))) = trim (uncomment false l) := by
  have hplain : '"' ∉ g ∧ ';' ∉ g :=
    ⟨fun hmem => absurd (hg _ hmem) (by decide), fun hmem => absurd (hg _ hmem) (by decide)⟩
  obtain ⟨h', hh', hcut⟩ := exists_uncomment_append_blanks hh false l
  rw [uncomment_append hplain, hcut, trim_append_append hg hh']

/-! ### Lines and sources -/

/-- Nothing, or the end of a line. -/
def EndsLine (s : List Char) : Prop :=
  ∀ a ∈ s.getLast?, a = '\n'

/-- Nothing, or what follows a line. -/
def FollowsLine (t : List Char) : Prop :=
  ∀ a ∈ t.head?, a = '\n'

/-- A line of which nothing is left: white space, and a comment if there is one. -/
def IsIdle (l : List Char) : Prop :=
  '\n' ∉ l ∧ ∀ a ∈ (trimStart l).head?, a = ';'

/-- White space within a line. -/
def IsLineSpace (g : List Char) : Prop :=
  '\n' ∉ g ∧ ∀ a ∈ g, isBlank a = true

/-- A change to a line that nobody sees. -/
inductive LineEdit : List Char → List Char → Prop
  /-- Other white space around a line. -/
  | space {g h g' h' l : List Char} (hg : IsLineSpace g) (hh : IsLineSpace h)
      (hg' : IsLineSpace g') (hh' : IsLineSpace h') (hl : '\n' ∉ l) :
      LineEdit (g ++ (l ++ h)) (g' ++ (l ++ h'))
  /-- A comment behind a line, when the strings before its first comment are closed. -/
  | comment {l c : List Char} (hl : '\n' ∉ l) (hc : '\n' ∉ c)
      (hclosed : (uncomment false l).count '"' % 2 = 0) : LineEdit l (l ++ ';' :: c)

/-- A change to a source that nobody sees. -/
inductive SourceEdit : List Char → List Char → Prop
  /-- A change to one of its lines. -/
  | line {s l l' t : List Char} (hs : EndsLine s) (ht : FollowsLine t) (hl : LineEdit l l') :
      SourceEdit (s ++ (l ++ t)) (s ++ (l' ++ t))
  /-- A line of which nothing is left, in front of a line. -/
  | insert {s l t : List Char} (hs : EndsLine s) (hl : IsIdle l) :
      SourceEdit (s ++ t) (s ++ (l ++ '\n' :: t))
  /-- A line of which nothing is left, at the end. -/
  | append {s l : List Char} (hl : IsIdle l) : SourceEdit s (s ++ '\n' :: l)
  /-- The other way to end a line. -/
  | carriageReturn {s t : List Char} : SourceEdit (s ++ '\n' :: t) (s ++ '\r' :: '\n' :: t)

theorem sourceTexts_append_break (s t : List Char) :
    sourceTexts (s ++ '\n' :: t) = sourceTexts s ++ sourceTexts t := by
  rw [sourceTexts, lines_append_break, List.map_append, List.filter_append]
  rfl

theorem EndsLine.sourceTexts_append (hs : EndsLine s) (t : List Char) :
    sourceTexts (s ++ t) = sourceTexts s ++ sourceTexts t := by
  obtain rfl | ⟨u, a, rfl⟩ := List.eq_nil_or_concat' s
  · rfl
  · obtain rfl := hs a (by rw [List.getLast?_concat]; rfl)
    have hnil : sourceTexts ([] : List Char) = [] := rfl
    rw [List.append_assoc, List.singleton_append, sourceTexts_append_break,
      sourceTexts_append_break, hnil, List.append_nil]

theorem FollowsLine.sourceTexts_append (ht : FollowsLine t) (s : List Char) :
    sourceTexts (s ++ t) = sourceTexts s ++ sourceTexts t := by
  cases t with
  | nil =>
    rw [List.append_nil]
    exact (List.append_nil _).symm
  | cons a t =>
    obtain rfl := ht a rfl
    have hbreak := sourceTexts_append_break [] t
    rw [List.nil_append] at hbreak
    rw [sourceTexts_append_break, hbreak]
    rfl

/-- What is left of a line. -/
theorem sourceTexts_of_not_mem (hl : '\n' ∉ l) :
    sourceTexts l = [trim (uncomment false l)].filter (!·.isEmpty) := by
  rw [sourceTexts, lines_of_not_mem hl, List.map_singleton]

theorem IsIdle.sourceTexts_eq (hl : IsIdle l) : sourceTexts l = [] := by
  obtain ⟨hbreak, hhead⟩ := hl
  have hblank : ∀ a ∈ l.takeWhile isBlank, isBlank a = true :=
    fun a ha => List.mem_takeWhile_imp ha
  have hcut : uncomment false (trimStart l) = [] := by
    cases hstart : trimStart l with
    | nil => rfl
    | cons a r =>
      obtain rfl := hhead a (by rw [hstart]; rfl)
      rfl
  have htrim : trim (uncomment false l) = [] := by
    have hspace := trim_uncomment_append_append (h := []) hblank nofun (trimStart l)
    rwa [List.append_nil, trimStart, List.takeWhile_append_dropWhile, ← trimStart, hcut,
      trim_nil] at hspace
  rw [sourceTexts_of_not_mem hbreak, htrim]
  rfl

namespace LineEdit

variable {l' : List Char}

theorem not_mem (h : LineEdit l l') : '\n' ∉ l ∧ '\n' ∉ l' := by
  cases h with
  | space hg hh hg' hh' hl =>
    simp only [List.mem_append, not_or]
    exact ⟨⟨hg.1, hl, hh.1⟩, hg'.1, hl, hh'.1⟩
  | comment hl hc _ =>
    refine ⟨hl, ?_⟩
    rw [List.mem_append, List.mem_cons, not_or, not_or]
    exact ⟨hl, by decide, hc⟩

theorem sourceTexts_eq (h : LineEdit l l') : sourceTexts l = sourceTexts l' := by
  obtain ⟨hl, hl'⟩ := h.not_mem
  rw [sourceTexts_of_not_mem hl, sourceTexts_of_not_mem hl']
  cases h with
  | space hg hh hg' hh' _ =>
    rw [trim_uncomment_append_append hg.2 hh.2, trim_uncomment_append_append hg'.2 hh'.2]
  | @comment l c _ _ hclosed =>
    have hclosed : ((uncomment false l).count '"' + false.toNat) % 2 = 0 := hclosed
    rw [uncomment_append_comment hclosed]

end LineEdit

/-- A source ends in a line, which may be empty. -/
theorem exists_last_line (s : List Char) : ∃ s' l, s = s' ++ l ∧ EndsLine s' ∧ '\n' ∉ l := by
  induction s with
  | nil => exact ⟨[], [], rfl, nofun, nofun⟩
  | cons a s ih =>
    obtain ⟨s', l, rfl, hs, hl⟩ := ih
    cases s' with
    | cons b s' => exact ⟨a :: b :: s', l, rfl, by rwa [EndsLine, List.getLast?_cons_cons], hl⟩
    | nil =>
      obtain rfl | ha := eq_or_ne a '\n'
      · exact ⟨['\n'], l, rfl, by simp [EndsLine], hl⟩
      · exact ⟨[], a :: l, rfl, nofun, List.not_mem_cons_of_ne_of_not_mem ha.symm hl⟩

/-- A change that nobody sees keeps what is left of a source. -/
theorem SourceEdit.sourceTexts_eq {s s' : List Char} (h : SourceEdit s s') :
    sourceTexts s = sourceTexts s' := by
  cases h with
  | line hs ht hl =>
    rw [hs.sourceTexts_append, hs.sourceTexts_append, ht.sourceTexts_append,
      ht.sourceTexts_append, hl.sourceTexts_eq]
  | insert hs hl =>
    rw [hs.sourceTexts_append, hs.sourceTexts_append, sourceTexts_append_break,
      hl.sourceTexts_eq, List.nil_append]
  | append hl => rw [sourceTexts_append_break, hl.sourceTexts_eq, List.append_nil]
  | @carriageReturn s t =>
    obtain ⟨s', l, rfl, hs, hl⟩ := exists_last_line s
    have hspace : LineEdit l (l ++ ['\r']) := by
      have hnil : IsLineSpace [] := ⟨nofun, nofun⟩
      have h : LineEdit ([] ++ (l ++ [])) ([] ++ (l ++ ['\r'])) :=
        .space hnil hnil hnil ⟨by decide, forall_mem_of_all (by decide)⟩ hl
      rwa [List.append_nil] at h
    have hreturn : s' ++ l ++ '\r' :: '\n' :: t = s' ++ (l ++ ['\r']) ++ '\n' :: t := by
      simp only [List.append_assoc, List.singleton_append]
    rw [hreturn, sourceTexts_append_break, sourceTexts_append_break, hs.sourceTexts_append,
      hs.sourceTexts_append, hspace.sourceTexts_eq]

theorem sourceTexts_eq_of_edits {s s' : List Char} (h : Relation.EqvGen SourceEdit s s') :
    sourceTexts s = sourceTexts s' := by
  induction h with
  | rel _ _ hedit => exact hedit.sourceTexts_eq
  | refl _ => rfl
  | symm _ _ _ ih => exact ih.symm
  | trans _ _ _ _ _ ih ih' => exact ih.trans ih'

/-! ### Trees -/

/-- Changes to a source that nobody sees, as many as there may be, forwards and backwards, keep
the tree and what was noted on the way: lines of which nothing is left can come and go, white
space around lines can change, lines can be ended in either way, and comments can be put behind
lines whose strings are closed. And where a line is cut stands a semicolon outside strings; each
semicolon that is left of it stands in a string. -/
theorem Tree.parse_of_edits {source source' : String}
    (h : Relation.EqvGen SourceEdit source.toList source'.toList) (t : Translator) :
    Tree.parse source t = Tree.parse source' t ∧
    ∀ l, ∃ rest, l = uncomment false l ++ rest ∧
      (rest = [] ∨ ∃ c, rest = ';' :: c ∧ (uncomment false l).count '"' % 2 = 0) ∧
      ∀ u v, uncomment false l = u ++ ';' :: v → u.count '"' % 2 = 1 := by
  refine ⟨?_, exists_uncomment_append false⟩
  rw [parse, parse, sourceLines, sourceLines, sourceTexts_eq_of_edits h]

def plainScript : String :=
  "begin t\nsay \"a;b\"\nend"

/-- The same script with two comments, one of them on a line of its own, with white space around a
line, and with another line ending. -/
def dressedScript : String :=
  "begin t; the \"name\r\n  ; idle\n\t say \"a;b\" \nend"

theorem plainScript_parse_of_edits :
    Relation.EqvGen SourceEdit plainScript.toList dressedScript.toList ∧
    Tree.parse plainScript {} = Tree.parse dressedScript {} ∧
    (Tree.parse dressedScript {}).1.blocks.toList.flatMap (·.lines) = ["say \"a;b\""] := by
  have hedits : Relation.EqvGen SourceEdit plainScript.toList dressedScript.toList := by
    let front := "begin t; the \"name".toList
    let rest := "say \"a;b\"\nend".toList
    have hcomment : SourceEdit plainScript.toList (front ++ '\n' :: rest) :=
      .line (s := []) (l := "begin t".toList) (t := '\n' :: rest) nofun (by simp [FollowsLine])
        (.comment (c := " the \"name".toList) (by decide) (by decide) (by decide))
    have hreturn : SourceEdit (front ++ '\n' :: rest) (front ++ '\r' :: '\n' :: rest) :=
      .carriageReturn
    have hidle : IsIdle "  ; idle".toList := by
      have hhead : (trimStart "  ; idle".toList).head? = some ';' := by decide
      refine ⟨by decide, fun a ha => ?_⟩
      rw [hhead] at ha
      exact (Option.some.inj ha).symm
    have hinsert : SourceEdit (front ++ '\r' :: '\n' :: rest)
        (front ++ '\r' :: '\n' :: ("  ; idle".toList ++ '\n' :: rest)) :=
      .insert (s := front ++ ['\r', '\n']) (l := "  ; idle".toList) (t := rest)
        (by simp [EndsLine]) hidle
    have hnil : IsLineSpace [] := ⟨nofun, nofun⟩
    have hline : LineEdit ([] ++ ("say \"a;b\"".toList ++ []))
        ("\t ".toList ++ ("say \"a;b\"".toList ++ " ".toList)) :=
      .space hnil hnil ⟨by decide, forall_mem_of_all (by decide)⟩
        ⟨by decide, forall_mem_of_all (by decide)⟩ (by decide)
    have hspace : SourceEdit (front ++ '\r' :: '\n' :: ("  ; idle".toList ++ '\n' :: rest))
        dressedScript.toList :=
      .line (s := front ++ "\r\n  ; idle\n".toList) (t := "\nend".toList)
        (by simp [EndsLine]) (by simp [FollowsLine]) hline
    exact .trans _ _ _ (.rel _ _ hcomment) (.trans _ _ _ (.rel _ _ hreturn)
      (.trans _ _ _ (.rel _ _ hinsert) (.rel _ _ hspace)))
  exact ⟨hedits, (Tree.parse_of_edits hedits {}).1, by decide +kernel⟩

end Questline
