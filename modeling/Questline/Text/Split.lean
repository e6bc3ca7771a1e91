import Questline.Text.CharClass

/-!
# Ways to cut a text

Script text is read by trying the longest piece first and giving characters back
one at a time when what follows does not fit. The functions here list the ways
to cut a piece off the front of a text in that order of preference, so that the
first way that leads to a complete reading is the one that counts.

## Main definitions

* `splits`: the cuts after characters of one class, longest first
* `runs`: the cuts after a first character of one class and more of another
* `stripLiteral?`: the text after a given piece
* `lines`: the pieces between line feeds
* `firstWord`: the first piece between white space
-/

namespace Questline

/-- The cuts of a text after characters of the class `p`, longest first. -/
def splits (p : Char → Bool) : List Char → List (List Char × List Char)
  | [] => [([], [])]
  | c :: r =>
    if p c then (splits p r).map (fun s => (c :: s.1, s.2)) ++ [([], c :: r)]
    else [([], c :: r)]

/-- The cuts of a text after a character of `first` and any number of `rest`,
longest first. -/
def runs (first rest : Char → Bool) : List Char → List (List Char × List Char)
  | [] => []
  | c :: r => if first c then (splits rest r).map (fun s => (c :: s.1, s.2)) else []

/-- What follows the piece `p` at the front of a text. -/
def stripLiteral? : (p t : List Char) → Option (List Char)
  | [], t => some t
  | _ :: _, [] => none
  | p :: ps, c :: r => if p == c then stripLiteral? ps r else none

/-- The pieces of a text between line feeds. -/
def lines : List Char → List (List Char)
  | [] => [[]]
  | c :: r =>
    if c == '\n' then [] :: lines r
    else match lines r with
      | [] => [[c]]
      | l :: ls => (c :: l) :: ls

/-- The first piece of a text between white space. -/
def firstWord (t : List Char) : List Char :=
  (trimStart t).takeWhile (!isBlank ·)

theorem append_of_mem_splits {p : Char → Bool} {t : List Char} {s : List Char × List Char}
    (h : s ∈ splits p t) : s.1 ++ s.2 = t := by
  induction t generalizing s with
  | nil => simp [splits] at h; simp [h]
  | cons c r ih =>
    simp only [splits] at h
    split at h
    · rw [List.mem_append, List.mem_map] at h
      rcases h with ⟨u, hu, rfl⟩ | h
      · simp [ih hu]
      · simp at h; simp [h]
    · simp at h; simp [h]

/-- The piece cut off holds only characters of the class. -/
theorem all_of_mem_splits {p : Char → Bool} {t : List Char} {s : List Char × List Char}
    (h : s ∈ splits p t) : s.1.all p = true := by
  induction t generalizing s with
  | nil => simp [splits] at h; simp [h]
  | cons c r ih =>
    simp only [splits] at h
    split at h
    · rename_i hc
      rw [List.mem_append, List.mem_map] at h
      rcases h with ⟨u, hu, rfl⟩ | h
      · simpa [hc] using ih hu
      · simp at h; simp [h]
    · simp at h; simp [h]

/-- The first cut takes as much as there is. -/
theorem head?_splits (p : Char → Bool) (t : List Char) :
    (splits p t).head? = some (t.takeWhile p, t.dropWhile p) := by
  induction t with
  | nil => rfl
  | cons c r ih =>
    by_cases hc : p c = true
    · simp [splits, hc, List.head?_append, ih]
    · simp [splits, hc]

end Questline
