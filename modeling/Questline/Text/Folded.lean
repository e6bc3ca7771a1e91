import Questline.Text.CaseFold
import Questline.Text.Word

/-!
# Matching words in any letter case

A literal is met by a text that differs from it in letter case only. A word ends
where a word character meets something else.

## Main definitions

* `matchFolded?`: the text that meets a literal, and what follows it
* `endsWord`: whether a word boundary lies between a text and what follows it
* `afterBlanks?`: what follows white space that has to be there
-/

namespace Questline

/-- The text at the front that meets the literal `p`, and what follows it. -/
def matchFolded? : (p t : List Char) → Option (List Char × List Char)
  | [], t => some ([], t)
  | _ :: _, [] => none
  | p :: ps, c :: r =>
    if sameUpToCase p c then (matchFolded? ps r).map fun s => (c :: s.1, s.2) else none

/-- Whether exactly one of the last character of `t` and the first of `rest` is a
word character. -/
def endsWord (t rest : List Char) : Bool :=
  t.getLast?.any isWord != rest.head?.any isWord

/-- What follows white space at the front, if there is any. -/
def afterBlanks? (t : List Char) : Option (List Char) :=
  if t.head?.any isBlank then some (trimStart t) else none

theorem append_of_matchFolded? {p t : List Char} {s : List Char × List Char}
    (h : matchFolded? p t = some s) : s.1 ++ s.2 = t := by
  fun_induction matchFolded? p t generalizing s with
  | case1 => cases h; rfl
  | case2 => cases h
  | case3 p ps c r _ ih =>
    obtain ⟨u, hu, rfl⟩ := Option.map_eq_some_iff.1 h
    simp [ih hu]
  | case4 => cases h

end Questline
