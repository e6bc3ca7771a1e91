import Questline.Text.CharClass

/-!
# Double quotes

A double quote opens a string and the next one closes it; there is no way to
write a quote inside.

## Main definitions

* `quoted?`, `stringToken?`: a string at the front of a text, without and with its quotes
* `unquote`: a name without the quotes around it
* `nameOf`: the lower-case name that a piece of text stands for
* `uncomment`: a line up to the first semicolon outside quotes
* `stripParens`: a text without the parentheses around the whole of it
-/

namespace Questline

/-- The text inside the string at the front, and what follows it. -/
def quoted? : List Char → Option (List Char × List Char)
  | '"' :: r =>
    match r.dropWhile (· != '"') with
    | _ :: rest => some (r.takeWhile (· != '"'), rest)
    | [] => none
  | _ => none

/-- The string at the front with its quotes, and what follows it. -/
def stringToken? (t : List Char) : Option (List Char × List Char) :=
  (quoted? t).map fun s => ('"' :: s.1 ++ ['"'], s.2)

/-- Drop the surrounding white space, one quote at either end if both are there,
and the white space inside them. -/
def unquote (t : List Char) : List Char :=
  match trim t with
  | '"' :: r => if r.getLast? = some '"' then trim r.dropLast else '"' :: r
  | s => s

/-- The name that a piece of text stands for: without quotes, in lower case. -/
def nameOf (t : List Char) : String :=
  (String.ofList (unquote t)).toLower

/-- The part of a line before the first semicolon outside quotes; `inside` says
whether a string is open. -/
def uncomment (inside : Bool) : List Char → List Char
  | [] => []
  | c :: r =>
    if c == '"' then c :: uncomment (!inside) r
    else if c == ';' && !inside then []
    else c :: uncomment inside r

/-- Whether the parenthesis that makes the depth positive is closed by the last
character, parentheses inside quotes not counted. A closing parenthesis at depth
zero leaves the depth at zero. -/
def closesAtEnd (inside : Bool) (depth : Nat) : List Char → Bool
  | [] => false
  | c :: r =>
    if c == '"' then closesAtEnd (!inside) depth r
    else if c == '(' && !inside then closesAtEnd inside (depth + 1) r
    else if c == ')' && !inside then
      if depth ≤ 1 then r.isEmpty else closesAtEnd inside (depth - 1) r
    else closesAtEnd inside depth r

/-- The text between the parentheses around the whole of a text. -/
def innerParens? (t : List Char) : Option (List Char) :=
  match t with
  | '(' :: r => if r.getLast? = some ')' ∧ closesAtEnd false 0 t then some r.dropLast else none
  | _ => none

theorem length_trim_le (t : List Char) : (trim t).length ≤ t.length := by
  have h : ∀ l : List Char, (l.dropWhile isBlank).length ≤ l.length := fun l =>
    (List.dropWhile_sublist isBlank).length_le
  have h₁ := h t
  have h₂ := h (t.dropWhile isBlank).reverse
  simp only [trim, trimEnd, trimStart, List.length_reverse] at *
  omega

theorem length_of_innerParens? {t r : List Char} (h : innerParens? t = some r) :
    r.length < t.length := by
  unfold innerParens? at h
  split at h
  · split at h
    · cases h
      simp only [List.length_dropLast, List.length_cons]
      omega
    · cases h
  · cases h

/-- Drop the parentheses around the whole of a text, however many there are, and
the white space around and between them. -/
def stripParens (t : List Char) : List Char :=
  match h : innerParens? (trim t) with
  | some r =>
    have := length_of_innerParens? h
    have := length_trim_le t
    stripParens r
  | none => trim t
termination_by t.length

end Questline
