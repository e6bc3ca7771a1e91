import Questline.Number.Reading
import Questline.Requirement.Comparison
import Questline.Text.Object

/-!
# The shape of a condition

A condition is an optional object with an arrow, a command, an optional argument
and an optional comparison with a value, as in
`"fargoth"->GetItemCount "gold_001" >= 100`. The pieces are read from left to
right, the longest first, and give characters back when the rest of the text
does not fit; the whole text has to be used up.

A comparison of `object.variable` has the shape of a condition without a
command.

## Main definitions

* `Condition`: the pieces of a condition, as written
* `Condition.read?`: the pieces of a text
* `MemberTest.read?`: the pieces of a comparison of `object.variable`
-/

namespace Questline

/-- A comparison and the value to compare with, as written. -/
abbrev Test := Comparison × List Char

/-- The pieces of a condition, as written. -/
structure Condition where
  scope : Option (List Char)
  command : List Char
  argument : Option (List Char)
  test : Option Test
deriving Repr, DecidableEq

/-- A number in a condition: digits with an optional fraction, or a point and
digits, after an optional minus sign. -/
def isNumeral (t : List Char) : Bool :=
  let t := match t with
    | '-' :: r => r
    | r => r
  match t.dropWhile isDigit with
  | [] => !t.isEmpty
  | '.' :: f => !f.isEmpty && f.all isDigit
  | _ => false

/-- A value without quotes that is no number: a letter, then word characters and
points. -/
def isDottedName : List Char → Bool
  | [] => false
  | c :: r => isLetter c && r.all fun c => isWord c || c == '.'

/-- Whether a text is a quoted string and no more. -/
def isStringToken (t : List Char) : Bool :=
  match quoted? t with
  | some (_, []) => true
  | _ => false

/-- A value that an operand can be compared with. -/
def isComparand (t : List Char) : Bool :=
  isStringToken t || isNumeral t || isDottedName t

/-- The optional comparison that ends a condition; it has to use up the text. -/
def Test.read? (t : List Char) : Option (Option Test) :=
  match trim t with
  | [] => some none
  | t =>
    match Comparison.scan? t with
    | some (c, r) => if isComparand (trimStart r) then some (some (c, trimStart r)) else none
    | none => none

namespace Condition

/-- A character of an unquoted argument after the first. -/
def isArgumentChar (c : Char) : Bool :=
  isWord c || c == '\x27' || c == '.' || c == '-'

/-- What follows white space and at most one comma. -/
def afterComma (t : List Char) : List Char :=
  match trimStart t with
  | ',' :: r => trimStart r
  | r => r

/-- The ways to cut an argument off the front of a text; the last is to take none. -/
def arguments (t : List Char) : List (Option (List Char) × List Char) :=
  let r := afterComma t
  ((stringToken? r).toList ++ runs isLetter isArgumentChar r).map (fun s => (some s.1, s.2)) ++
    [(none, t)]

/-- The ways to cut an object with an arrow off the front of a text; the last is
to take none. -/
def scopes (t : List Char) : List (Option (List Char) × List Char) :=
  (scopeTokens t).map (fun s => (some s.1, trimStart s.2)) ++ [(none, t)]

def read? (t : List Char) : Option Condition :=
  (scopes (trimStart t)).findSome? fun (scope, t) =>
    (runs isLetter isWord t).findSome? fun (command, t) =>
      (arguments t).findSome? fun (argument, t) =>
        (Test.read? t).map fun test => { scope, command, argument, test }

end Condition

/-- The pieces of a comparison of `object.variable`, as written. -/
structure MemberTest where
  object : List Char
  member : List Char
  test : Option Test
deriving Repr, DecidableEq

def MemberTest.read? (t : List Char) : Option MemberTest :=
  (objectTokens (trimStart t)).findSome? fun (object, t) =>
    (stripLiteral? ['.'] (trimStart t)).bind fun t =>
      (runs isLetter isWord (trimStart t)).findSome? fun (member, t) =>
        (Test.read? t).map fun test => { object, member, test }

end Questline
