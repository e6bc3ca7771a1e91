import Questline.Text.Split
import Questline.Text.Quoted
import Questline.Text.Word

/-!
# Objects in script text

A script line can be applied to an object by writing the object and an arrow in
front of it. An object is a quoted name, or a run of word characters, apostrophes
and hyphens. Since a hyphen may also start the arrow, there is more than one way
to cut the object off.

## Main definitions

* `objectTokens`: the ways to cut an object off the front, in order of preference
* `scopeTokens`: the same with an arrow after it
-/

namespace Questline

/-- A character of an unquoted object. -/
def isObjectChar (c : Char) : Bool :=
  isWord c || c == '\x27' || c == '-'

/-- The ways to cut an object off the front of a text. -/
def objectTokens (t : List Char) : List (List Char × List Char) :=
  ((stringToken? t).filter (·.1.length > 2)).toList ++ runs isObjectChar isObjectChar t

/-- What follows an arrow, white space before it not counted. -/
def afterArrow? (t : List Char) : Option (List Char) :=
  stripLiteral? ['-', '>'] (trimStart t)

/-- The ways to cut an object and the arrow after it off the front of a text. -/
def scopeTokens (t : List Char) : List (List Char × List Char) :=
  (objectTokens t).filterMap fun s => (afterArrow? s.2).map fun r => (s.1, r)

end Questline
