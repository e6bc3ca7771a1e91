import Questline.Text.Split
import Questline.Text.Quoted
import Questline.Text.Word

/-!
# Script lines

A script is read line by line. A line is a label, which opens, divides or closes
a part of the script, a declaration of a local variable, or a statement.
Keywords are recognised in any letter case.

## Main definitions

* `Line`: what a line is
* `Line.ofText`: the line of a trimmed text
* `sourceLines`: the lines of a script without comments and blank lines
-/

namespace Questline

inductive VariableType where
  | short
  | long
  | float
deriving Repr, DecidableEq

namespace VariableType

def keyword : VariableType → String
  | short => "short"
  | long => "long"
  | float => "float"

def ofKeyword? : String → Option VariableType
  | "short" => some short
  | "long" => some long
  | "float" => some float
  | _ => none

@[simp] theorem ofKeyword?_keyword (t : VariableType) : ofKeyword? t.keyword = some t := by
  cases t <;> rfl

end VariableType

/-- The families of labels that open and close each other. -/
inductive Family where
  | script
  | choice
  | loop
deriving Repr, DecidableEq

/-- A label that opens a part of a script. -/
inductive Opening where
  /-- The script itself, with its id. -/
  | script (name : String)
  /-- A dialogue result, with its id. -/
  | result (name : String)
  | choice (condition : List Char)
  | loop (condition : List Char)
deriving Repr, DecidableEq

def Opening.family : Opening → Family
  | script _ => .script
  | result _ => .script
  | choice _ => .choice
  | loop _ => .loop

/-- A label. The condition of a dividing label is missing for `else`. -/
inductive Label where
  | opens (opening : Opening)
  | divides (condition : Option (List Char))
  | closes (family : Family)
deriving Repr, DecidableEq

/-- The label with a keyword in lower case and the text after it. -/
def Label.ofKeyword? (keyword : String) (rest : List Char) : Option Label :=
  match keyword with
  | "begin" => some (.opens (.script (nameOf (firstWord rest))))
  | "_dialog_" => some (.opens (.result (nameOf (firstWord rest))))
  | "if" => some (.opens (.choice rest))
  | "while" => some (.opens (.loop rest))
  | "elseif" => some (.divides (some rest))
  | "else" => some (.divides none)
  | "end" => some (.closes .script)
  | "endif" => some (.closes .choice)
  | "endwhile" => some (.closes .loop)
  | _ => none

inductive Line where
  | label (label : Label) (text : String)
  | declaration (type : VariableType) (name : String)
  | statement (text : String)
deriving Repr, DecidableEq

namespace Line

/-- The type and the name that a text declares. -/
def declaration? (t : List Char) : Option (VariableType × String) :=
  let rest := t.dropWhile isWord
  match VariableType.ofKeyword? (String.ofList (t.takeWhile isWord)).toLower, trim rest with
  | some type, c :: r =>
    if rest.head?.any isBlank && isFoldedLetter c && r.all isWord then
      some (type, (String.ofList (c :: r)).toLower)
    else
      none
  | _, _ => none

/-- The line of a trimmed text. A keyword is the whole first word. -/
def ofText (t : List Char) : Line :=
  match Label.ofKeyword? (String.ofList (t.takeWhile isWord)).toLower (trim (t.dropWhile isWord)) with
  | some l => .label l (String.ofList t)
  | none =>
    match declaration? t with
    | some (type, name) => .declaration type name
    | none => .statement (String.ofList t)

end Line

/-- The texts of the lines of a script, without comments and surrounding white
space; lines of which nothing is left are dropped. -/
def sourceTexts (source : List Char) : List (List Char) :=
  ((lines source).map fun l => trim (uncomment false l)).filter (!·.isEmpty)

def sourceLines (source : List Char) : List Line :=
  (sourceTexts source).map Line.ofText

end Questline
