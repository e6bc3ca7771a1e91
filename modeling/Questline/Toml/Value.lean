/-!
# TOML documents

Settings are read from TOML. Tables can be written in several pieces, so a table
remembers how it came about: one that a header opened cannot be opened again, and
one that only dotted keys made can only be added to by dotted keys.

## Main definitions

* `Toml`: a value, a table or a list of tables
* `Toml.descend?`: the change of a table inside a table
-/

namespace Questline

/-- How a table came about. -/
inductive TableOrigin where
  /-- By a header, or as the whole document. -/
  | header
  /-- On the way to the table of a header. -/
  | passing
  | dotted
deriving Repr, DecidableEq

/-- An item of a document. Of dates and times only the form matters. -/
inductive Toml where
  | string (s : String)
  | integer (n : Int)
  | float
  | boolean (b : Bool)
  | date
  | array (items : List Toml)
  /-- A table in braces, which is complete. -/
  | inlineTable (entries : List (String × Toml))
  | table (origin : TableOrigin) (entries : List (String × Toml))
  /-- Tables that share a header in double brackets, the last first. -/
  | tables (origin : TableOrigin) (last : List (String × Toml)) (earlier : List Toml)

namespace Toml

abbrev Entries := List (String × Toml)

/-- Put an item in the place of the one with the same key, or at the end. -/
def put (es : Entries) (key : String) (v : Toml) : Entries :=
  if es.any (·.1 == key) then es.map fun e => if e.1 == key then (key, v) else e
  else es ++ [(key, v)]

/-- Change the table that a path leads to; tables on the way are made as `via`. A
path that is made by dotted keys cannot pass a table that a header opened, and
nothing can be added to a value. The change gets the origin of the table. -/
def descend? (via : TableOrigin) (change : TableOrigin → Entries → Option Entries) :
    (origin : TableOrigin) → (path : List String) → Entries → Option Entries
  | origin, [], es => change origin es
  | _, key :: path, es =>
    match es.lookup key with
    | none => (descend? via change via path []).map fun inner => put es key (table via inner)
    | some (table origin inner) =>
      if via = .dotted ∧ origin = .header then none
      else (descend? via change origin path inner).map fun inner => put es key (table origin inner)
    | some (tables origin last earlier) =>
      (descend? via change origin path last).map fun last => put es key (tables origin last earlier)
    | some _ => none

/-- Add an item with a dotted key to a table. -/
def insert? (path : List String) (key : String) (v : Toml) (es : Entries) : Option Entries :=
  descend? .dotted
    (fun origin es =>
      if (origin == .dotted) == path.isEmpty || es.any (·.1 == key) then none
      else some (es ++ [(key, v)]))
    .header path es

/-- Open the table of a header. -/
def openTable? (path : List String) (key : String) (es : Entries) : Option Entries :=
  descend? .passing
    (fun _ es =>
      match es.lookup key with
      | none => some (es ++ [(key, table .header [])])
      | some (table .passing inner) => some (put es key (table .header inner))
      | some _ => none)
    .header path es

/-- Open the next table of a header in double brackets. -/
def openNext? (path : List String) (key : String) (es : Entries) : Option Entries :=
  descend? .passing
    (fun _ es =>
      match es.lookup key with
      | none => some (es ++ [(key, tables .header [] [])])
      | some (tables origin last earlier) =>
        some (put es key (tables .header [] (table origin last :: earlier)))
      | some _ => none)
    .header path es

/-- Add an item to the table that the last header opened. -/
def insertAt? (header : List String) (path : List String) (key : String) (v : Toml)
    (es : Entries) : Option Entries :=
  descend? .passing (fun _ es => insert? path key v es) .header header es

end Toml

end Questline
