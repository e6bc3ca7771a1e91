/-!
# RON values

Records are read from RON and reports are written in it: a notation with named
fields in parentheses, lists in brackets, maps in braces, and tuples and variants
in parentheses too.

## Main definitions

* `Ron`: a value in the notation
* `Ron.fieldsOf?`, `Ron.optional?`: the parts of structures and optional values
-/

namespace Questline

/-- A value in RON. A number is kept as written. -/
inductive Ron where
  | word (name : String)
  | number (text : List Char)
  | char (c : Char)
  | string (text : String)
  | list (items : List Ron)
  | map (entries : List (Ron × Ron))
  | tuple (name : Option String) (items : List Ron)
  | struct (name : Option String) (fields : List (String × Ron))

namespace Ron

/-- An optional value. -/
def ofOption (x : Option Ron) : Ron :=
  x.elim (word "None") fun x => tuple (some "Some") [x]

/-- The value inside an optional one, which has to be marked. -/
def optional? : Ron → Option (Option Ron)
  | word "None" => some none
  | tuple (some "Some") [x] => some (some x)
  | _ => none

/-- The fields of a structure, whose name may be left out. -/
def fieldsOf? (name : String) : Ron → Option (List (String × Ron))
  | struct n fields => if n.all (· == name) then some fields else none
  | _ => none

def ofBool (b : Bool) : Ron :=
  word (if b then "true" else "false")

def ofInt (n : Int) : Ron :=
  number (toString n).toList

@[simp] theorem optional?_ofOption (x : Option Ron) : (ofOption x).optional? = some x := by
  cases x <;> rfl

end Ron

end Questline
