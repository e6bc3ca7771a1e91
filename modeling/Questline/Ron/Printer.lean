import Questline.Number.Shortest
import Questline.Ron.Value
import Questline.Text.Printable

/-!
# Writing RON

Structures, lists and maps have a line for each part, indented by four spaces
for each level and ended by a comma; empty ones and tuples stay on one line.

## Main definitions

* `Ron.escape`: the text between the quotes of a string
* `Ron.render`: the text of a value
-/

namespace Questline.Ron

/-- How a character is written in a string: quotes, backslashes and characters
without a visible form of their own are escaped. -/
def escapeChar (c : Char) : List Char :=
  match c with
  | '\x00' => ['\\', '0']
  | '\t' => ['\\', 't']
  | '\r' => ['\\', 'r']
  | '\n' => ['\\', 'n']
  | '"' => ['\\', '"']
  | '\x27' => ['\\', '\x27']
  | '\\' => ['\\', '\\']
  | c =>
    if isPrintable c then [c]
    else ['\\', 'u', '\x7b'] ++ Nat.toDigits 16 c.toNat ++ ['\x7d']

def escape (s : String) : String :=
  String.ofList (s.toList.flatMap escapeChar)

def quote (s : String) : String :=
  "\"" ++ escape s ++ "\""

/-- A floating point number; whole numbers end in `.0`. -/
def ofFloat (x : Float) : Ron :=
  number (Number.render ['.', '0'] x)

def indent (level : Nat) : String :=
  String.ofList (List.replicate (4 * level) ' ')

/-- A line for each part between brackets; nothing between them if there is none. -/
def enclose (before after : String) (level : Nat) (parts : List String) : String :=
  if parts.isEmpty then before ++ after
  else
    before ++ "\n" ++ String.join (parts.map fun p => indent (level + 1) ++ p ++ ",\n") ++
      indent level ++ after

theorem sizeOf_fst_lt {α β : Type} [SizeOf α] [SizeOf β] (p : α × β) : sizeOf p.1 < sizeOf p := by
  cases p
  simp only [Prod.mk.sizeOf_spec]
  omega

theorem sizeOf_snd_lt {α β : Type} [SizeOf α] [SizeOf β] (p : α × β) : sizeOf p.2 < sizeOf p := by
  cases p
  simp only [Prod.mk.sizeOf_spec]
  omega

def renderAt (level : Nat) (v : Ron) : String :=
  match v with
  | word name => name
  | number text => String.ofList text
  | char c => "\x27" ++ String.ofList (escapeChar c) ++ "\x27"
  | string s => quote s
  | list items => enclose "[" "]" level (items.map fun x => renderAt (level + 1) x)
  | map entries =>
    enclose "\x7b" "\x7d" level
      (entries.map fun e => renderAt (level + 1) e.1 ++ ": " ++ renderAt (level + 1) e.2)
  | tuple name items =>
    name.getD "" ++ "(" ++ ", ".intercalate (items.map fun x => renderAt level x) ++ ")"
  | struct name fields =>
    name.getD "" ++
      enclose "(" ")" level (fields.map fun f => f.1 ++ ": " ++ renderAt (level + 1) f.2)
termination_by v
decreasing_by
  all_goals simp only [list.sizeOf_spec, map.sizeOf_spec, tuple.sizeOf_spec, struct.sizeOf_spec]
  · have := List.sizeOf_lt_of_mem ‹_›
    omega
  · have := List.sizeOf_lt_of_mem ‹_›
    have := sizeOf_fst_lt e
    omega
  · have := List.sizeOf_lt_of_mem ‹_›
    have := sizeOf_snd_lt e
    omega
  · have := List.sizeOf_lt_of_mem ‹_›
    omega
  · have := List.sizeOf_lt_of_mem ‹_›
    have := sizeOf_snd_lt f
    omega

def render (v : Ron) : String :=
  v.renderAt 0

end Questline.Ron
