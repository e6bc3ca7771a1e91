import Questline.Script.Tree
import Questline.Text.Folded
import Questline.Text.Object

/-!
# Calls

A call is a function name with arguments after it, perhaps applied to an object,
at the start of a line or after white space, a comma, a semicolon or an opening
parenthesis. Of several ways to read a call the first is taken, and the search
for the next call goes on where it ends.

## Main definitions

* `Argument`: what an argument may look like
* `CallPattern`: the calls to look for
* `CallPattern.inLine`: the calls in a line
* `Call`, `Tree.calls`: the calls in a tree
-/

namespace Questline

/-- What an argument may look like. -/
inductive Argument where
  /-- A quoted string, or a run of word characters, points, hyphens and apostrophes. -/
  | any
  /-- A given text, with or without quotes. -/
  | literal (text : List Char)
  /-- A number without an exponent. -/
  | number
deriving Repr, DecidableEq

/-- The calls to look for: the names of the functions, the object that the call
has to be applied to if that matters, and the first arguments. -/
structure CallPattern where
  functions : List String
  scope : Option String := none
  arguments : List Argument := []
deriving Repr, DecidableEq

/-- A call as written. -/
structure CallText where
  scope : Option (List Char)
  function : List Char
  arguments : List (List Char)
deriving Repr, DecidableEq

/-- Digits with an optional fraction, after an optional minus sign. -/
def numberToken? (t : List Char) : Option (List Char × List Char) :=
  let (minus, r) := match t with
    | '-' :: r => (['-'], r)
    | r => ([], r)
  let whole := r.takeWhile isDigit
  let rest := r.dropWhile isDigit
  if whole.isEmpty then none
  else match rest with
    | '.' :: r =>
      let part := r.takeWhile isDigit
      if part.isEmpty then some (minus ++ whole, rest)
      else some (minus ++ whole ++ '.' :: part, r.dropWhile isDigit)
    | _ => some (minus ++ whole, rest)

namespace Argument

/-- A character of an argument without quotes. -/
def isChar (c : Char) : Bool :=
  isWord c || c == '-' || c == '\x27' || c == '.'

/-- The argument at the front of a text, and what follows it, in order of
preference. Characters of a run are never given back, since only white space and
commas can follow. -/
def tokens (a : Argument) (t : List Char) : List (List Char × List Char) :=
  match a with
  | any => ((stringToken? t).or (runs isChar isChar t).head?).toList
  | literal text =>
    (matchFolded? ('"' :: text ++ ['"']) t).toList ++
      ((matchFolded? text t).filter fun s => endsWord s.1 s.2).toList
  | number => (numberToken? t).toList

/-- What follows the separator in front of an argument: a comma with optional
white space, or white space. -/
def separators (t : List Char) : List (List Char) :=
  (match trimStart t with
    | ',' :: r => (splits isBlank r).map (·.2)
    | _ => []) ++ (runs isBlank isBlank t).map (·.2)

end Argument

/-- Arguments at the front of a text, each with a separator before it, and what
follows them. -/
def readArguments? : List Argument → List Char → Option (List (List Char) × List Char)
  | [], t => some ([], t)
  | a :: as, t =>
    (Argument.separators t).findSome? fun t =>
      (a.tokens t).findSome? fun (token, t) =>
        (readArguments? as t).map fun (tokens, t) => (token :: tokens, t)

namespace CallPattern

/-- A character that a call can follow. -/
def isDelimiter (c : Char) : Bool :=
  isBlank c || c == ',' || c == ';' || c == '('

/-- The ways to cut an object with an arrow off the front of a text; the last is
to take none. -/
def scopes (t : List Char) : List (Option (List Char) × List Char) :=
  ((scopeTokens t).flatMap fun s => (splits isBlank s.2).map fun u => (some s.1, u.2)) ++ [(none, t)]

variable (p : CallPattern)

/-- The call at the front of a text, and what follows it. -/
def atFront? (t : List Char) : Option (CallText × List Char) :=
  (scopes t).findSome? fun (scope, t) =>
    p.functions.findSome? fun name =>
      ((matchFolded? name.toList t).filter fun s => endsWord s.1 s.2).bind fun (function, t) =>
        (readArguments? p.arguments t).map fun (arguments, t) => ({ scope, function, arguments }, t)

/-- The call that starts with a text, at the start of the line or after a
delimiter. -/
def here? (lineStart : Bool) (t : List Char) : Option (CallText × List Char) :=
  (if lineStart then p.atFront? t else none).or
    (match t with
      | c :: r => if isDelimiter c then p.atFront? r else none
      | [] => none)

/-- The calls in the rest of a line, whatever object they are applied to. -/
def scan (lineStart : Bool) (t : List Char) : List CallText :=
  match p.here? lineStart t with
  | some (call, rest) =>
    if rest.length < t.length then call :: scan false rest
    else match t with
      | [] => [call]
      | _ :: r => call :: scan false r
  | none =>
    match t with
    | [] => []
    | _ :: r => scan false r
termination_by t.length

/-- Whether a call is applied to the object that the pattern asks for. -/
def accepts (c : CallText) : Bool :=
  p.scope.all fun o => c.scope.map nameOf == some o

/-- The calls in a line. -/
def inLine (line : List Char) : List CallText :=
  (p.scan true line).filter p.accepts

end CallPattern

/-- A call in a tree, with the requirements for reaching it. -/
structure Call where
  /-- The function, in lower case. -/
  function : String
  /-- The object that the call is applied to, in lower case. -/
  scope : Option String
  /-- The arguments without quotes. -/
  arguments : List String
  block : Nat
  script : Option String
  gate : Gate
  line : String

namespace Tree

variable (t : Tree)

/-- The calls in a block, line by line. -/
def callsIn (p : CallPattern) (b : Block) : List Call :=
  b.lines.flatMap fun line => (p.inLine line.toList).map fun c =>
    { function := (String.ofList c.function).toLower, scope := c.scope.map nameOf,
      arguments := c.arguments.map fun a => String.ofList (unquote a), block := b.id,
      script := b.script, gate := t.gate b.id, line }

/-- The calls in the tree, block by block. -/
def calls (p : CallPattern) : List Call :=
  t.blocks.toList.flatMap (t.callsIn p)

end Tree

end Questline
