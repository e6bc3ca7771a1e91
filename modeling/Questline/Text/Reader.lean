import Questline.Text.Split

/-!
# Reading structured text

A reader takes a piece off the front of a text, or fails. The data formats are
read with readers that are put together from a few basic ones.

## Main definitions

* `Reader`: a reader with a result
* `Reader.peek?`, `literal`, `accept`, `span`, `next`: the basic readers
* `Reader.repeated`: a reader used again and again
-/

namespace Questline

/-- A reader takes a piece off the front of a text, or fails. -/
abbrev Reader := StateT (List Char) Option

namespace Reader

/-- The character at the front, which is not taken. -/
def peek? : Reader (Option Char) :=
  fun t => some (t.head?, t)

/-- The character at the front. -/
def next : Reader Char
  | c :: r => some (c, r)
  | [] => none

def literal (p : String) : Reader Unit :=
  fun t => (stripLiteral? p.toList t).map ((), ·)

/-- A given text if it is there; the result says whether it was. -/
def accept (p : String) : Reader Bool :=
  fun t => some (((stripLiteral? p.toList t).map (true, ·)).getD (false, t))

/-- All characters of a class at the front. -/
def span (p : Char → Bool) : Reader (List Char) :=
  fun t => some (t.takeWhile p, t.dropWhile p)

def one (p : Char → Bool) : Reader Char := do
  let c ← next
  if p c then pure c else failure

def span1 (p : Char → Bool) : Reader (List Char) := do
  let cs ← span p
  if cs.isEmpty then failure else pure cs

/-- The results of a reader used until it says that there are no more, at most
`n` times. -/
def upTo {α : Type} (p : Reader (Option α)) : Nat → Reader (List α)
  | 0 => failure
  | n + 1 => do
    match ← p with
    | none => pure []
    | some a => (a :: ·) <$> upTo p n

/-- The results of a reader used until it says that there are no more. A reader
that takes something each time is used at most once for each character. -/
def repeated {α : Type} (p : Reader (Option α)) : Reader (List α) :=
  fun t => upTo p (t.length + 1) t

/-- The result of a reader that takes the whole of a text. -/
def run? {α : Type} (p : Reader α) (t : List Char) : Option α :=
  match p t with
  | some (a, []) => some a
  | _ => none

end Reader

def hexDigit? (c : Char) : Option Nat :=
  if c.isDigit then some (c.toNat - '0'.toNat)
  else if 'a' ≤ c ∧ c ≤ 'f' then some (c.toNat - 'a'.toNat + 10)
  else if 'A' ≤ c ∧ c ≤ 'F' then some (c.toNat - 'A'.toNat + 10)
  else none

/-- The value of a non-empty string of digits in a base up to sixteen. -/
def digitsInBase? (base : Nat) (ds : List Char) : Option Nat :=
  if ds.isEmpty then none
  else ds.foldlM
    (fun n c => (hexDigit? c).bind fun d => if d < base then some (base * n + d) else none) 0

/-- The character with a code point, if there is one. -/
def charOfCode? (n : Nat) : Option Char :=
  if n.isValidChar then some (Char.ofNat n) else none

end Questline
