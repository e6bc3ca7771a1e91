import Questline.Text.Reader
import Questline.Toml.Value

/-!
# Reading TOML

A document is a list of lines, each a header, an item with its key, a comment or
nothing. Only arrays and long strings go over more than one line.

## Main definitions

* `Toml.value`: the reader of values
* `Toml.Statement`: what a line says
* `Toml.read?`: the entries of a document
-/

namespace Questline.Toml

open Reader

def isSpace (c : Char) : Bool :=
  c == ' ' || c == '\t'

/-- A character that can stand in comments and strings. -/
def isPlain (c : Char) : Bool :=
  c == '\t' || (c.toNat ≥ 0x20 && c != '\x7F')

def blanks : Reader Unit := do
  let _ ← span isSpace

/-- A line break if there is one; the result says whether there was. -/
def lineBreak : Reader Bool := do
  if ← accept "\n" then pure true else accept "\r\n"

def blanksAndComment : Reader Unit := do
  blanks
  if ← accept "#" then
    let _ ← span isPlain

/-- The end of a line, after white space and a comment. -/
def lineEnd : Reader Unit := do
  blanksAndComment
  if !(← lineBreak) && (← peek?).isSome then failure

def filler : Reader Unit := do
  let _ ← repeated do
    blanksAndComment
    if ← lineBreak then pure (some ()) else pure none

/-- A character given by the number of its code point in `n` hexadecimal digits. -/
def coded (n : Nat) : Reader Char := do
  let ds ← (List.replicate n ()).mapM fun _ => next
  let code ← (digitsInBase? 16 ds : Option Nat)
  (charOfCode? code : Option Char)

/-- The character that an escape stands for. -/
def escaped : Reader Char := do
  match ← next with
  | 'b' => pure '\x08'
  | 't' => pure '\t'
  | 'n' => pure '\n'
  | 'f' => pure '\x0C'
  | 'r' => pure '\r'
  | '"' => pure '"'
  | '\\' => pure '\\'
  | 'u' => coded 4
  | 'U' => coded 8
  | _ => failure

/-- The text of a string on one line, whose opening quote has been taken. -/
def lineText (quote : Char) (escapes : Bool) : Reader String := do
  let cs ← repeated do
    let c ← next
    if c == quote then pure none
    else if c == '\\' && escapes then some <$> escaped
    else if isPlain c then pure (some c)
    else failure
  pure (String.ofList cs)

/-- The white space and line breaks after a backslash at the end of a line, if it
stands there. -/
def continuation : Reader Unit := do
  blanks
  if !(← lineBreak) then failure
  let _ ← span fun c => isSpace c || c == '\n' || c == '\r'

/-- The text of a string in threefold quotes, which have been taken. A line break
right after them does not count, and up to two quotes can stand before the
closing ones. -/
def longText (quote : Char) (escapes : Bool) : Reader String := do
  let quotes (n : Nat) := String.ofList (List.replicate n quote)
  let _ ← lineBreak
  let parts ← repeated do
    if ← accept (quotes 6) then failure
    else if ← accept (quotes 4) then
      fun t => some (some [quote], List.replicate 3 quote ++ t)
    else if ← accept (quotes 3) then pure none
    else if ← lineBreak then pure (some ['\n'])
    else
      let c ← next
      if c == '\\' && escapes then
        (continuation *> pure (some [])) <|> ((fun c => some [c]) <$> escaped)
      else if isPlain c then pure (some [c])
      else failure
  pure (String.ofList parts.flatten)

def isBareKeyChar (c : Char) : Bool :=
  c.isAlphanum || c == '_' || c == '-'

def keyPart : Reader String := do
  if ← accept "\"" then lineText '"' true
  else if ← accept "\x27" then lineText '\x27' false
  else String.ofList <$> span1 isBareKeyChar

/-- A dotted key, as the path to its table and the last part. -/
def key : Reader (List String × String) := do
  let first ← keyPart
  let more ← repeated do
    blanks
    if ← accept "." then
      blanks
      some <$> keyPart
    else pure none
  let parts := first :: more
  pure (parts.dropLast, parts.getLastD "")

/-- Whether a text is digits of a class with single underscores between them. -/
def isDigits (p : Char → Bool) : List Char → Bool
  | [] => false
  | [c] => p c
  | c :: '_' :: r => p c && isDigits p r
  | c :: r => p c && isDigits p r

/-- A text without a sign in front. -/
def unsigned (t : List Char) : List Char :=
  match t with
  | '+' :: r => r
  | '-' :: r => r
  | r => r

/-- Whether a text is a whole number without a sign, which starts with a zero only
if it is zero. -/
def isWhole (t : List Char) : Bool :=
  isDigits Char.isDigit t && (t.head? != some '0' || t.length == 1)

/-- The integer of 64 bits that a text stands for. -/
def integer? (t : List Char) : Option Int :=
  let inBase (base : Nat) (ds : List Char) : Option Int :=
    if isDigits (fun c => (hexDigit? c).any (· < base)) ds then
      (digitsInBase? base (ds.filter (· != '_'))).map Int.ofNat
    else none
  let n : Option Int :=
    match t with
    | '0' :: 'x' :: ds => inBase 16 ds
    | '0' :: 'o' :: ds => inBase 8 ds
    | '0' :: 'b' :: ds => inBase 2 ds
    | '-' :: ds => if isWhole ds then (inBase 10 ds).map (-·) else none
    | _ => if isWhole (unsigned t) then inBase 10 (unsigned t) else none
  n.filter fun n => -0x8000000000000000 ≤ n ∧ n ≤ 0x7FFFFFFFFFFFFFFF

def isExponent : List Char → Bool
  | 'e' :: r => isDigits Char.isDigit (unsigned r)
  | 'E' :: r => isDigits Char.isDigit (unsigned r)
  | _ => false

def isFloat (t : List Char) : Bool :=
  let t := unsigned t
  let inWhole (c : Char) := c.isDigit || c == '_'
  t == "inf".toList || t == "nan".toList ||
    (isWhole (t.takeWhile inWhole) &&
      match t.dropWhile inWhole with
      | '.' :: r =>
        isDigits Char.isDigit (r.takeWhile inWhole) &&
          ((r.dropWhile inWhole).isEmpty || isExponent (r.dropWhile inWhole))
      | r => isExponent r)

/-- The number that two digits stand for, if it is in a range. -/
def inRange (lo hi : Nat) (ds : List Char) : Bool :=
  ds.length == 2 && ds.all Char.isDigit &&
    (digitsInBase? 10 ds).any fun n => lo ≤ n && n ≤ hi

def daysIn (year month : Nat) : Nat :=
  if month = 2 then
    if year % 4 = 0 ∧ (year % 100 ≠ 0 ∨ year % 400 = 0) then 29 else 28
  else if month = 4 ∨ month = 6 ∨ month = 9 ∨ month = 11 then 30
  else 31

def isDay (t : List Char) : Bool :=
  let (year, r) := t.splitAt 4
  match r with
  | '-' :: m₁ :: m₂ :: '-' :: day =>
    year.all Char.isDigit && inRange 1 12 [m₁, m₂] &&
      inRange 1 (daysIn ((digitsInBase? 10 year).getD 0) ((digitsInBase? 10 [m₁, m₂]).getD 0)) day
  | _ => false

/-- Whether a text is a time of day, and what follows it. -/
def afterTime? : List Char → Option (List Char)
  | h₁ :: h₂ :: ':' :: m₁ :: m₂ :: ':' :: s₁ :: s₂ :: r =>
    if inRange 0 23 [h₁, h₂] && inRange 0 59 [m₁, m₂] && inRange 0 60 [s₁, s₂] then
      match r with
      | '.' :: f =>
        if (f.takeWhile Char.isDigit).isEmpty then none else some (f.dropWhile Char.isDigit)
      | r => some r
    else none
  | _ => none

/-- Whether a text is a distance from the time at Greenwich, or nothing. -/
def isOffset : List Char → Bool
  | [] => true
  | ['Z'] => true
  | ['z'] => true
  | [s, h₁, h₂, ':', m₁, m₂] =>
    (s == '+' || s == '-') && inRange 0 23 [h₁, h₂] && inRange 0 59 [m₁, m₂]
  | _ => false

/-- Whether a text is a date, a time, or both. -/
def isDate (t : List Char) : Bool :=
  (t.length == 10 && isDay t) || afterTime? t == some [] ||
    (isDay (t.take 10) &&
      match t.drop 10 with
      | c :: r => (c == 'T' || c == 't' || c == ' ') && (afterTime? r).any isOffset
      | [] => false)

/-- A character of a value without quotes and brackets. -/
def isTokenChar (c : Char) : Bool :=
  c.isAlphanum || c == '+' || c == '-' || c == '.' || c == '_' || c == ':'

/-- A value without quotes and brackets. A day can have a time after a blank. -/
def token : Reader Toml := do
  let t ← span1 isTokenChar
  let t ← (do
    if !(t.length == 10 && isDay t) then failure
    literal " "
    let time ← span1 isTokenChar
    if isDate (t ++ ' ' :: time) then pure (t ++ ' ' :: time) else failure) <|> pure t
  if t == "true".toList then pure (boolean true)
  else if t == "false".toList then pure (boolean false)
  else match integer? t with
    | some n => pure (integer n)
    | none => if isFloat t then pure float else if isDate t then pure date else failure

def assignment (value : Reader Toml) : Reader ((List String × String) × Toml) := do
  let k ← key
  blanks
  literal "="
  blanks
  pure (k, ← value)

/-- Items with commas between them on one line, up to a closing brace. -/
def inlineItems (item : Reader ((List String × String) × Toml)) :
    Reader (List ((List String × String) × Toml)) := do
  blanks
  if ← accept "\x7d" then pure []
  else
    let first ← item
    let more ← repeated do
      blanks
      if ← accept "," then
        blanks
        some <$> item
      else
        literal "\x7d"
        pure none
    pure (first :: more)

/-- A value with at most `n` levels. -/
def value : Nat → Reader Toml
  | 0 => failure
  | n + 1 => do
    if ← accept "\"\"\"" then string <$> longText '"' true
    else if ← accept "\"" then string <$> lineText '"' true
    else if ← accept "\x27\x27\x27" then string <$> longText '\x27' false
    else if ← accept "\x27" then string <$> lineText '\x27' false
    else if ← accept "[" then
      array <$> repeated do
        filler
        if ← accept "]" then pure none
        else
          let x ← value n
          filler
          if ← accept "," then pure (some x)
          else if (← peek?) == some ']' then pure (some x)
          else failure
    else if ← accept "\x7b" then
      let items ← inlineItems (assignment (value n))
      let es ← (items.foldlM (fun es ((path, key), v) => insert? path key v es) [] : Option Entries)
      pure (inlineTable es)
    else token

inductive Statement where
  | blank
  | header (path : List String) (key : String)
  | nextHeader (path : List String) (key : String)
  | item (path : List String) (key : String) (value : Toml)

/-- A line of a document with at most `n` levels of values. -/
def statement (n : Nat) : Reader Statement := do
  blanks
  match ← peek? with
  | some '[' =>
    if ← accept "[[" then
      blanks
      let (path, key) ← key
      blanks
      literal "]]"
      pure (.nextHeader path key)
    else
      literal "["
      blanks
      let (path, key) ← key
      blanks
      literal "]"
      pure (.header path key)
  | some '#' => pure .blank
  | some '\n' => pure .blank
  | some '\r' => pure .blank
  | some _ =>
    let ((path, key), v) ← assignment (value n)
    pure (.item path key v)
  | none => pure .blank

def statements : Reader (List Statement) := do
  let _ ← accept "\uFEFF"
  fun t => repeated (do
    if (← peek?).isNone then pure none
    else
      let s ← statement (t.length + 1)
      lineEnd
      pure (some s)) t

/-- The entries of a document and the table that the last header opened, after a
line. -/
def Statement.run? : Entries × List String → Statement → Option (Entries × List String)
  | state, blank => some state
  | (es, _), header path key => (openTable? path key es).map (·, path ++ [key])
  | (es, _), nextHeader path key => (openNext? path key es).map (·, path ++ [key])
  | (es, at_), item path key v => (insertAt? at_ path key v es).map (·, at_)

def read? (t : List Char) : Option Entries := do
  let lines ← Reader.run? statements t
  let (es, _) ← lines.foldlM Statement.run? ([], [])
  pure es

end Questline.Toml
