import Questline.Number.Reading
import Questline.Ron.Value
import Questline.Text.Reader
import Questline.Text.Word

/-!
# Reading RON

White space and comments can stand between the parts of a value, and the last
part of a list, map, tuple or structure can have a comma after it.

## Main definitions

* `Ron.skipBlanks`: the reader of white space and comments
* `Ron.value`: the reader of values
* `Ron.read?`: the value of a text
* `Ron.int?`, `Ron.float?`: the numbers that values stand for
-/

namespace Questline.Ron

/-- Where the white space before a value stands. -/
inductive Trivia where
  | blank
  | lineComment
  | blockComment (nesting : Nat)
deriving Repr, DecidableEq

/-- White space between the parts of a value. -/
def isSpace (c : Char) : Bool :=
  c == ' ' || (0x9 ≤ c.toNat && c.toNat ≤ 0xD) || c == '\x85' || c == '\u200E' || c == '\u200F' ||
    c == '\u2028' || c == '\u2029'

/-- The text after white space and comments. A block comment has to be closed, and
can have others inside. -/
def skipTrivia? : Trivia → List Char → Option (List Char)
  | .blank, [] => some []
  | .blank, '/' :: '/' :: r => skipTrivia? .lineComment r
  | .blank, '/' :: '*' :: r => skipTrivia? (.blockComment 0) r
  | .blank, c :: r => if isSpace c then skipTrivia? .blank r else some (c :: r)
  | .lineComment, [] => some []
  | .lineComment, c :: r => skipTrivia? (if c == '\n' then .blank else .lineComment) r
  | .blockComment _, [] => none
  | .blockComment n, '/' :: '*' :: r => skipTrivia? (.blockComment (n + 1)) r
  | .blockComment 0, '*' :: '/' :: r => skipTrivia? .blank r
  | .blockComment (n + 1), '*' :: '/' :: r => skipTrivia? (.blockComment n) r
  | .blockComment n, _ :: r => skipTrivia? (.blockComment n) r

def skipBlanks : Reader Unit :=
  fun t => (skipTrivia? .blank t).map ((), ·)

def isNameStart (c : Char) : Bool :=
  isLetter c || (c.toNat ≥ 0x80 && isWord c && !isDigit c)

/-- A character of a name that is marked as raw. -/
def isRawNameChar (c : Char) : Bool :=
  isWord c || c == '.' || c == '+' || c == '-'

def name : Reader String := do
  if ← Reader.accept "r#" then String.ofList <$> Reader.span1 isRawNameChar
  else
    let c ← Reader.one isNameStart
    let cs ← Reader.span isWord
    pure (String.ofList (c :: cs))

/-- A character given by its bytes in UTF-8, each in two hexadecimal digits and
all but the first marked as such. At most `n` bytes follow the bytes `before`. -/
def bytes (before : ByteArray) : Nat → Reader Char
  | 0 => failure
  | n + 1 => do
    let b ← (digitsInBase? 16 [← Reader.next, ← Reader.next] : Option Nat)
    let bs := before.push b.toUInt8
    match String.fromUTF8? bs with
    | some s => (s.toList.head? : Option Char)
    | none => do
      Reader.literal "\\x"
      bytes bs n

/-- The character that an escape stands for. -/
def escaped : Reader Char := do
  match ← Reader.next with
  | '\x27' => pure '\x27'
  | '"' => pure '"'
  | '\\' => pure '\\'
  | 'n' => pure '\n'
  | 'r' => pure '\r'
  | 't' => pure '\t'
  | '0' => pure '\x00'
  | 'x' => bytes .empty 4
  | 'u' => do
    Reader.literal "\x7b"
    let ds ← Reader.span1 fun c => (hexDigit? c).isSome
    Reader.literal "\x7d"
    if ds.length > 6 then failure
    let n ← (digitsInBase? 16 ds : Option Nat)
    (charOfCode? n : Option Char)
  | _ => failure

/-- The text of a string, whose opening quote has been taken. -/
def stringText : Reader String := do
  let cs ← Reader.repeated do
    match ← Reader.next with
    | '"' => pure none
    | '\\' => some <$> escaped
    | c => pure (some c)
  pure (String.ofList cs)

/-- The text of a raw string, whose `r` has been taken. It ends at the first quote
with as many hashes after it as stand in front. -/
def rawText : Reader String := do
  let hashes ← Reader.span (· == '#')
  Reader.literal "\""
  let cs ← Reader.repeated do
    if ← Reader.accept (String.ofList ('"' :: hashes)) then pure none else some <$> Reader.next
  pure (String.ofList cs)

def isNumberStart (c : Char) : Bool :=
  c.isDigit || c == '+' || c == '-' || c == '.'

/-- A character of a number, or of something that only looks like one. -/
def isNumberChar (c : Char) : Bool :=
  c.isAlphanum || c == '_' || c == '+' || c == '-' || c == '.'

/-- Parts with commas between them, up to a closing bracket, which is taken. -/
def parts {α : Type} (close : String) (part : Reader α) : Reader (List α) :=
  Reader.repeated do
    skipBlanks
    if ← Reader.accept close then pure none
    else
      let x ← part
      skipBlanks
      if ← Reader.accept "," then pure (some x)
      else if (← Reader.peek?) == close.toList.head? then pure (some x)
      else failure

/-- A name or another key, a colon, and a value. -/
def entry {α : Type} (key : Reader α) (value : Reader Ron) : Reader (α × Ron) := do
  let k ← key
  skipBlanks
  Reader.literal ":"
  skipBlanks
  pure (k, ← value)

/-- A value with at most `n` levels. -/
def value : Nat → Reader Ron
  | 0 => failure
  | n + 1 => do
    let parens (name : Option String) : Reader Ron :=
      (struct name <$> parts ")" (entry Ron.name (value n))) <|>
        (tuple name <$> parts ")" (value n))
    match ← Reader.peek? with
    | none => failure
    | some c =>
      if ← Reader.accept "\"" then string <$> stringText
      else if ← Reader.accept "[" then list <$> parts "]" (value n)
      else if ← Reader.accept "\x7b" then map <$> parts "\x7d" (entry (value n) (value n))
      else if ← Reader.accept "(" then parens none
      else if ← Reader.accept "\x27" then do
        let c ← if ← Reader.accept "\\" then escaped else Reader.next
        Reader.literal "\x27"
        pure (char c)
      else if isNumberStart c then number <$> Reader.span isNumberChar
      else ((Reader.literal "r" *> (string <$> rawText)) <|> do
        let name ← Ron.name
        skipBlanks
        if ← Reader.accept "(" then parens (some name) else pure (word name))

def read? (t : List Char) : Option Ron :=
  Reader.run? (do skipBlanks; let v ← value (t.length + 1); skipBlanks; pure v) t

/-- The digits of a number without the underscores between them. -/
def digitsOf? (ds : List Char) : Option (List Char) :=
  if ds.head? = some '_' then none else some (ds.filter (· != '_'))

/-- A number without a sign, in the base that its first two characters say. -/
def natOf? (t : List Char) : Option Nat :=
  match t with
  | '0' :: 'x' :: r => (digitsOf? r).bind (digitsInBase? 16)
  | '0' :: 'o' :: r => (digitsOf? r).bind (digitsInBase? 8)
  | '0' :: 'b' :: r => (digitsOf? r).bind (digitsInBase? 2)
  | r => (digitsOf? r).bind (digitsInBase? 10)

/-- A text without the name of its type at the end. -/
def withoutType (name : String) (t : List Char) : List Char :=
  let n := t.length - name.length
  if t.drop n == name.toList then t.take n else t

def int? : Ron → Option Int
  | number t =>
    let (negative, r) := Number.sign t
    ((natOf? (withoutType "i32" r)).map fun n => if negative then -(n : Int) else n).filter fun n =>
      -0x80000000 ≤ n ∧ n ≤ 0x7FFFFFFF
  | _ => none

def isFloatChar (c : Char) : Bool :=
  c.isDigit || c == 'e' || c == 'E' || c == '.' || c == '+' || c == '-'

/-- A floating point number without the underscores in it, which can stand after
digits and exponent marks; `allowed` says whether one can stand in front. -/
def withoutUnderscores? (allowed : Bool) : List Char → Option (List Char)
  | [] => some []
  | c :: r =>
    if c == '_' then if allowed then withoutUnderscores? true r else none
    else if isFloatChar c then
      let sign := c == '+' || c == '-'
      (withoutUnderscores? (if sign then allowed else c != '.') r).map (c :: ·)
    else none

def float? : Ron → Option Float
  | word "inf" => some (1.0 / 0.0)
  | word "NaN" => some (0.0 / 0.0)
  | number t =>
    match String.ofList t with
    | "+inf" => some (1.0 / 0.0)
    | "-inf" => some (-1.0 / 0.0)
    | "+NaN" => some (0.0 / 0.0)
    | "-NaN" => some (0.0 / 0.0)
    | _ => (withoutUnderscores? false (withoutType "f64" t)).bind Number.readFloat?
  | _ => none

def bool? : Ron → Option Bool
  | word "true" => some true
  | word "false" => some false
  | _ => none

def text? : Ron → Option String
  | string s => some s
  | _ => none

def list? {α : Type} (item? : Ron → Option α) : Ron → Option (List α)
  | list items => items.mapM item?
  | _ => none

end Questline.Ron
