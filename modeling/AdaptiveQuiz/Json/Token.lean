import AdaptiveQuiz.Json.Basic
import AdaptiveQuiz.Text.Digit

/-!
# JSON tokens

A text is cut into punctuation, words, numerals and strings. A numeral without point and exponent
is an integer, any other one the nearest double. The doubles that are not finite have words of their
own.

## Main definitions

* `Json.Token`: a lexical unit
* `Json.Token.scan?`: the tokens of a text
-/

namespace AdaptiveQuiz.Json

/-- A lexical unit of JSON. -/
inductive Token where
  | openArray
  | closeArray
  | openObject
  | closeObject
  | comma
  | colon
  | value (v : Json)
deriving Repr

namespace Token

/-! ## Strings -/

/-- The value of a hexadecimal digit. -/
def hexValue? (c : Char) : Option Nat :=
  if c.isDigit then some (c.toNat - 48)
  else if 'a' ≤ c ∧ c ≤ 'f' then some (c.toNat - 87)
  else if 'A' ≤ c ∧ c ≤ 'F' then some (c.toNat - 55)
  else none

/-- The 16 bit unit written by four hexadecimal digits. -/
def unit? (a b c d : Char) : Option Nat := do
  return 4096 * (← hexValue? a) + 256 * (← hexValue? b) + 16 * (← hexValue? c) + (← hexValue? d)

/-- The character that a letter stands for behind a backslash. -/
def escaped? : Char → Option Char
  | '"' => some '"'
  | '\\' => some '\\'
  | '/' => some '/'
  | 'b' => some '\x08'
  | 'f' => some '\x0c'
  | 'n' => some '\n'
  | 'r' => some '\r'
  | 't' => some '\t'
  | _ => none

/-- What one step through the inside of a string finds. -/
inductive Step where
  | close (rest : List Char)
  | unit (code : Nat) (rest : List Char)
  | char (c : Char) (rest : List Char)

/-- One step through the inside of a string. -/
def step? : List Char → Option Step
  | '"' :: rest => some (.close rest)
  | '\\' :: 'u' :: a :: b :: c :: d :: rest => (unit? a b c d).map (.unit · rest)
  | '\\' :: c :: rest => (escaped? c).map (.char · rest)
  | '\\' :: [] => none
  | c :: rest => if c.toNat < 0x20 then none else some (.char c rest)
  | [] => none

/-- The characters of a string up to its closing mark, newest first, and the rest of the text. Two
units that form a surrogate pair are one character. The fuel is the length of the text. -/
def string? : Nat → List Char → List Char → Option (List Char × List Char)
  | 0, _, _ => none
  | fuel + 1, done, cs =>
    match step? cs with
    | none => none
    | some (.close rest) => some (done, rest)
    | some (.char c rest) => string? fuel (c :: done) rest
    | some (.unit code rest) =>
      if 0xd800 ≤ code ∧ code < 0xdc00 then
        match step? rest with
        | some (.unit low rest) =>
          if 0xdc00 ≤ low ∧ low < 0xe000 then
            let c := Char.ofNat (0x10000 + (code - 0xd800) * 0x400 + (low - 0xdc00))
            string? fuel (c :: done) rest
          else none
        | _ => none
      else string? fuel (Char.ofNat code :: done) rest

/-! ## Numerals -/

/-- The exponent of a numeral, if there is one, and the rest. -/
def exponent? : List Char → Option (Option Int × List Char)
  | mark :: rest =>
    if mark = 'e' ∨ mark = 'E' then
      let (negative, rest) := Text.splitSign rest
      match Text.leadingDigits rest with
      | ([], _) => none
      | (ds, rest) => some (some (Text.withSign negative (Text.ofDigits ds)), rest)
    else some (none, mark :: rest)
  | [] => some (none, [])

/-- The fraction of a numeral, if there is one, and the rest. -/
def fraction? : List Char → Option (Option (List Nat) × List Char)
  | '.' :: rest =>
    match Text.leadingDigits rest with
    | ([], _) => none
    | (ds, rest) => some (some ds, rest)
  | rest => some (none, rest)

/-- The numeral that a text starts with, and the rest. -/
def numeral? (cs : List Char) : Option (Json × List Char) := do
  let (negative, cs) := match cs with
    | '-' :: rest => (true, rest)
    | rest => (false, rest)
  let (whole, cs) := Text.leadingDigits cs
  if whole.isEmpty then none
  let (fraction, cs) ← fraction? cs
  let (exponent, cs) ← exponent? cs
  match fraction, exponent with
  | none, none => return (.integer (Text.withSign negative (Text.ofDigits whole)), cs)
  | _, _ =>
    let places := fraction.getD []
    let exponent := exponent.getD 0
    return (.number (.ofDecimal negative (Text.ofDigits (whole ++ places))
      (exponent - places.length)), cs)

/-! ## Texts -/

/-- The token that a text starts with, and the rest. -/
def next? : List Char → Option (Token × List Char)
  | '[' :: rest => some (.openArray, rest)
  | ']' :: rest => some (.closeArray, rest)
  | '\x7b' :: rest => some (.openObject, rest)
  | '\x7d' :: rest => some (.closeObject, rest)
  | ',' :: rest => some (.comma, rest)
  | ':' :: rest => some (.colon, rest)
  | '"' :: rest =>
    (string? rest.length [] rest).map fun (done, rest) =>
      (.value (.text (String.ofList done.reverse)), rest)
  | 'n' :: 'u' :: 'l' :: 'l' :: rest => some (.value .null, rest)
  | 't' :: 'r' :: 'u' :: 'e' :: rest => some (.value (.bool true), rest)
  | 'f' :: 'a' :: 'l' :: 's' :: 'e' :: rest => some (.value (.bool false), rest)
  | 'N' :: 'a' :: 'N' :: rest => some (.value (.number .nan), rest)
  | 'I' :: 'n' :: 'f' :: 'i' :: 'n' :: 'i' :: 't' :: 'y' :: rest =>
    some (.value (.number (.infinity false)), rest)
  | '-' :: 'I' :: 'n' :: 'f' :: 'i' :: 'n' :: 'i' :: 't' :: 'y' :: rest =>
    some (.value (.number (.infinity true)), rest)
  | cs => (numeral? cs).map fun (v, rest) => (.value v, rest)

/-- The characters that may stand between tokens. -/
def isGap (c : Char) : Bool := c == ' ' || c == '\n' || c == '\r' || c == '\t'

/-- The tokens of a text. The fuel bounds their number; the length of the text is enough. -/
def scanWith? : Nat → List Char → Option (List Token)
  | fuel, cs =>
    match cs.dropWhile isGap with
    | [] => some []
    | c :: rest =>
      match fuel with
      | 0 => none
      | fuel + 1 => do
        let (token, rest) ← next? (c :: rest)
        let tokens ← scanWith? fuel rest
        return token :: tokens

/-- The tokens of a text. -/
def scan? (cs : List Char) : Option (List Token) := scanWith? cs.length cs

end Token

end AdaptiveQuiz.Json
