/-
Values of JSON texts.

Reading keeps what a later check may still refuse: a number is its text, and a string is
the sequence of its characters and of its four-digit escapes, which need not pair up to
characters. Blanks are space, tab, line feed and carriage return. Nothing may follow the
value except blanks.
-/

namespace RecordFile

inductive StringPiece where
  | char (char : Char)
  /-- A four-digit escape: a UTF-16 code unit. -/
  | unit (code : Nat)
  deriving DecidableEq, Repr

inductive Json where
  | null
  | bool (value : Bool)
  /-- A number by its text. -/
  | number (text : List Char)
  | string (pieces : List StringPiece)
  | array (elements : List Json)
  | object (members : List (List StringPiece × Json))

namespace Json

/-! ### Tokens -/

def isBlank (char : Char) : Bool :=
  char == ' ' || char == '\t' || char == '\n' || char == '\r'

def skipBlanks (text : List Char) : List Char :=
  text.dropWhile isBlank

def afterWord? : List Char → List Char → Option (List Char)
  | [], text => some text
  | _ :: _, [] => none
  | expected :: word, char :: text => if expected = char then afterWord? word text else none

def hexDigit? (char : Char) : Option Nat :=
  if char.isDigit then some (char.toNat - '0'.toNat)
  else if 'a' ≤ char ∧ char ≤ 'f' then some (char.toNat - 'a'.toNat + 10)
  else if 'A' ≤ char ∧ char ≤ 'F' then some (char.toNat - 'A'.toNat + 10)
  else none

def codeUnit? (first second third fourth : Char) : Option Nat := do
  let a ← hexDigit? first
  let b ← hexDigit? second
  let c ← hexDigit? third
  let d ← hexDigit? fourth
  pure (((a * 16 + b) * 16 + c) * 16 + d)

def escaped? : Char → Option Char
  | '\x22' => some '\x22'
  | '\\' => some '\\'
  | '/' => some '/'
  | 'b' => some '\x08'
  | 'f' => some '\x0c'
  | 'n' => some '\n'
  | 'r' => some '\r'
  | 't' => some '\t'
  | _ => none

def pieces? : List Char → Option (List StringPiece × List Char)
  | [] => none
  | '\x22' :: text => some ([], text)
  | '\\' :: 'u' :: first :: second :: third :: fourth :: text => do
      let code ← codeUnit? first second third fourth
      let (pieces, text) ← pieces? text
      pure (.unit code :: pieces, text)
  | '\\' :: letter :: text => do
      let char ← escaped? letter
      let (pieces, text) ← pieces? text
      pure (.char char :: pieces, text)
  | char :: text =>
      if char == '\\' || char.toNat < 0x20 then none
      else do
        let (pieces, text) ← pieces? text
        pure (.char char :: pieces, text)

def digits? (text : List Char) : Option (List Char × List Char) :=
  let digits := text.takeWhile Char.isDigit
  if digits.isEmpty then none else some (digits, text.dropWhile Char.isDigit)

/-- The whole part of a number: a zero, or digits of which the first is no zero. -/
def whole? (text : List Char) : Option (List Char × List Char) := do
  let (digits, text) ← digits? text
  if digits.head? == some '0' && digits.length != 1 then none else pure (digits, text)

def fraction? : List Char → Option (List Char × List Char)
  | '.' :: text => do
      let (digits, text) ← digits? text
      pure ('.' :: digits, text)
  | text => some ([], text)

def sign (text : List Char) : List Char × List Char :=
  match text with
  | '+' :: text => (['+'], text)
  | '-' :: text => (['-'], text)
  | text => ([], text)

def exponent? : List Char → Option (List Char × List Char)
  | letter :: text =>
      if letter == 'e' || letter == 'E' then do
        let (mark, text) := sign text
        let (digits, text) ← digits? text
        pure (letter :: mark ++ digits, text)
      else some ([], letter :: text)
  | [] => some ([], [])

def number? (text : List Char) : Option (List Char × List Char) := do
  let (minus, text) := match text with
    | '-' :: text => (['-'], text)
    | text => ([], text)
  let (whole, text) ← whole? text
  let (fraction, text) ← fraction? text
  let (exponent, text) ← exponent? text
  pure (minus ++ whole ++ fraction ++ exponent, text)

/-! ### Values -/

mutual

/-- A value, and what follows it. Each step of `depth` opens a bracket or passes an item. -/
def value? : (depth : Nat) → List Char → Option (Json × List Char)
  | 0, _ => none
  | depth + 1, text =>
      match skipBlanks text with
      | [] => none
      | '\x7b' :: text =>
          match skipBlanks text with
          | '\x7d' :: text => some (.object [], text)
          | _ => (members? depth text).map fun (members, text) => (.object members, text)
      | '[' :: text =>
          match skipBlanks text with
          | ']' :: text => some (.array [], text)
          | _ => (elements? depth text).map fun (elements, text) => (.array elements, text)
      | '\x22' :: text => (pieces? text).map fun (pieces, text) => (.string pieces, text)
      | 'n' :: text => (afterWord? ['u', 'l', 'l'] text).map fun text => (.null, text)
      | 't' :: text => (afterWord? ['r', 'u', 'e'] text).map fun text => (.bool true, text)
      | 'f' :: text =>
          (afterWord? ['a', 'l', 's', 'e'] text).map fun text => (.bool false, text)
      | char :: text => (number? (char :: text)).map fun (digits, text) => (.number digits, text)

def elements? : (depth : Nat) → List Char → Option (List Json × List Char)
  | 0, _ => none
  | depth + 1, text => do
      let (element, text) ← value? depth text
      match skipBlanks text with
      | ',' :: text =>
          let (elements, text) ← elements? depth text
          pure (element :: elements, text)
      | ']' :: text => pure ([element], text)
      | _ => none

def members? : (depth : Nat) → List Char → Option (List (List StringPiece × Json) × List Char)
  | 0, _ => none
  | depth + 1, text =>
      match skipBlanks text with
      | '\x22' :: text => do
          let (key, text) ← pieces? text
          match skipBlanks text with
          | ':' :: text =>
              let (element, text) ← value? depth text
              match skipBlanks text with
              | ',' :: text =>
                  let (members, text) ← members? depth text
                  pure ((key, element) :: members, text)
              | '\x7d' :: text => pure ([(key, element)], text)
              | _ => none
          | _ => none
      | _ => none

end

def parse? (text : String) : Option Json := do
  let (value, rest) ← value? (2 * text.toList.length + 2) text.toList
  if (skipBlanks rest).isEmpty then pure value else none

/-! ### Meaning of strings and numbers -/

/-- The text of a string. Escapes of UTF-16 surrogates must come in pairs. -/
def textOf? : List StringPiece → Option (List Char)
  | [] => some []
  | .char char :: rest => (textOf? rest).map (char :: ·)
  | .unit high :: .unit low :: rest =>
      if 0xd800 ≤ high ∧ high < 0xdc00 then
        if 0xdc00 ≤ low ∧ low < 0xe000 then
          (textOf? rest).map
            (Char.ofNat (0x10000 + (high - 0xd800) * 0x400 + (low - 0xdc00)) :: ·)
        else none
      else if 0xdc00 ≤ high ∧ high < 0xe000 then none
      else (textOf? (.unit low :: rest)).map (Char.ofNat high :: ·)
  | .unit code :: rest =>
      if 0xd800 ≤ code ∧ code < 0xe000 then none else (textOf? rest).map (Char.ofNat code :: ·)

def string? : Json → Option String
  | string pieces => (textOf? pieces).map String.ofList
  | _ => none

def bool? : Json → Option Bool
  | bool value => some value
  | _ => none

def natural? : Json → Option UInt64
  | number text =>
      if text.all Char.isDigit then
        let value := text.foldl (fun value digit => value * 10 + (digit.toNat - '0'.toNat)) 0
        if value < UInt64.size then some (UInt64.ofNat value) else none
      else none
  | _ => none

end Json

end RecordFile
