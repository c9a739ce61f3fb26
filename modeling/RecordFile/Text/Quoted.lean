/-
Texts in quotes, as diagnostics show them.

Double quotes, backslashes and the common controls are written with a backslash, and what is
not printable by its number in braces. Everything else stands for itself.
-/

import RecordFile.Text.Printable

namespace RecordFile.Text

def hexadecimal (number : Nat) : String :=
  String.ofList (Nat.toDigits 16 number)

def escape : Char → String
  | '\x00' => "\\0"
  | '\t' => "\\t"
  | '\n' => "\\n"
  | '\r' => "\\r"
  | '\\' => "\\\\"
  | '\x22' => "\\\""
  | char =>
      if isPrintable char then char.toString
      else "\\u\x7b" ++ hexadecimal char.toNat ++ "\x7d"

def quote (text : String) : String :=
  "\"" ++ String.join (text.toList.map escape) ++ "\""

end RecordFile.Text
