import TestSelection.Text.Escaped

/-!
# Quoted text

The form in which a text stands inside a message or a log line: between double quotes, with every
character that could be misread written as an escape, so the quoted form fits on one line.
-/
namespace TestSelection.Text

/-- Lower-case hexadecimal digits of a number. -/
def hexDigits (n : Nat) : String :=
  String.ofList (Nat.toDigits 16 n)

/-- An escape by code point, as in `\u{1f}`. -/
def codePointEscape (c : Char) : String :=
  "\\u\x7b" ++ hexDigits c.toNat ++ "\x7d"

/-- One character of a quoted text. -/
def quotedChar (c : Char) : String :=
  match c with
  | '\x00' => "\\0"
  | '\t' => "\\t"
  | '\r' => "\\r"
  | '\n' => "\\n"
  | '\\' => "\\\\"
  | '"' => "\\\""
  | c => if escapedRanges.contains c then codePointEscape c else c.toString

/-- A text between double quotes with its special characters escaped. -/
def quoted (s : String) : String :=
  "\"" ++ String.join (s.toList.map quotedChar) ++ "\""

end TestSelection.Text
