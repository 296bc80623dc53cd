import Provisioner.Text.Classes

/-! Quoting text for diagnostics: a double quote on each side; the quote, the backslash, NUL,
tab, carriage return and line feed as backslash escapes; grapheme extenders and characters
that are not shown as themselves as a braced lower-case hexadecimal code point; every other
character as it is. -/

namespace Provisioner.Text

def quoteChar (c : Char) : String :=
  match c with
  | '\x00' => "\\0"
  | '\t' => "\\t"
  | '\r' => "\\r"
  | '\n' => "\\n"
  | '\\' => "\\\\"
  | '"' => "\\\""
  | c =>
    if isGraphemeExtend c || !isPrintable c then
      "\\u" ++ "\x7b" ++ String.ofList (Nat.toDigits 16 c.toNat) ++ "\x7d"
    else String.singleton c

def quote (s : String) : String := "\"" ++ String.join (s.toList.map quoteChar) ++ "\""

end Provisioner.Text
