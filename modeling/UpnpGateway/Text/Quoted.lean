/-
# Quoted text in messages

A message that shows a value it did not understand writes it between double quotes, so that
blanks and invisible characters can be seen: the quote and the backslash after a backslash,
the common controls by their letter, and every other character without a glyph by its number
in hexadecimal.
-/
import UpnpGateway.Text.Glyphless
import UpnpGateway.Text.Numeral

namespace UpnpGateway.Text

/-- The written form of one character. -/
def quoteChar (c : Char) : List Char :=
  match c with
  | '"' => ['\\', '"']
  | '\\' => ['\\', '\\']
  | '\n' => ['\\', 'n']
  | '\r' => ['\\', 'r']
  | '\t' => ['\\', 't']
  | '\x00' => ['\\', '0']
  | _ =>
    if isGlyphless c then "\\u\x7b".toList ++ hexadecimal c.toNat ++ ['\x7d'] else [c]

/-- The text between double quotes, each character in its written form. -/
def quoted (s : String) : String :=
  String.ofList ('"' :: s.toList.flatMap quoteChar ++ ['"'])

end UpnpGateway.Text
