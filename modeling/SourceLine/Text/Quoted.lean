import SourceLine.Text.Combining
import SourceLine.Text.Printable

/-!
# Quoted texts

The quoted form in which a message shows a line: between double quotes, on one
line, with what does not show by itself written as an escape.
-/

namespace SourceLine.Text

/-- The escape by a character's code point in hexadecimal. -/
def codeEscape (c : Char) : Text :=
  "\\u\x7b".toList ++ Nat.toDigits 16 c.toNat ++ ['}']

/-- A character as it stands in a quoted text. Tab, line feed, carriage return, NUL,
the double quote and the backslash have escapes of their own; any other character
that is not printable, or would join the one before it, is given by its code point;
all else stands for itself. -/
def quotedChar (c : Char) : Text :=
  match c with
  | '\x00' => ['\\', '0']
  | '\t' => ['\\', 't']
  | '\n' => ['\\', 'n']
  | '\r' => ['\\', 'r']
  | '"' => ['\\', '"']
  | '\\' => ['\\', '\\']
  | c => if isCombining c || !isPrintable c then codeEscape c else [c]

/-- A text in double quotes. -/
def quoted (t : Text) : Text :=
  '"' :: t.flatMap quotedChar ++ ['"']

end SourceLine.Text
