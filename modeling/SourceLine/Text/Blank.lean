import SourceLine.Text.CodeRanges

/-!
# Blanks

The characters of the Unicode property White_Space: tab to carriage return, the
space, next line, the no-break space and the spaces and separators of the general
punctuation and ideographic blocks. Zero-width characters are no blanks.
-/

namespace SourceLine.Text

/-- The code points of White_Space. -/
def blankRanges : CodeRanges :=
  [(0x09, 0x0D), (0x20, 0x20), (0x85, 0x85), (0xA0, 0xA0), (0x1680, 0x1680),
   (0x2000, 0x200A), (0x2028, 0x2029), (0x202F, 0x202F), (0x205F, 0x205F),
   (0x3000, 0x3000)]

/-- Whether a character is white space. -/
def isBlank (c : Char) : Bool :=
  blankRanges.covers c.toNat

/-- A text with every blank left out. -/
def withoutBlanks (t : Text) : Text :=
  t.filter (!isBlank ·)

/-- The first run of characters that are no blanks, empty if there is none. -/
def firstWord (t : Text) : Text :=
  (t.dropWhile isBlank).takeWhile (!isBlank ·)

end SourceLine.Text
