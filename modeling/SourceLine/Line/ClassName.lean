import SourceLine.Text.Blank

/-!
# Class names
-/

namespace SourceLine.Line

/-- The name of the class that a line declares: the first word after the first
`class` and space, without the braces at its end. It is empty if the line has no such
keyword or nothing follows it. The line need not open a class. -/
def className (line : Text) : Text :=
  match Text.breakOn? "class ".toList line with
  | some (_, rest) => Text.dropTrailing '{' (Text.firstWord rest)
  | none => []

end SourceLine.Line
