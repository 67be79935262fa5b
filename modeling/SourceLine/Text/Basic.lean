/-!
# Texts

A line of source and every part of it is the list of its characters. The
operations here cut a text at a mark.
-/

namespace SourceLine

/-- A piece of text, character by character. -/
abbrev Text := List Char

namespace Text

/-- The texts before and after the first occurrence of `mark`. -/
def breakOn? (mark : Text) : Text → Option (Text × Text)
  | [] => (mark.isPrefixOf? []).map ([], ·)
  | c :: t =>
    match mark.isPrefixOf? (c :: t) with
    | some rest => some ([], rest)
    | none => (breakOn? mark t).map fun (before, after) => (c :: before, after)

/-- The text before the first occurrence of `mark`, all of it if there is none. -/
def upTo (mark t : Text) : Text :=
  ((breakOn? mark t).map Prod.fst).getD t

/-- A text without the run of `c` at its end. -/
def dropTrailing (c : Char) (t : Text) : Text :=
  (t.reverse.dropWhile (· == c)).reverse

/-- The decimal digits of a number. -/
def decimal (n : Nat) : Text :=
  Nat.toDigits 10 n

end Text

end SourceLine
