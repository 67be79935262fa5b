import SourceLine.Pattern.Reach

/-!
# Matches of a pattern in a line

The successive matches of a pattern cut a line into pieces: the matches, each
starting at the first place that has one after the last, and the characters between
them. Where the matches are, what stands before the first and what is left without
them are read off the pieces. Empty matches are passed over.
-/

namespace SourceLine

/-- A piece of a line. -/
inductive Piece where
  /-- A character outside every match. -/
  | plain (c : Char)
  /-- A match. -/
  | found (t : Text)
deriving DecidableEq

/-- A part of a line, by the UTF-8 offsets of its start and end. -/
structure Span where
  start : Nat
  stop : Nat
deriving DecidableEq

namespace Piece

/-- The text of a piece. -/
def text : Piece → Text
  | .plain c => [c]
  | .found t => t

/-- The character of a piece outside the matches. -/
def plain? : Piece → Option Char
  | .plain c => some c
  | .found _ => none

/-- Whether the piece is a match. -/
def isFound : Piece → Bool
  | .plain _ => false
  | .found _ => true

/-- The spans of the matches among pieces, the first of which starts at `offset`. -/
def spans (offset : Nat) : List Piece → List Span
  | [] => []
  | .plain c :: pieces => spans (offset + c.utf8Size) pieces
  | .found t :: pieces =>
    let stop := offset + (String.ofList t).utf8ByteSize
    ⟨offset, stop⟩ :: spans stop pieces

end Piece

/-- The pieces of a line by the table of its matches. The first `inside` characters
belong to a match already taken. -/
def Reach.pieces (inside : Nat) : Reach → Text → List Piece
  | here :: reach, c :: line =>
    match inside, here with
    | inside + 1, _ => pieces inside reach line
    | 0, some (n + 1) => .found (c :: line.take n) :: pieces n reach line
    | 0, _ => .plain c :: pieces 0 reach line
  | _, _ => []

namespace Pattern

/-- The pieces into which the matches of the pattern cut a line. -/
def pieces (p : Pattern) (line : Text) : List Piece :=
  (p.reach line).pieces 0 line

/-- Whether the pattern has a match in a line, perhaps an empty one. -/
def occursIn (p : Pattern) (line : Text) : Bool :=
  (p.reach line).any Option.isSome

/-- The successive matches of the pattern in a line. -/
def spans (p : Pattern) (line : Text) : List Span :=
  Piece.spans 0 (p.pieces line)

/-- The text before the first match of the pattern in a line. -/
def before? (p : Pattern) (line : Text) : Option Text :=
  let pieces := p.pieces line
  if pieces.any Piece.isFound then
    some ((pieces.takeWhile (!·.isFound)).flatMap Piece.text)
  else none

/-- A line without the matches of the pattern. -/
def erase (p : Pattern) (line : Text) : Text :=
  (p.pieces line).filterMap Piece.plain?

end Pattern

end SourceLine
