import SourceLine.Pattern.CharSet

/-!
# Patterns

A pattern describes the texts that a construct of a source line can have. It is
built from fixed texts, word boundaries and repetitions of the characters of a set
by sequence, choice and option. The order of choice matters where several texts
start at one place: the first alternative comes before the second, presence before
absence, and of a repetition the longest or the shortest, as it says.
-/

namespace SourceLine

/-- How often a character may be repeated, and which number is tried first. -/
structure Repeat where
  /-- The least number. -/
  least : Nat
  /-- How many more than the least are allowed, `none` if there is no limit. -/
  extra : Option Nat
  /-- Whether the fewest are tried first, not the most. -/
  fewest : Bool
deriving DecidableEq

/-- A pattern of text. -/
inductive Pattern where
  /-- A fixed text. -/
  | text (t : Text)
  /-- The empty text between a character of an identifier and one that is none, an end
  of the line counting as none. -/
  | boundary
  /-- A run of characters of a set. -/
  | run (s : CharSet) (count : Repeat)
  /-- A text of the first pattern and then one of the second. -/
  | seq (p q : Pattern)
  /-- A text of one of two patterns, the first being preferred. -/
  | alt (p q : Pattern)
  /-- A text of the pattern or, failing that, nothing. -/
  | opt (p : Pattern)
  /-- A part of a pattern marked as a unit. -/
  | group (p : Pattern)
deriving DecidableEq

namespace Pattern

instance : Append Pattern := ⟨seq⟩

/-- A fixed text. -/
def lit (s : String) : Pattern := .text s.toList

/-- Any number of characters of a set, the most first. -/
def many (s : CharSet) : Pattern := .run s ⟨0, none, false⟩

/-- One or more characters of a set, the most first. -/
def many1 (s : CharSet) : Pattern := .run s ⟨1, none, false⟩

/-- From `least` to `most` characters of a set, the most first. -/
def between (least most : Nat) (s : CharSet) : Pattern :=
  .run s ⟨least, some (most - least), false⟩

/-- From `least` to `most` characters of a set, the fewest first. -/
def betweenFewest (least most : Nat) (s : CharSet) : Pattern :=
  .run s ⟨least, some (most - least), true⟩

/-- Whether a character belongs to an identifier, an end of the line not doing so. -/
def isWord (c : Option Char) : Bool :=
  c.any CharSet.word.contains

/-- Whether a word starts or ends between two characters. -/
def isBoundary (before after : Option Char) : Bool :=
  isWord before != isWord after

end Pattern

end SourceLine
