import SourceLine.Text.Blank

/-!
# Sets of characters

The sets that a pattern can repeat: the blanks, everything on a line, and
the characters of given ranges.
-/

namespace SourceLine

/-- The characters from `first` to `last`, both included. -/
structure CharRange where
  first : Char
  last : Char
deriving DecidableEq

namespace CharRange

/-- The range of one character. -/
def single (c : Char) : CharRange := ⟨c, c⟩

/-- Whether a character lies in the range. -/
def contains (r : CharRange) (c : Char) : Bool :=
  decide (r.first ≤ c) && decide (c ≤ r.last)

end CharRange

/-- A set of characters. -/
inductive CharSet where
  /-- White space of any kind. -/
  | blank
  /-- Every character but the line feed. -/
  | inLine
  /-- The characters of some ranges. -/
  | ofRanges (ranges : List CharRange)
deriving DecidableEq

namespace CharSet

/-- Whether a character is in the set. -/
def contains : CharSet → Char → Bool
  | .blank, c => Text.isBlank c
  | .inLine, c => c != '\n'
  | .ofRanges ranges, c => ranges.any (·.contains c)

instance : Membership Char CharSet := ⟨fun s c => s.contains c = true⟩

instance (c : Char) (s : CharSet) : Decidable (c ∈ s) :=
  inferInstanceAs (Decidable (s.contains c = true))

theorem mem_iff {c : Char} {s : CharSet} : c ∈ s ↔ s.contains c = true := Iff.rfl

@[simp] theorem mem_blank {c : Char} : c ∈ CharSet.blank ↔ Text.isBlank c = true := Iff.rfl

@[simp] theorem mem_inLine {c : Char} : c ∈ CharSet.inLine ↔ c ≠ '\n' := by
  simp [mem_iff, contains]

@[simp] theorem mem_ofRanges {c : Char} {ranges : List CharRange} :
    c ∈ CharSet.ofRanges ranges ↔ ∃ r ∈ ranges, r.first ≤ c ∧ c ≤ r.last := by
  simp [mem_iff, contains, CharRange.contains]

/-- The ASCII letters. -/
def letter : CharSet :=
  .ofRanges [⟨'a', 'z'⟩, ⟨'A', 'Z'⟩]

/-- The ranges of the characters of identifiers: digits, letters and the underscore. -/
def wordRanges : List CharRange :=
  [⟨'0', '9'⟩, ⟨'A', 'Z'⟩, ⟨'a', 'z'⟩, .single '_']

/-- The characters of identifiers. -/
def word : CharSet :=
  .ofRanges wordRanges

/-- The characters of typed parameters and return types: those of identifiers, the
colon, the comma, angle and square brackets, tab and space. -/
def typed : CharSet :=
  .ofRanges (wordRanges ++ [':', ',', '<', '>', '\t', ' ', '[', ']'].map .single)

end CharSet

end SourceLine
