import SourceLine.Pattern.Basic

/-!
# The written form of patterns

Patterns are shown as regular expressions: `\s` is a blank, `.` any character but
the line feed, `[..]` a set of ranges, `\b` a boundary, `(..)` a group and `(?:..)`
a part held together without being one.
-/

namespace SourceLine

/-- The characters that mean something in a regular expression. -/
def metaChars : Text := "\\.+*?()|[]\x7b\x7d^$".toList

/-- The characters that mean something between square brackets. -/
def bracketMetaChars : Text := "\\[]^-".toList

/-- A character with a backslash before it if it would mean something else. -/
def escapeAmong (special : Text) (c : Char) : Text :=
  if c = '\t' then ['\\', 't'] else if c ∈ special then ['\\', c] else [c]

/-- A range between square brackets. -/
def CharRange.written (r : CharRange) : Text :=
  let bound := escapeAmong bracketMetaChars
  if r.first = r.last then bound r.first else bound r.first ++ '-' :: bound r.last

/-- The written form of a set. -/
def CharSet.written : CharSet → Text
  | .blank => ['\\', 's']
  | .inLine => ['.']
  | .ofRanges ranges => '[' :: ranges.flatMap CharRange.written ++ [']']

/-- The written form of a repetition, which follows what it repeats. -/
def Repeat.written (r : Repeat) : Text :=
  let count := match r.least, r.extra with
    | 0, none => ['*']
    | 1, none => ['+']
    | n, none => '{' :: Text.decimal n ++ [',', '}']
    | n, some k => '{' :: Text.decimal n ++ ',' :: Text.decimal (n + k) ++ ['}']
  if r.fewest then count ++ ['?'] else count

namespace Pattern

/-- A written pattern held together. -/
def held (t : Text) : Text := "(?:".toList ++ t ++ [')']

/-- Whether the pattern is a choice, which binds weaker than a sequence. -/
def isAlt : Pattern → Bool
  | .alt .. => true
  | _ => false

/-- The written form of a pattern. -/
def written : Pattern → Text
  | .text t => t.flatMap (escapeAmong metaChars)
  | .boundary => ['\\', 'b']
  | .run s count => s.written ++ count.written
  | .seq p q =>
    (if p.isAlt then held p.written else p.written) ++
      (if q.isAlt then held q.written else q.written)
  | .alt p q => p.written ++ '|' :: q.written
  | .opt p => held p.written ++ ['?']
  | .group p => '(' :: p.written ++ [')']

end Pattern

end SourceLine
