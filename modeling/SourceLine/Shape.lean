import SourceLine.Pattern.Pieces
import SourceLine.Pattern.Written

/-!
# Shapes

The patterns by which lines of brace languages are read. Six of them tell the
constructs apart, the other two take part in recovering names.
-/

namespace SourceLine

/-- A named pattern of source lines. -/
inductive Shape where
  /-- A class with its opening brace, `class Name .. {`. -/
  | classHeader
  /-- A name with typed parameters and perhaps a type, `name(..): .. {`. -/
  | typedHeader
  /-- A function without a name, `function (..) {`. -/
  | anonymousFunction
  /-- A function bound to a name, `name = function (..) {` or `name = (..) => {`. -/
  | boundFunction
  /-- A conditional or a loop, `if (..) {`. -/
  | control
  /-- A function introduced by its keyword, `function name(..) {`. -/
  | keywordFunction
  /-- Parameters in parentheses. -/
  | parameters
  /-- What stands around the name in a binding. -/
  | bindingNoise
deriving DecidableEq

namespace Shape

/-- The shapes, in their order. -/
def all : List Shape :=
  [classHeader, typedHeader, anonymousFunction, boundFunction, control, keywordFunction,
   parameters, bindingNoise]

/-- What a shape is called. -/
def name : Shape → Text
  | classHeader => "class declaration".toList
  | typedHeader => "named function header".toList
  | anonymousFunction => "anonymous function".toList
  | boundFunction => "named function expression".toList
  | control => "control statement".toList
  | keywordFunction => "function keyword".toList
  | parameters => "parameter list".toList
  | bindingNoise => "binding noise".toList

/-- The shape of a name. -/
def ofName? (t : Text) : Option Shape :=
  all.find? (·.name == t)

open Pattern

/-- Anything in parentheses on one line, to the last closing one that fits. -/
def parenthesized : Pattern :=
  lit "(" ++ many .inLine ++ lit ")"

/-- The opening brace, perhaps after blanks. -/
def openingBrace : Pattern :=
  many .blank ++ lit "\x7b"

/-- The pattern of a shape. -/
def pattern : Shape → Pattern
  | classHeader =>
    lit "class" ++ many1 .blank ++ many1 .letter ++ many .inLine ++ lit "\x7b"
  | typedHeader =>
    group (betweenFewest 1 200 .word) ++ boundary ++
      group (lit "(") ++ group (between 0 200 .typed) ++ group (lit ")") ++
      group (between 0 200 .typed) ++ group (lit "\x7b")
  | anonymousFunction =>
    lit "function" ++ many .blank ++ parenthesized ++ openingBrace
  | boundFunction =>
    many1 .letter ++ many .blank ++ lit "=" ++ many .blank ++ opt (lit "function") ++
      many .blank ++ many .letter ++ many .blank ++ parenthesized ++ many .blank ++
      opt (lit "=>") ++ openingBrace
  | control =>
    alt (lit "if") (alt (lit "switch") (alt (lit "while") (lit "for"))) ++
      many .blank ++ parenthesized ++ openingBrace
  | keywordFunction =>
    lit "function" ++ many1 .blank ++ many1 .letter ++ many .blank ++ parenthesized ++
      openingBrace
  | parameters => parenthesized
  | bindingNoise =>
    alt (lit "const ") (alt (lit "var ") (alt (lit "let ") (alt (lit "=") (many1 .blank))))

/-- Whether a line has the shape somewhere. -/
def occursIn (s : Shape) (line : Text) : Bool :=
  s.pattern.occursIn line

/-- Where the shape stands in a line, match after match. -/
def spans (s : Shape) (line : Text) : List Span :=
  s.pattern.spans line

end Shape

end SourceLine
