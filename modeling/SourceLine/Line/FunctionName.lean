import SourceLine.Shape

/-!
# Function names

A line can give the name of a function in three places: after the keyword, before
an assignment, and before the parameters. The first place that the line has decides,
also if the name found there is empty.
-/

namespace SourceLine

/-- The place of a function's name. -/
inductive NamePlace where
  /-- Between the keyword and the parameters, `function name(..) {`. -/
  | afterKeyword
  /-- Before the first `=`, itself before the parameters, `const name = (..) => {`. -/
  | beforeAssignment
  /-- Before the parameters, `name(..) {`. -/
  | beforeParameters
deriving DecidableEq

/-- A name with the place where it was found. -/
structure PlacedName where
  place : NamePlace
  name : Text
deriving DecidableEq

namespace Line

/-- The text before the first parameters of a line. -/
def beforeParameters? (line : Text) : Option Text :=
  Shape.parameters.pattern.before? line

/-- The name after the keyword: between the first `function` and space and the next
parenthesis or such keyword, blanks left out. It is empty if another blank follows the
keyword throughout. -/
def nameAfterKeyword (line : Text) : Text :=
  match Text.breakOn? "function ".toList line with
  | some (_, rest) =>
    Text.withoutBlanks ((Text.upTo "function ".toList rest).takeWhile (· != '('))
  | none => []

/-- The name in a binding, left of the assignment: what remains without keywords of
binding, equality signs and blanks. -/
def boundName (binding : Text) : Text :=
  Shape.bindingNoise.pattern.erase binding

end Line

namespace NamePlace

open Line

/-- The places, in the order in which they decide. -/
def all : List NamePlace :=
  [afterKeyword, beforeAssignment, beforeParameters]

/-- The label of a place. -/
def label : NamePlace → Text
  | afterKeyword => "function_keyword".toList
  | beforeAssignment => "assignment".toList
  | beforeParameters => "bare_call".toList

/-- The name at one place of a line, if the line has that place. -/
def nameIn? (line : Text) : NamePlace → Option Text
  | afterKeyword =>
    if Shape.keywordFunction.occursIn line then some (nameAfterKeyword line) else none
  | beforeAssignment => do
    let left ← beforeParameters? line
    let (binding, _) ← Text.breakOn? ['='] left
    return boundName binding
  | beforeParameters => do
    let left ← beforeParameters? line
    if '=' ∈ left then none else some (Text.withoutBlanks left)

/-- The name at one place of a line, with the place. -/
def placedNameIn? (line : Text) (place : NamePlace) : Option PlacedName :=
  (place.nameIn? line).map fun name => { place, name }

end NamePlace

namespace Line

/-- The name of the function of a line, with its place. -/
def placedName? (line : Text) : Option PlacedName :=
  NamePlace.all.findSome? (·.placedNameIn? line)

/-- The name of the function of a line, empty if there is none. The line need not open
a function. -/
def functionName (line : Text) : Text :=
  ((placedName? line).map PlacedName.name).getD []

end Line

end SourceLine
