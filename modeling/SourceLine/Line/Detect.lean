import SourceLine.Shape

/-!
# Constructs of a line

Which constructs a line opens. A line can open several; only a function without a
name is told apart from one with a name.
-/

namespace SourceLine.Line

/-- Whether a line opens a class: the keyword, a name that starts with a letter, and a
brace on the same line. -/
def opensClass (line : Text) : Bool :=
  Shape.classHeader.occursIn line

/-- Whether a line has a name directly followed by typed parameters, perhaps a type, and
a brace. A keyword is taken for a name, as in `if(x) {`. -/
def hasTypedHeader (line : Text) : Bool :=
  Shape.typedHeader.occursIn line

/-- Whether a line opens a function without a name. -/
def opensAnonymousFunction (line : Text) : Bool :=
  Shape.anonymousFunction.occursIn line

/-- Whether a line binds a function to a name. -/
def bindsFunction (line : Text) : Bool :=
  Shape.boundFunction.occursIn line

/-- Whether a line opens a function that has a name: by a typed header, unless it is
the header of an anonymous function, or by a binding. -/
def opensNamedFunction (line : Text) : Bool :=
  (hasTypedHeader line && !opensAnonymousFunction line) || bindsFunction line

/-- Whether a line opens an `if`, `switch`, `while` or `for`. It may open a named
function as well. -/
def opensControl (line : Text) : Bool :=
  Shape.control.occursIn line

end SourceLine.Line
