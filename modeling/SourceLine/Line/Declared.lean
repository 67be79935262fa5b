import SourceLine.Error
import SourceLine.Line.ClassName
import SourceLine.Line.Detect
import SourceLine.Line.FunctionName

/-!
# Declared names

The names of classes and functions, for lines that must declare one.
-/

namespace SourceLine.Line

/-- A name that a line shows, given that it opens the construct that is wanted. -/
def declared (wanted : Construct) (opened : Bool) (name line : Text) :
    Except Error Text :=
  if !opened then .error (.notOpened wanted line)
  else if name.isEmpty then .error (.nameless wanted line)
  else .ok name

/-- The name of the class that a line opens. -/
def declaredClass (line : Text) : Except Error Text :=
  declared .classHeader (opensClass line) (className line) line

/-- The name of the named function that a line opens. -/
def declaredFunction (line : Text) : Except Error Text :=
  declared .namedFunction (opensNamedFunction line) (functionName line) line

end SourceLine.Line
