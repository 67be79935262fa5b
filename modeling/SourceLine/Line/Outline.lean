import SourceLine.Construct.Basic
import SourceLine.Line.ClassName
import SourceLine.Line.Detect
import SourceLine.Line.FunctionName

/-!
# Outline of a line

All constructs that a line opens, and the name that it declares.
-/

namespace SourceLine

/-- What a line contributes to the outline of a source file. -/
structure Outline where
  /-- The constructs that the line opens, in the order of `Construct.opened`. -/
  constructs : List Construct
  /-- The name of the first of them, if it is asked for, has one and shows it. -/
  name : Option Text
deriving DecidableEq

namespace Outline

/-- Whether no construct was found. -/
def isEmpty (o : Outline) : Bool := o.constructs.isEmpty

/-- Whether a construct was found; `nothing` is, if no other was. -/
def has (o : Outline) (c : Construct) : Bool :=
  if c = .nothing then o.isEmpty else o.constructs.contains c

/-- The first construct found. -/
def primary (o : Outline) : Construct := o.constructs.headD .nothing

/-- What to report of a line. -/
structure Options where
  /-- Whether to look for the name. -/
  names : Bool := true
  /-- Whether a line that opens a control statement opens no named function. -/
  controlWins : Bool := false
deriving DecidableEq

namespace Options

instance : Inhabited Options := ⟨{}⟩

/-- Constructs without names. -/
def constructsOnly : Options := { names := false }

/-- Control statements are not taken for functions. -/
def disambiguated : Options := { controlWins := true }

end Options

end Outline

namespace Line

/-- Whether a line opens a construct, as its outline reports it. A line that opens a
named function opens no anonymous one, also where control statements win. -/
def opens (controlWins : Bool) (line : Text) : Construct → Bool
  | .classHeader => opensClass line
  | .namedFunction => !(controlWins && opensControl line) && opensNamedFunction line
  | .boundFunction => !(controlWins && opensControl line) && bindsFunction line
  | .anonymousFunction => !opensNamedFunction line && opensAnonymousFunction line
  | .control => opensControl line
  | .nothing => false

/-- The name of a construct of a line. -/
def nameOf? (line : Text) (c : Construct) : Option Text :=
  let name := match c with
    | .classHeader => className line
    | .namedFunction | .boundFunction => functionName line
    | _ => []
  if name.isEmpty then none else some name

/-- The outline of a line. -/
def outline (line : Text) (o : Outline.Options := {}) : Outline :=
  let constructs := Construct.opened.filter (opens o.controlWins line)
  { constructs
    name := if o.names then constructs.head?.bind (nameOf? line) else none }

end Line

end SourceLine
