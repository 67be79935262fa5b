import SourceLine.Text.Basic

/-!
# Constructs

What a line of source can open.
-/

namespace SourceLine

/-- The role of a line of source. -/
inductive Construct where
  /-- A class. -/
  | classHeader
  /-- A function with a name. -/
  | namedFunction
  /-- A function bound to a name by an assignment. -/
  | boundFunction
  /-- A function without a name. -/
  | anonymousFunction
  /-- A conditional or a loop. -/
  | control
  /-- None of these. -/
  | nothing
deriving DecidableEq

namespace Construct

instance : Inhabited Construct := ⟨nothing⟩

/-- The constructs that a line can open, in the order in which they are reported. -/
def opened : List Construct :=
  [classHeader, namedFunction, boundFunction, anonymousFunction, control]

/-- All constructs. -/
def all : List Construct :=
  opened ++ [nothing]

/-- The name of a construct. -/
def name : Construct → Text
  | classHeader => "class_declaration".toList
  | namedFunction => "named_function_declaration".toList
  | boundFunction => "named_function_expression".toList
  | anonymousFunction => "anonymous_function_declaration".toList
  | control => "built_in_control_statement".toList
  | nothing => "none".toList

/-- Whether the construct is a function that has a name. -/
def isNamed : Construct → Bool
  | namedFunction | boundFunction => true
  | _ => false

end Construct

end SourceLine
