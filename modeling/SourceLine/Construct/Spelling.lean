import SourceLine.Construct.Basic
import SourceLine.Text.Lowercase

/-!
# Spellings of constructs

A construct may be given in any case, with hyphens for underscores, and classes and
control statements by a short word too.
-/

namespace SourceLine.Construct

/-- The spellings of constructs, in lowercase and with underscores. -/
def spellings : List (Text × Construct) :=
  [("class_declaration".toList, classHeader), ("class".toList, classHeader),
   ("named_function_declaration".toList, namedFunction),
   ("named_function_expression".toList, boundFunction),
   ("anonymous_function_declaration".toList, anonymousFunction),
   ("built_in_control_statement".toList, control), ("control".toList, control),
   ("none".toList, nothing)]

/-- A text in lowercase, with underscores for hyphens. -/
def normalized (t : Text) : Text :=
  (Text.lowercase t).map fun c => if c = '-' then '_' else c

/-- The construct that a text spells. -/
def ofSpelling? (t : Text) : Option Construct :=
  spellings.lookup (normalized t)

/-- The message for a text that spells no construct. -/
def unknownSpelling (t : Text) : Text :=
  "unknown construct kind: ".toList ++ t

/-- The construct that a text spells, or the message that there is none. -/
def read (t : Text) : Except Text Construct :=
  match ofSpelling? t with
  | some c => .ok c
  | none => .error (unknownSpelling t)

end SourceLine.Construct
