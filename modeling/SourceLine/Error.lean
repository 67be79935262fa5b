import SourceLine.Construct.Basic
import SourceLine.Shape
import SourceLine.Text.Quoted

/-!
# Errors

Why a name could not be given, and the messages that say so.
-/

namespace SourceLine

/-- What is wrong with a pattern. -/
inductive PatternFault where
  /-- It takes more than `limit` bytes when prepared. -/
  | tooLarge (limit : Nat)
  /-- It is not well formed, as the report says. -/
  | malformed (report : Text)

/-- The wording of a fault. -/
def PatternFault.message : PatternFault → Text
  | .tooLarge limit =>
    "Compiled regex exceeds size limit of ".toList ++ Text.decimal limit ++
      " bytes.".toList
  | .malformed report => report

/-- Why a line gave no name. -/
inductive Error where
  /-- The pattern of a shape cannot be used. -/
  | unusablePattern (shape : Shape) (fault : PatternFault)
  /-- The line does not open the construct that was asked for. -/
  | notOpened (wanted : Construct) (line : Text)
  /-- The line opens the construct, but no name can be found in it. -/
  | nameless (wanted : Construct) (line : Text)

namespace Error

/-- The wording of an error. -/
def message : Error → Text
  | unusablePattern shape fault =>
    "failed to compile ".toList ++ shape.name ++ " pattern: ".toList ++ fault.message
  | notOpened wanted line =>
    "line is not a ".toList ++ wanted.name ++ ": ".toList ++ Text.quoted line
  | nameless wanted line =>
    "no identifier found in ".toList ++ wanted.name ++ " line: ".toList ++
      Text.quoted line

/-- The construct that was asked for. -/
def wanted? : Error → Option Construct
  | unusablePattern .. => none
  | notOpened wanted _ | nameless wanted _ => some wanted

end Error

end SourceLine
