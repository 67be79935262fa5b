import SourceLine.Construct.Basic

/-!
# Encoded constructs

In a structured document a construct is encoded by its tag, either as a string or as
the only key of an object that holds nothing. No other spelling is accepted.
-/

namespace SourceLine.Construct

/-- The tag of a construct in a document. -/
def tag : Construct → Text
  | classHeader => "class_declaration".toList
  | namedFunction => "named_function_declaration".toList
  | boundFunction => "named_function_expression".toList
  | anonymousFunction => "anonymous_function_declaration".toList
  | control => "built_in_control_statement".toList
  | nothing => "none".toList

/-- The construct of a tag. -/
def ofTag? (t : Text) : Option Construct :=
  all.find? (·.tag == t)

/-- A value of a structured document, as far as it can encode a construct. -/
inductive Encoded where
  /-- A string. -/
  | string (t : Text)
  /-- An object with one key, whose value is null. -/
  | emptyTag (key : Text)
  /-- Any other value. -/
  | other

/-- Why a value encodes no construct. -/
inductive DecodeError where
  /-- A string that is the tag of no construct. -/
  | unknownTag (t : Text)
  /-- A value that is no string. -/
  | notEncoded

/-- The construct that a value encodes. -/
def decode : Encoded → Except DecodeError Construct
  | .string t => (ofTag? t).elim (.error (.unknownTag t)) .ok
  | .emptyTag key => (ofTag? key).elim (.error .notEncoded) .ok
  | .other => .error .notEncoded

/-- A text between backquotes. -/
def backquoted (t : Text) : Text :=
  '\x60' :: t ++ ['\x60']

/-- The message for a string that is no tag, listing the tags. -/
def DecodeError.message? : DecodeError → Option Text
  | .unknownTag t =>
    some ("unknown variant ".toList ++ backquoted t ++ ", expected one of ".toList ++
      ", ".toList.intercalate (all.map fun c => backquoted c.tag))
  | .notEncoded => none

end SourceLine.Construct
