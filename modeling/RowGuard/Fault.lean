/-!
# Faults

What goes wrong when a value is not of the kind an operation needs. Settings may hold anything that
a file can say, and nothing checks them ahead of their use.
-/

namespace RowGuard

/-- Why an operation on a value fails. -/
inductive Fault where
  /-- The value has no such field or operation. -/
  | noSuchField
  /-- The operation does not take values of this kind. -/
  | wrongKind
  /-- The value is of the right kind and still does not denote what is asked for. -/
  | badContent
  /-- The number is beyond what can be represented. -/
  | overflow
  /-- The name is taken, or stands for nothing. -/
  | badName
  /-- The text ends before what is asked for. -/
  | tooShort
  /-- The bytes are no text. -/
  | undecodable
  deriving DecidableEq, Repr

/-- What the user is told. -/
def Fault.message : Fault → String
  | noSuchField => "a value has no such field or operation"
  | wrongKind => "a value is of the wrong kind"
  | badContent => "a value does not denote what is asked for"
  | overflow => "a number is too large"
  | badName => "a name is taken or stands for nothing"
  | tooShort => "a text ends too early"
  | undecodable => "a file is not a text"

end RowGuard
