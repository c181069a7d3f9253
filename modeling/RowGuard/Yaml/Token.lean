import RowGuard.Fault
import RowGuard.Yaml.Position

/-!
# Tokens of a document

The indicators, properties and scalars of a document, with marks for where indented blocks begin
and end.
-/

namespace RowGuard.Yaml

/-- Why a document cannot be read. -/
inductive Error where
  /-- The document is refused, and the text says why. -/
  | refused (text : String)
  /-- A scalar does not denote a value of its kind. -/
  | fault (f : Fault)
  deriving DecidableEq, Repr

/-- The document does not follow the rules of the format. Where it does not is left unsaid. -/
def Error.malformed : Error := .refused "not a document of settings"

/-- A line with an instruction ahead of a document. -/
inductive Directive where
  | version (major minor : Nat)
  /-- A tag that begins with the handle stands for one that begins with `stem`. -/
  | tag (handle stem : String)
  | other
  deriving DecidableEq, Repr

/-- A token of a document. -/
inductive Token where
  | directive (d : Directive)
  | documentStart
  | documentEnd
  | streamEnd
  | blockSequenceStart
  | blockMappingStart
  | blockEnd
  | flowSequenceStart
  | flowSequenceEnd
  | flowMappingStart
  | flowMappingEnd
  | flowEntry
  | blockEntry
  | key
  | value
  | alias (name : String)
  | anchor (name : String)
  | tag (handle : Option String) (suffix : String)
  /-- A text; a plain one has no quotes and is not a block. -/
  | scalar (text : String) (plain : Bool)
  /-- The document cannot be read further. -/
  | broken (e : Error)
  deriving DecidableEq, Repr

end RowGuard.Yaml
