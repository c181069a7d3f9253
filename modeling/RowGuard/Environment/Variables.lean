import RowGuard.Text.Case

/-!
# Variables of the environment
-/

namespace RowGuard

/-- The variables that are set, each name once. -/
abbrev Variables := List (String × String)

namespace Variables

/-- The value of a variable. -/
def get? (vars : Variables) (name : String) : Option String := vars.lookup name

/-- Sets a variable unless it is set. -/
def setDefault (vars : Variables) (name value : String) : Variables :=
  if (vars.get? name).isSome then vars else vars ++ [(name, value)]

end Variables

end RowGuard
