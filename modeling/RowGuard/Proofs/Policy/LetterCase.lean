import RowGuard.Proofs.Lookup.LetterCase
import RowGuard.Proofs.Policy.Verdict

/-!
# Letter case in a check

The policy of a table is found by the small form of its name, whatever else the settings hold, and
nothing in the check looks at the name again but to word the violation.
-/

namespace RowGuard

namespace Settings

theorem policyIn_eq_of_lowered {table table' : String}
    (h : Text.lowered table = Text.lowered table') (entries : List (Value × Value)) :
    policyIn (some table) entries = policyIn (some table') entries := by
  induction entries with
  | nil => rfl
  | cons entry rest ih =>
      obtain ⟨key, policy⟩ := entry
      cases key with
      | str name =>
          rw [policyIn, policyIn, h, ih]
      | bytes content => exact ih
      | _ => rfl

theorem policy?_eq_of_lowered {table table' : String}
    (h : Text.lowered table = Text.lowered table') (settings : Settings) :
    settings.policy? (some table) = settings.policy? (some table') := by
  unfold policy?
  simp only [policyIn_eq_of_lowered h]

end Settings

namespace Policy

/-- Two checks that come to the same, but for the name in the message of a violation. -/
inductive SameButName (name name' : String) : Except Refusal Unit → Except Refusal Unit → Prop
  | pass : SameButName name name' (.ok ()) (.ok ())
  | fault (f : Fault) : SameButName name name' (.error (.fault f)) (.error (.fault f))
  | violation {v v' : Violation}
      (h : Text.SameButName name name' (v.message name) (v'.message name')) :
      SameButName name name' (.error (.violation name v)) (.error (.violation name' v'))

variable {name name' : String}

/-- One violation of both tables is worded alike for them. -/
theorem message_sameButName (v : Violation) :
    Text.SameButName name name' (v.message name) (v.message name') := by
  cases v with
  | invalidQuery message => exact Text.SameButName.refl message
  | missingFilter => exact Message.missingFilter_sameButName name name'
  | unreadable clause error => exact Text.SameButName.refl _
  | missingColumns columns => exact Message.missingColumns_sameButName name name' columns

theorem SameButName.of_violation (v : Violation) :
    SameButName name name' (.error (.violation name v)) (.error (.violation name' v)) :=
  .violation (message_sameButName v)

theorem checkColumns_sameButName (columns : String → Except Sql.ClauseError (List String))
    (clause : String) (required : Value) :
    SameButName name name' (checkColumns columns clause name required)
      (checkColumns columns clause name' required) := by
  unfold checkColumns
  by_cases hrequired : (!required.truthy) = true
  · rw [if_pos hrequired, if_pos hrequired]
    exact .pass
  · rw [if_neg hrequired, if_neg hrequired]
    cases columns clause with
    | error e =>
        cases e with
        | unjudged f => exact .fault f
        | _ => exact .of_violation _
    | ok present =>
        dsimp only
        cases requiredItems required >>= missing present with
        | error f => exact .fault f
        | ok absent =>
            cases absent with
            | nil => exact .pass
            | cons column others => exact .of_violation _

/-- Outcomes that are the same but for the table's name are held against a policy alike. -/
theorem checkAgainst_sameButName (columns : String → Except Sql.ClauseError (List String))
    (policy : Value) {outcome outcome' : Outcome} (h : outcome.SameButName name name' outcome') :
    SameButName name name' (checkAgainst columns policy outcome name)
      (checkAgainst columns policy outcome' name') := by
  obtain rfl | ⟨message, message', rfl, rfl, hmessage⟩ := h.cases
  · cases outcome' with
    | unknown => exact .pass
    | invalid message => exact .of_violation _
    | noMatch reason =>
        rw [checkAgainst, checkAgainst]
        cases policy.field "require_filter" (.bool false) with
        | error f => exact .fault f
        | ok required =>
            dsimp only [Except.mapError, bind, Except.bind]
            by_cases hmissing : (required.truthy && unfiltered reason) = true
            · rw [if_pos hmissing, if_pos hmissing]
              exact .of_violation _
            · rw [if_neg hmissing, if_neg hmissing]
              exact .pass
    | clause text =>
        rw [checkAgainst, checkAgainst]
        cases policy.field "required_columns" (.list []) with
        | error f => exact .fault f
        | ok required => exact checkColumns_sameButName columns text required
  · exact .violation hmessage

/-- Letter case changes no check, but for the table's name in the message of a violation. -/
theorem check_sameButName (columns : String → Except Sql.ClauseError (List String))
    (settings : Settings) (hname : Text.lowered name = Text.lowered name')
    {outcome outcome' : Outcome} (h : outcome.SameButName name name' outcome') :
    SameButName name name' (check columns settings outcome (some name))
      (check columns settings outcome' (some name')) := by
  rw [check, check, Settings.policy?_eq_of_lowered hname]
  cases settings.enforced with
  | error f => exact .fault f
  | ok on =>
      cases on with
      | false => exact .pass
      | true =>
          cases settings.policy? (some name') with
          | error f => exact .fault f
          | ok found =>
              cases found with
              | none => exact .pass
              | some policy => exact checkAgainst_sameButName columns policy h

end Policy

end RowGuard
