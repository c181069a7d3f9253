import RowGuard.Proofs.Policy.LetterCase
import RowGuard.Proofs.Request.Answer

/-!
# Letter case changes no verdict

A protected table is protected however it is spelled. Whoever writes the query or the name of the
table in other letters gets the same answer, and sees the difference only where a message repeats
the name.
-/

namespace RowGuard

namespace Request

/-- What a caller sees of two replies is the same, but for the name in the message. -/
structure Reply.SameButName (name name' : String) (r r' : Reply) : Prop where
  success : r.success = r'.success
  label : r.label = r'.label
  clause : r.clause? = r'.clause?
  message : Option.Rel (Text.SameButName name name') r.message? r'.message?

/-- Two requests that come to the same: one fault, or replies that differ in the name alone. -/
inductive SameButName (name name' : String) : Except Fault Reply → Except Fault Reply → Prop
  | fault (f : Fault) : SameButName name name' (.error f) (.error f)
  | reply {r r' : Reply} (h : r.SameButName name name' r') : SameButName name name' (.ok r) (.ok r')

variable {name name' : String}

/-- A reply without a violation shows the outcome. -/
theorem Reply.sameButName_of_passed {outcome outcome' : Outcome}
    (h : outcome.SameButName name name' outcome') :
    Reply.SameButName name name' ⟨outcome, none⟩ ⟨outcome', none⟩ := by
  obtain rfl | ⟨message, message', rfl, rfl, hmessage⟩ := h.cases
  · refine ⟨rfl, rfl, rfl, ?_⟩
    cases outcome' with
    | invalid message => exact .some (Text.SameButName.refl message)
    | _ => exact .none
  · exact ⟨rfl, rfl, rfl, .some hmessage⟩

/-- A reply with a violation shows its message, and the clause that was found. -/
theorem Reply.sameButName_of_violated {outcome outcome' : Outcome} {v v' : Violation}
    (h : outcome.SameButName name name' outcome')
    (hv : Text.SameButName name name' (v.message name) (v'.message name')) :
    Reply.SameButName name name' ⟨outcome, some (name, v)⟩ ⟨outcome', some (name', v')⟩ where
  success := rfl
  label := rfl
  clause := by
    obtain rfl | ⟨message, message', rfl, rfl, -⟩ := h.cases
    · rfl
    · rfl
  message := .some hv

theorem result_sameButName (columns : String → Except Sql.ClauseError (List String))
    (settings : Settings) {query query' : String}
    (hquery : Text.lowered query = Text.lowered query')
    (hname : Text.lowered name = Text.lowered name') :
    SameButName name name' (result columns settings (some query) (some name))
      (result columns settings (some query') (some name')) := by
  have hlookup := lookup_sameButName hquery hname
  have hcheck := Policy.check_sameButName columns settings hname hlookup
  unfold result
  generalize Policy.check columns settings (lookup (some query) (some name)) (some name) =
    checked at hcheck ⊢
  generalize Policy.check columns settings (lookup (some query') (some name')) (some name') =
    checked' at hcheck ⊢
  cases hcheck with
  | pass => exact .reply (Reply.sameButName_of_passed hlookup)
  | fault f => exact .fault f
  | violation hv => exact .reply (Reply.sameButName_of_violated hlookup hv)

/--
**Letter case changes no verdict.**

Two queries with the same small form, asked for two tables with the same small form, have the same
lookup, but that the message of a refusal has the one name or the other. Under any settings both
requests stop on the same fault, or both are answered with the same success, kind of answer and
clause, and with messages that differ at most in the name.
-/
theorem letter_case_immaterial {query query' table table' : String}
    (hquery : Text.lowered query = Text.lowered query')
    (htable : Text.lowered table = Text.lowered table')
    (columns : String → Except Sql.ClauseError (List String)) (settings : Settings)
    (threshold : Nat) (id id' : String) (s s' : State) :
    let engine : Engine := { columns := columns }
    (lookup (some query) (some table)).SameButName table table'
        (lookup (some query') (some table')) ∧
      SameButName table table'
        ((answer engine settings threshold id (some query) (some table)).run.run s).1
        ((answer engine settings threshold id' (some query') (some table')).run.run s').1 := by
  intro engine
  refine ⟨lookup_sameButName hquery htable, ?_⟩
  rw [answer_run, answer_run]
  exact result_sameButName columns settings hquery htable

/-- The last letter of a name in capitals has another small form inside a word than at its end. -/
theorem letter_case_immaterial_sigma :
    let settings := Settings.guarding "Κόσμος" (.map [(.str "require_filter", .bool true)])
    let ask := fun query table : String =>
      ((answer { columns := fun _ => .ok [] } settings 0 "1" (some query) (some table)).run.run {}).1
    Text.lowered "SELECT * FROM ΚΌΣΜΟΣ" = Text.lowered "select * From Κόσμος" ∧
    Text.lowered "ΚΌΣΜΟΣ" = Text.lowered "κόσμος" ∧
    ask "SELECT * FROM ΚΌΣΜΟΣ" "ΚΌΣΜΟΣ" =
      .ok ⟨.noMatch (some Outcome.noWhere), some ("ΚΌΣΜΟΣ", .missingFilter)⟩ ∧
    lookup (some "select * From Κόσμος") (some "κόσμος") = .noMatch (some Outcome.noWhere) ∧
    ∃ reply, ask "select * From Κόσμος" "κόσμος" = .ok reply ∧ reply.label = "violation" := by
  intro settings ask
  have hquery : Text.lowered "SELECT * FROM ΚΌΣΜΟΣ" = Text.lowered "select * From Κόσμος" := by
    decide +kernel
  have htable : Text.lowered "ΚΌΣΜΟΣ" = Text.lowered "κόσμος" := by decide +kernel
  have hlookup : lookup (some "SELECT * FROM ΚΌΣΜΟΣ") (some "ΚΌΣΜΟΣ") =
      .noMatch (some Outcome.noWhere) := by decide +kernel
  have hask : ask "SELECT * FROM ΚΌΣΜΟΣ" "ΚΌΣΜΟΣ" =
      .ok ⟨.noMatch (some Outcome.noWhere), some ("ΚΌΣΜΟΣ", .missingFilter)⟩ := by
    show ((answer _ _ _ _ _ _).run.run _).1 = _
    rw [answer_run]
    decide +kernel
  obtain ⟨hsame, hanswer⟩ :=
    letter_case_immaterial hquery htable (fun _ => .ok []) settings 0 "1" "1" {} {}
  refine ⟨hquery, htable, hask, ?_, ?_⟩
  · rw [hlookup] at hsame
    exact (Eq.symm hsame)
  · change SameButName _ _ (ask _ _) (ask _ _) at hanswer
    rw [hask] at hanswer
    generalize ask "select * From Κόσμος" "κόσμος" = answered at hanswer ⊢
    cases hanswer with
    | reply h => exact ⟨_, rfl, h.label.symm⟩

end Request

end RowGuard
