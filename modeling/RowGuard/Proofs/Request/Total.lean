import RowGuard.Proofs.Request.Answer

/-!
# Every request is answered

A request stops only on a fault, and there is one source of faults: a check that meets a value of the
wrong kind. Settings that give every value the kind it should have leave it none, if the columns of a
clause are found or fail to be found and are never left unjudged. The records a request writes need no
such care. Whatever the settings hold, an event is entered only with the texts that its record shows:
a missing query comes to no refusal and no violation, and a lookup that finds nothing says why.
-/

namespace RowGuard

/-- A policy that no check stops on: a mapping whose required columns, unless they are empty, are a
list of texts. -/
def Value.IsCheckable (policy : Value) : Prop :=
  ∃ fields, policy = .map fields ∧ ∀ v, find? "required_columns" fields = some v →
    v.truthy = true → ∃ names : List String, v = .list (names.map .str)

/-- Settings that no request stops on. What is left out or empty is no obstacle. -/
structure Settings.Serviceable (s : Settings) : Prop where
  limit : ∃ n : Int, s.parser.field "log_query_length" (.int 500) = .ok (.int n)
  isMap : ∃ fields, s.policies = .map fields
  tables : ∀ tables, s.policies.field "tables" (.map []) = .ok tables → tables.truthy = true →
    ∃ entries, tables = .map entries ∧ ∀ entry ∈ entries,
      (∃ name, entry.1 = .str name) ∧ (entry.2.truthy = true → entry.2.IsCheckable)

theorem Value.isCheckable_empty : (Value.map []).IsCheckable :=
  ⟨[], rfl, fun v hv => absurd hv.symm (Option.some_ne_none v)⟩

namespace Policy

variable {columns : String → Except Sql.ClauseError (List String)}

/-- The columns of a clause can be held against required columns that are empty or a list of texts. -/
theorem checkColumns_ne_fault (hjudged : ∀ text f, columns text ≠ .error (.unjudged f))
    {required : Value}
    (hrequired : required.truthy = true → ∃ names : List String, required = .list (names.map .str))
    (clause table : String) (f : Fault) :
    checkColumns columns clause table required ≠ .error (.fault f) := by
  rw [checkColumns]
  cases htrue : required.truthy with
  | false => exact fun h => by cases h
  | true =>
      -- only an item that is no text could stop the comparison, and there is none
      obtain ⟨names, rfl⟩ := hrequired htrue
      cases hcol : columns clause with
      | error e =>
          cases e with
          | unjudged g => exact absurd hcol (hjudged clause g)
          | refused why => exact fun h => by cases h
      | ok present =>
          have hmissing : (requiredItems (.list (names.map .str)) >>= missing present) =
              .ok (names.filter fun column => !present.contains (Text.lowered column)) :=
            missing_eq present names
          dsimp only
          rw [if_neg (by decide), hmissing]
          cases names.filter fun column => !present.contains (Text.lowered column) with
          | nil => exact fun h => by cases h
          | cons column others => exact fun h => by cases h

theorem checkAgainst_ne_fault (hjudged : ∀ text f, columns text ≠ .error (.unjudged f))
    {policy : Value} (hpolicy : policy.IsCheckable) (outcome : Outcome) (table : String)
    (f : Fault) : checkAgainst columns policy outcome table ≠ .error (.fault f) := by
  obtain ⟨fields, rfl, hrequired⟩ := hpolicy
  cases outcome with
  | invalid message => exact fun h => by cases h
  | unknown => exact fun h => by cases h
  | noMatch reason =>
      rw [checkAgainst, Value.field]
      dsimp only [Except.mapError, bind, Except.bind]
      split
      · exact fun h => by cases h
      · exact fun h => by cases h
  | clause text =>
      refine checkColumns_ne_fault hjudged (fun htrue => ?_) text table f
      cases hv : Value.find? "required_columns" fields with
      | none =>
          rw [hv] at htrue
          exact absurd htrue (by decide)
      | some v =>
          rw [hv] at htrue
          exact hrequired v hv htrue

/-- No check stops on such settings. -/
theorem check_ne_fault (hjudged : ∀ text f, columns text ≠ .error (.unjudged f))
    {settings : Settings} (h : settings.Serviceable) (outcome : Outcome) (table : String)
    (f : Fault) : check columns settings outcome (some table) ≠ .error (.fault f) := by
  obtain ⟨on, hon⟩ := Settings.enforced_of_map h.isMap
  obtain ⟨found, hfound, hcheckable⟩ :=
    Settings.policy?_of_forall Value.isCheckable_empty h.isMap h.tables table
  rw [check, hon, hfound]
  cases on with
  | false => exact fun h => by cases h
  | true =>
      cases found with
      | none => exact fun h => by cases h
      | some policy => exact checkAgainst_ne_fault hjudged (hcheckable policy rfl) outcome table f

end Policy

namespace Request

/-- A journal can be prepared under such settings. -/
theorem prepare_of_serviceable {settings : Settings} (h : settings.Serviceable) (s : State) :
    ∃ built, (prepare settings).run.run s = (.ok (), built) := by
  obtain ⟨n, hn⟩ := h.limit
  have hlimit : settings.logQueryLength = .ok n := by
    rw [Settings.logQueryLength, hn]
    rfl
  rw [prepare, hlimit]
  exact ⟨_, rfl⟩

/-- A check that does not stop gives a request its reply. -/
theorem exists_result {columns : String → Except Sql.ClauseError (List String)} {settings : Settings}
    {query table : Option String}
    (h : ∀ f, Policy.check columns settings (lookup query table) table ≠ .error (.fault f)) :
    ∃ reply, result columns settings query table = .ok reply := by
  rw [result]
  cases hcheck : Policy.check columns settings (lookup query table) table with
  | ok _ => exact ⟨_, rfl⟩
  | error refusal =>
      cases refusal with
      | fault f => exact absurd hcheck (h f)
      | violation name v => exact ⟨_, rfl⟩

/-- A missing query comes to nothing found, and to nothing else. -/
theorem reply_of_none {columns : String → Except Sql.ClauseError (List String)} {settings : Settings}
    {table : Option String} {reply : Reply}
    (h : result columns settings none table = .ok reply) :
    reply = ⟨.noMatch (some Outcome.emptyInput), none⟩ := by
  have hlookup : lookup none table = .noMatch (some Outcome.emptyInput) :=
    lookup_of_missing (Or.inl rfl)
  rw [result, hlookup] at h
  cases hcheck : Policy.check columns settings (.noMatch (some Outcome.emptyInput)) table with
  | ok _ =>
      rw [hcheck] at h
      exact (Except.ok.inj h).symm
  | error refusal =>
      rw [hcheck] at h
      cases refusal with
      | fault f => cases h
      | violation name v =>
          exact absurd hcheck (check_emptyInput_ne_violation columns settings table name v)

/--
**Every request is answered.**

Under settings that no request stops on, a journal is prepared and every request with a table is
answered, in whatever state it finds the journal. After its receipt and its lookup it enters the
events of its reply and no others, and each has the texts that its record shows. A missing query is
entered as one event, that nothing was found and why.
-/
theorem answer_total {columns : String → Except Sql.ClauseError (List String)}
    (hjudged : ∀ text f, columns text ≠ .error (.unjudged f)) {settings : Settings}
    (h : settings.Serviceable) (query : Option String) (table : String) (threshold : Nat)
    (id : String) (s : State) :
    (∃ built, (prepare settings).run.run s = (.ok (), built)) ∧
    ∃ reply,
      (answer { columns := columns } settings threshold id query (some table)).run.run s =
        (.ok reply, s.answered threshold id query (some table) reply) ∧
      (∀ e ∈ reply.followUps id query (some table), e.Worded) ∧
      (query = none → reply.followUps id query (some table) =
        [.noMatch id (some table) (some Outcome.emptyInput)]) := by
  refine ⟨prepare_of_serviceable h s, ?_⟩
  have hcheck : ∀ f, Policy.check columns settings (lookup query (some table)) (some table) ≠
      .error (.fault f) :=
    Policy.check_ne_fault hjudged h (lookup query (some table)) table
  obtain ⟨reply, hreply⟩ := exists_result hcheck
  have hrun := answer_run columns settings threshold id query (some table) s
  have hworded : ∀ e ∈ (Reply.ofResult (lookup query (some table))
      (result columns settings query (some table))).followUps id query (some table), e.Worded :=
    fun _ he => worded_of_mem_followUps he
  rw [hreply] at hrun hworded
  refine ⟨reply, hrun, hworded, ?_⟩
  rintro rfl
  rw [reply_of_none hreply]
  rfl

/-- A negative limit, and policies that are empty or ask for nothing. -/
theorem answer_total_sparse :
    let settings := Settings.ofEntries "config.yaml"
      [(.str "parser", .map [(.str "log_query_length", .int (-3))]),
        (.str "policies", .map [(.str "tables", .map [(.str "t", .null),
          (.str "u", .map [(.str "require_filter", .int 1), (.str "required_columns", .str "")])])])]
    ∃ reply, (answer { columns := fun _ => .error .malformed } settings 0 "1" none
        (some "u")).run.run {} = (.ok reply, State.answered 0 "1" none (some "u") reply {}) ∧
      reply.followUps "1" none (some "u") =
        [.noMatch "1" (some "u") (some Outcome.emptyInput)] := by
  intro settings
  have hserviceable : settings.Serviceable := by
    refine ⟨⟨-3, rfl⟩, ⟨_, rfl⟩, fun tables htables _ => ?_⟩
    obtain rfl := Except.ok.inj htables
    refine ⟨_, rfl, fun entry hentry => ?_⟩
    rcases List.mem_cons.mp hentry with rfl | hentry
    · exact ⟨⟨"t", rfl⟩, fun htrue => absurd htrue Bool.false_ne_true⟩
    · obtain rfl := List.mem_singleton.mp hentry
      refine ⟨⟨"u", rfl⟩, fun _ => ⟨_, rfl, fun v hv htrue => ?_⟩⟩
      obtain rfl := Option.some.inj hv
      exact absurd htrue Bool.false_ne_true
  have hjudged : ∀ (text : String) (f : Fault),
      (.error .malformed : Except Sql.ClauseError (List String)) ≠ .error (.unjudged f) := by
    intro _ _ h
    cases h
  obtain ⟨-, reply, hrun, -, hnone⟩ := answer_total hjudged hserviceable none "u" 0 "1" {}
  exact ⟨reply, hrun, hnone rfl⟩

end Request

end RowGuard
