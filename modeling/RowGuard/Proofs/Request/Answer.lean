import RowGuard.Proofs.Lookup.Decision
import RowGuard.Proofs.Policy.Verdict
import RowGuard.Request.Reply

/-!
# What answering a request does

A step either goes on with a value or stops with a fault, and keeps what it changed in both cases.
Entering an event changes the state in one known way, and stops only where a text that the record
shows is missing. So an answer is a fixed succession of events, and its outcome that of the lookup
with the verdict of the policy.
-/

namespace RowGuard

namespace Log

/-- The record's fields leave the reserved names alone. -/
def Record.Free (r : Record) : Prop := ∀ name ∈ r.fields.map Prod.fst, name ∉ Record.reserved

/-- It is enough to look at the names of the fields. -/
theorem Record.free_of_names {r : Record} (names : List String)
    (hnames : r.fields.map Prod.fst = names) (h : ∀ name ∈ names, name ∉ reserved) :
    ∀ x, some r = some x → x.Free := by
  rintro x hx name hname
  obtain rfl := Option.some.inj hx
  rw [hnames] at hname
  exact h name hname

/-- Such a record is written, if the threshold lets it pass. -/
theorem Record.Free.emit {r : Record} (h : r.Free) (threshold : Nat) :
    r.emit threshold = .ok (if r.passes threshold then [r] else []) := by
  have hnone : (r.fields.any fun f => reserved.contains f.1) = false := by
    rw [List.any_eq_false]
    intro f hf
    rw [List.contains_iff_mem]
    exact h f.1 (List.mem_map_of_mem hf)
  rw [Record.emit, hnone]
  cases r.passes threshold with
  | true => rfl
  | false => rfl

end Log

namespace Request

/-! ## Events that can be worded -/

/-- The texts that the record of an event shows are there, and nothing is added to it. -/
def Event.Worded : Event → Prop
  | .received .. => True
  | .clauseFound _ _ clause => clause.isSome
  | .noMatch _ _ reason => reason.isSome
  | .invalid _ _ _ query => query.isSome
  | .violated _ _ rule query details => rule.isSome ∧ query.isSome ∧ details = []
  | .summary => True

/-- The record of such an event, if it has one, leaves the reserved names alone. -/
theorem Event.record?_of_worded {e : Event} (h : e.Worded) (limit : Int) (c : Counters) :
    ∃ r : Option Log.Record, e.record? limit c = .ok r ∧ ∀ x, r = some x → x.Free := by
  cases e with
  | received id query table =>
      exact ⟨_, rfl, Log.Record.free_of_names ["query_id", "table_name", "status", "query"] rfl
        (by decide)⟩
  | clauseFound id table clause =>
      obtain ⟨text, rfl⟩ := Option.isSome_iff_exists.mp h
      exact ⟨_, rfl, Log.Record.free_of_names ["query_id", "table_name", "status", "clause"] rfl
        (by decide)⟩
  | noMatch id table reason =>
      obtain ⟨text, rfl⟩ := Option.isSome_iff_exists.mp h
      exact ⟨_, rfl, Log.Record.free_of_names ["query_id", "table_name", "status", "reason"] rfl
        (by decide)⟩
  | invalid id table message query =>
      obtain ⟨text, rfl⟩ := Option.isSome_iff_exists.mp h
      exact ⟨_, rfl, Log.Record.free_of_names
        ["query_id", "table_name", "status", "error", "query"] rfl (by decide)⟩
  | violated id table rule query details =>
      obtain ⟨hrule, hquery, rfl⟩ := h
      obtain ⟨name, rfl⟩ := Option.isSome_iff_exists.mp hrule
      obtain ⟨text, rfl⟩ := Option.isSome_iff_exists.mp hquery
      exact ⟨_, rfl, Log.Record.free_of_names
        ["query_id", "table_name", "status", "rule", "query"] rfl (by decide)⟩
  | summary =>
      by_cases hzero : c.queries = 0
      · exact ⟨none, by rw [Event.record?, if_pos hzero],
          fun x hx => absurd hx.symm (Option.some_ne_none x)⟩
      · refine ⟨_, by rw [Event.record?, if_neg hzero], ?_⟩
        exact Log.Record.free_of_names ["metric_type", "total_queries", "clause_count",
          "no_match_count", "invalid_count", "violation_count", "clause_rate", "invalid_rate"] rfl
          (by decide)

theorem Journal.records_of_worded {e : Event} (h : e.Worded) (threshold : Nat) (j : Journal) :
    ∃ records, j.records threshold e = .ok records := by
  obtain ⟨r, hr, hfree⟩ := Event.record?_of_worded h j.limit (j.counters.after e)
  rw [Journal.records, hr]
  cases r with
  | none => exact ⟨[], rfl⟩
  | some x => exact ⟨_, (hfree x rfl).emit threshold⟩

/-- The outcome of a lookup can be worded: a lookup that finds no filter says why, and one that
refuses a query was given one. -/
theorem Event.worded_of_lookup {id : String} {query table : Option String} {e : Event}
    (h : Event.ofOutcome? id query table (lookup query table) = some e) : e.Worded := by
  by_cases hmissing : query.filter (· ≠ "") = none ∨ table.filter (· ≠ "") = none
  · rw [lookup_of_missing hmissing] at h
    obtain rfl := Option.some.inj h
    rfl
  · rw [not_or] at hmissing
    obtain ⟨q, hq⟩ := Option.ne_none_iff_exists'.mp hmissing.1
    obtain ⟨t, ht⟩ := Option.ne_none_iff_exists'.mp hmissing.2
    obtain ⟨rfl, hqne⟩ := Option.filter_eq_some_iff.mp hq
    obtain ⟨rfl, htne⟩ := Option.filter_eq_some_iff.mp ht
    rw [lookup_of_ne (of_decide_eq_true hqne) (of_decide_eq_true htne)] at h
    cases ho : (lookupIn (Query.normalize q.toList) t).1 with
    | clause text =>
        rw [ho] at h
        obtain rfl := Option.some.inj h
        rfl
    | noMatch reason =>
        rw [ho] at h
        obtain rfl := Option.some.inj h
        exact lookupIn_noMatch ho
    | invalid message =>
        rw [ho] at h
        obtain rfl := Option.some.inj h
        rfl
    | unknown =>
        rw [ho] at h
        exact absurd h.symm (Option.some_ne_none e)

/-! ## Steps -/

theorem run_bind_ok {α β : Type} {x : Step α} {s s' : State} {a : α}
    (h : x.run.run s = (.ok a, s')) (f : α → Step β) : (x >>= f).run.run s = (f a).run.run s' := by
  show StateT.run (ExceptT.bindCont f (x.run.run s).1) (x.run.run s).2 = _
  rw [h]
  rfl

/-- The state after an event: the tally counts it, and its record is written. -/
def State.entered (threshold : Nat) (e : Event) (s : State) : State where
  journal := s.journal.after e
  log := s.log ++ (s.journal.records threshold e).toOption.getD []

/-- The state after a lookup has reported. -/
def State.reported (threshold : Nat) (reports : List Diagnostic) (s : State) : State :=
  { s with log := s.log ++ (reports.map Diagnostic.record).filter (Log.Record.passes threshold) }

theorem enter_of_worded {e : Event} (h : e.Worded) (threshold : Nat) (s : State) :
    (enter threshold e).run.run s = (.ok (), s.entered threshold e) := by
  obtain ⟨records, hr⟩ := Journal.records_of_worded h threshold s.journal
  have hget : (get : Step State).run.run s = (.ok s, s) := rfl
  unfold enter
  rw [run_bind_ok hget]
  dsimp only
  rw [hr, State.entered, hr]
  rfl

theorem report_run (threshold : Nat) (reports : List Diagnostic) (s : State) :
    (report threshold reports).run.run s = (.ok (), s.reported threshold reports) := rfl

/-! ## Answers -/

/-- The state after a request has been received and looked up, its outcome entered. -/
def State.looked (threshold : Nat) (id : String) (query table : Option String) (outcome : Outcome)
    (reports : List Diagnostic) (s : State) : State :=
  let s := (s.entered threshold (.received id query table)).reported threshold reports
  match Event.ofOutcome? id query table outcome with
  | some e => s.entered threshold e
  | none => s

section

variable {engine : Engine} {query table : Option String} {outcome : Outcome}
  {reports : List Diagnostic} {id : String}

/-- An answer is a lookup, its events, and what the policy makes of the outcome. -/
theorem answer_eq (htrace : engine.trace query table = (outcome, reports))
    (hworded : ∀ e, Event.ofOutcome? id query table outcome = some e → e.Worded)
    (settings : Settings) (threshold : Nat) (s : State) :
    (answer engine settings threshold id query table).run.run s =
      StateT.run (ExceptT.run (match Policy.check engine.columns settings outcome table with
        | .ok () => return ⟨outcome, none⟩
        | .error (.fault f) => throw f
        | .error (.violation name v) => do
          enter threshold (.violated id table (some v.rule) query [])
          return ⟨outcome, some (name, v)⟩ : Step Reply))
        (s.looked threshold id query table outcome reports) := by
  have hreceived : (Event.received id query table).Worded := trivial
  unfold answer
  rw [run_bind_ok (enter_of_worded hreceived threshold s), htrace]
  dsimp only
  rw [run_bind_ok (report_run threshold reports _), State.looked]
  cases he : Event.ofOutcome? id query table outcome with
  | none => rfl
  | some e =>
      dsimp only
      exact run_bind_ok (enter_of_worded (hworded e he) threshold _) _

/-- What the policy lets through is answered with the outcome. -/
theorem answer_of_ok (htrace : engine.trace query table = (outcome, reports))
    (hworded : ∀ e, Event.ofOutcome? id query table outcome = some e → e.Worded)
    {settings : Settings} (hcheck : Policy.check engine.columns settings outcome table = .ok ())
    (threshold : Nat) (s : State) :
    (answer engine settings threshold id query table).run.run s =
      (.ok ⟨outcome, none⟩, s.looked threshold id query table outcome reports) := by
  rw [answer_eq htrace hworded, hcheck]
  rfl

/-- What violates the policy is entered as a violation. -/
theorem answer_of_violation (htrace : engine.trace query table = (outcome, reports))
    (hworded : ∀ e, Event.ofOutcome? id query table outcome = some e → e.Worded)
    {settings : Settings} {name : String} {v : Violation}
    (hcheck : Policy.check engine.columns settings outcome table = .error (.violation name v))
    (hquery : query.isSome = true) (threshold : Nat) (s : State) :
    (answer engine settings threshold id query table).run.run s =
      (.ok ⟨outcome, some (name, v)⟩,
        (s.looked threshold id query table outcome reports).entered threshold
          (.violated id table (some v.rule) query [])) := by
  have hviolated : (Event.violated id table (some v.rule) query []).Worded := ⟨rfl, hquery, rfl⟩
  rw [answer_eq htrace hworded, hcheck]
  dsimp only
  rw [run_bind_ok (enter_of_worded hviolated threshold _)]
  rfl

/-- On what the check cannot judge the answer stops, after the outcome has been entered. -/
theorem answer_of_fault (htrace : engine.trace query table = (outcome, reports))
    (hworded : ∀ e, Event.ofOutcome? id query table outcome = some e → e.Worded)
    {settings : Settings} {f : Fault}
    (hcheck : Policy.check engine.columns settings outcome table = .error (.fault f))
    (threshold : Nat) (s : State) :
    (answer engine settings threshold id query table).run.run s =
      (.error f, s.looked threshold id query table outcome reports) := by
  rw [answer_eq htrace hworded, hcheck]
  rfl

end

/-! ## The course of a request -/

/-- What a request comes to, whatever happened before it: the outcome of its lookup with the policy it
violates, or the fault on which the check stops. -/
def result (columns : String → Except Sql.ClauseError (List String)) (settings : Settings)
    (query table : Option String) : Except Fault Reply :=
  match Policy.check columns settings (lookup query table) table with
  | .ok () => .ok ⟨lookup query table, none⟩
  | .error (.fault f) => .error f
  | .error (.violation name v) => .ok ⟨lookup query table, some (name, v)⟩

/-- The events of a request after its lookup: the outcome, and the violation if there is one. -/
def Reply.followUps (id : String) (query table : Option String) (r : Reply) : List Event :=
  (Event.ofOutcome? id query table r.outcome).toList ++
    (r.violation.map fun v => Event.violated id table (some v.2.rule) query []).toList

/-- The reply that a request leaves traces of. One that stops on a fault leaves those of its
outcome. -/
def Reply.ofResult (outcome : Outcome) (result : Except Fault Reply) : Reply :=
  match result with
  | .ok reply => reply
  | .error _ => ⟨outcome, none⟩

/-- The state after a request with the given reply. -/
def State.answered (threshold : Nat) (id : String) (query table : Option String) (r : Reply)
    (s : State) : State :=
  (r.followUps id query table).foldl (fun s e => s.entered threshold e)
    ((s.entered threshold (.received id query table)).reported threshold (trace query table).2)

theorem looked_eq_answered (threshold : Nat) (id : String) (query table : Option String)
    (outcome : Outcome) (s : State) :
    s.looked threshold id query table outcome (trace query table).2 =
      s.answered threshold id query table ⟨outcome, none⟩ := by
  rw [State.looked, State.answered, Reply.followUps]
  cases Event.ofOutcome? id query table outcome with
  | none => rfl
  | some e => rfl

theorem entered_looked_eq_answered (threshold : Nat) (id : String) (query table : Option String)
    (outcome : Outcome) (name : String) (v : Violation) (s : State) :
    (s.looked threshold id query table outcome (trace query table).2).entered threshold
        (.violated id table (some v.rule) query []) =
      s.answered threshold id query table ⟨outcome, some (name, v)⟩ := by
  rw [State.looked, State.answered, Reply.followUps]
  cases Event.ofOutcome? id query table outcome with
  | none => rfl
  | some e => rfl

/-- A request without a query or a table violates no policy, whatever the settings hold. -/
theorem check_emptyInput_ne_violation (columns : String → Except Sql.ClauseError (List String))
    (settings : Settings) (table : Option String) (name : String) (v : Violation) :
    Policy.check columns settings (.noMatch (some Outcome.emptyInput)) table ≠
      .error (.violation name v) := by
  intro h
  obtain ⟨policy, hpolicy⟩ := Policy.exists_violated_policy h
  have hfiltered : Policy.unfiltered (some Outcome.emptyInput) = false := by decide
  exact Policy.checkAgainst_ne_violation hfiltered policy _ name v hpolicy

/-- So a query that violates one is there. -/
theorem isSome_of_violation {columns : String → Except Sql.ClauseError (List String)}
    {settings : Settings} {query table : Option String} {name : String} {v : Violation}
    (h : Policy.check columns settings (lookup query table) table = .error (.violation name v)) :
    query.isSome = true := by
  cases query with
  | some q => rfl
  | none =>
      rw [lookup_of_missing (Or.inl rfl)] at h
      exact absurd h (check_emptyInput_ne_violation columns settings table name v)

/--
**What a request comes to does not depend on what was before it.**

The reply, or the fault, is that of the settings, the query and the table alone, and the state
afterwards has the events of the request entered and nothing else changed.
-/
theorem answer_run (columns : String → Except Sql.ClauseError (List String)) (settings : Settings)
    (threshold : Nat) (id : String) (query table : Option String) (s : State) :
    (answer { columns := columns } settings threshold id query table).run.run s =
      (result columns settings query table,
        s.answered threshold id query table
          (.ofResult (lookup query table) (result columns settings query table))) := by
  have htrace : Engine.trace { columns := columns } query table =
      (lookup query table, (trace query table).2) := rfl
  have hworded : ∀ e, Event.ofOutcome? id query table (lookup query table) = some e → e.Worded :=
    fun e he => Event.worded_of_lookup he
  -- the check has the last say, and the outcome has been entered whatever it says
  rw [result]
  cases hcheck : Policy.check columns settings (lookup query table) table with
  | ok _ =>
      rw [answer_of_ok htrace hworded hcheck, looked_eq_answered]
      rfl
  | error refusal =>
      cases refusal with
      | fault f =>
          rw [answer_of_fault htrace hworded hcheck, looked_eq_answered]
          rfl
      | violation name v =>
          rw [answer_of_violation htrace hworded hcheck (isSome_of_violation hcheck),
            entered_looked_eq_answered _ _ _ _ _ name]
          rfl

/-- The events of a request are worded, whether or not it is answered. -/
theorem worded_of_mem_followUps {columns : String → Except Sql.ClauseError (List String)}
    {settings : Settings} {query table : Option String} {id : String} {e : Event}
    (he : e ∈ (Reply.ofResult (lookup query table)
      (result columns settings query table)).followUps id query table) : e.Worded := by
  have houtcome : ∀ e ∈ (Event.ofOutcome? id query table (lookup query table)).toList, e.Worded :=
    fun e he => Event.worded_of_lookup (Option.mem_toList.mp he)
  rw [result] at he
  cases hcheck : Policy.check columns settings (lookup query table) table with
  | ok _ =>
      rw [hcheck, Reply.ofResult, Reply.followUps] at he
      exact houtcome e ((List.mem_append.mp he).resolve_right List.not_mem_nil)
  | error refusal =>
      rw [hcheck] at he
      cases refusal with
      | fault f =>
          rw [Reply.ofResult, Reply.followUps] at he
          exact houtcome e ((List.mem_append.mp he).resolve_right List.not_mem_nil)
      | violation name v =>
          rw [Reply.ofResult, Reply.followUps] at he
          rcases List.mem_append.mp he with hout | hviolated
          · exact houtcome e hout
          · obtain rfl := List.mem_singleton.mp hviolated
            exact ⟨rfl, isSome_of_violation hcheck, rfl⟩

end Request

end RowGuard
