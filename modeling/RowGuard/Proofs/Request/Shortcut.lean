import RowGuard.Proofs.Lookup.Shortcut
import RowGuard.Proofs.Request.Tally

/-!
# The shortcut changes no verdict

Requests may be answered by the lookup that takes a query without groups as it is, or by the one
that scans every query. The two give other reasons for a query without a filter, but a policy treats
these reasons alike and the journal counts them alike, so nobody who asks can tell which lookup
answers.
-/

namespace RowGuard

namespace Policy

/-- A policy knows of a reason only whether the query counts as unfiltered by it. -/
theorem checkAgainst_noMatch_congr (columns : String → Except Sql.ClauseError (List String))
    (policy : Value) {reason reason' : Option String} (h : unfiltered reason = unfiltered reason')
    (table : String) :
    checkAgainst columns policy (.noMatch reason) table =
      checkAgainst columns policy (.noMatch reason') table := by
  simp only [checkAgainst, h]

theorem check_noMatch_congr (columns : String → Except Sql.ClauseError (List String))
    (settings : Settings) {reason reason' : Option String}
    (h : unfiltered reason = unfiltered reason') (table : Option String) :
    check columns settings (.noMatch reason) table =
      check columns settings (.noMatch reason') table := by
  have hsame := fun policy => checkAgainst_noMatch_congr columns policy h (table.getD "")
  unfold check
  simp only [hsame]

end Policy

open Query

namespace Request

/-- What a caller sees of a reply. -/
structure Reply.Shown where
  success : Bool
  label : String
  clause : Option String
  message : Option String
  deriving DecidableEq, Repr

def Reply.shown (r : Reply) : Reply.Shown := ⟨r.success, r.label, r.clause?, r.message?⟩

/-- What is seen of an answer: the fault or what the reply shows, and the journal. -/
def observed (run : Except Fault Reply × State) : Except Fault Reply.Shown × Journal :=
  (run.1.map Reply.shown, run.2.journal)

theorem shown_scanned (outcome : Outcome) (violation : Option (String × Violation)) :
    Reply.shown ⟨outcome.scanned, violation⟩ = Reply.shown ⟨outcome, violation⟩ := by
  rcases outcome.scanned_cases with h | ⟨rfl, h⟩
  · rw [h]
  · rw [h]
    cases violation with
    | none => rfl
    | some v => rfl

theorem check_scanned (columns : String → Except Sql.ClauseError (List String))
    (settings : Settings) (outcome : Outcome) (table : Option String) :
    Policy.check columns settings outcome.scanned table =
      Policy.check columns settings outcome table := by
  rcases outcome.scanned_cases with h | ⟨rfl, h⟩
  · rw [h]
  · rw [h]
    have hunfiltered : Policy.unfiltered (some Outcome.noTopLevelWhere) =
        Policy.unfiltered (some Outcome.noWhere) := by decide
    exact Policy.check_noMatch_congr columns settings hunfiltered table

theorem Event.worded_of_scanned {id : String} {query table : Option String} {e : Event}
    (h : Event.ofOutcome? id query table (lookup query table).scanned = some e) : e.Worded := by
  rcases (lookup query table).scanned_cases with hsame | ⟨-, hreason⟩
  · rw [hsame] at h
    exact Event.worded_of_lookup h
  · rw [hreason] at h
    obtain rfl := Option.some.inj h
    rfl

/-- The journal counts an outcome by its kind. -/
theorem journal_looked_scanned (threshold : Nat) (id : String) (query table : Option String)
    (outcome : Outcome) (reports reports' : List Diagnostic) {s s' : State}
    (h : s'.journal = s.journal) :
    (s'.looked threshold id query table outcome.scanned reports').journal =
      (s.looked threshold id query table outcome reports).journal := by
  have hreceived : ((s'.entered threshold (.received id query table)).reported threshold
      reports').journal = ((s.entered threshold (.received id query table)).reported threshold
      reports).journal := by
    show s'.journal.after _ = s.journal.after _
    rw [h]
  unfold State.looked
  rcases outcome.scanned_cases with hsame | ⟨rfl, hreason⟩
  · rw [hsame]
    cases Event.ofOutcome? id query table outcome with
    | none => exact hreceived
    | some e => exact congrArg (Journal.after · e) hreceived
  · rw [hreason]
    exact congrArg (Journal.after · (.noMatch id table (some Outcome.noWhere))) hreceived

/-- One request, made by either lookup, is answered alike and leaves the journal alike. -/
theorem answer_observed (columns : String → Except Sql.ClauseError (List String))
    (settings : Settings) (threshold : Nat) (id : String) (query table : Option String)
    {s s' : State} (h : s'.journal = s.journal) :
    observed ((answer { trace := scanningTrace, columns := columns } settings threshold id query
        table).run.run s') =
      observed ((answer { columns := columns } settings threshold id query table).run.run s) := by
  have htrace : Engine.trace { columns := columns } query table =
      (lookup query table, (trace query table).2) := rfl
  have hworded : ∀ e, Event.ofOutcome? id query table (lookup query table) = some e → e.Worded :=
    fun e he => Event.worded_of_lookup he
  have htrace' : Engine.trace { trace := scanningTrace, columns := columns } query table =
      ((lookup query table).scanned, (scanningTrace query table).2) :=
    Prod.ext (scanningTrace_eq query table) rfl
  have hworded' : ∀ e, Event.ofOutcome? id query table (lookup query table).scanned = some e →
      e.Worded := fun e he => Event.worded_of_scanned he
  have hcheck' := check_scanned columns settings (lookup query table) table
  have hlooked := journal_looked_scanned threshold id query table (lookup query table)
    (trace query table).2 (scanningTrace query table).2 h
  cases hcheck : Policy.check columns settings (lookup query table) table with
  | ok _ =>
      rw [hcheck] at hcheck'
      rw [answer_of_ok htrace hworded hcheck, answer_of_ok htrace' hworded' hcheck']
      exact Prod.ext (congrArg Except.ok (shown_scanned _ _)) hlooked
  | error refusal =>
      rw [hcheck] at hcheck'
      cases refusal with
      | fault f =>
          rw [answer_of_fault htrace hworded hcheck, answer_of_fault htrace' hworded' hcheck']
          exact Prod.ext rfl hlooked
      | violation name v =>
          have hquery := isSome_of_violation hcheck
          rw [answer_of_violation htrace hworded hcheck hquery,
            answer_of_violation htrace' hworded' hcheck' hquery]
          exact Prod.ext (congrArg Except.ok (shown_scanned _ _))
            (congrArg (Journal.after · _) hlooked)

/-- So is a run of requests, since each of them finds the journal alike. -/
theorem serve_observed (columns : String → Except Sql.ClauseError (List String))
    (settings : Settings) (threshold : Nat) (calls : List Call) {s s' : State}
    (h : s'.journal = s.journal) :
    let run := (serve { columns := columns } settings threshold calls).run s
    let run' :=
      (serve { trace := scanningTrace, columns := columns } settings threshold calls).run s'
    run'.1.map (Except.map Reply.shown) = run.1.map (Except.map Reply.shown) ∧
      run'.2.journal = run.2.journal := by
  induction calls generalizing s s' with
  | nil => exact ⟨rfl, h⟩
  | cons call calls ih =>
      have hfirst := answer_observed columns settings threshold call.id call.query call.table h
      obtain ⟨hreply, hjournal⟩ := Prod.mk.inj hfirst
      obtain ⟨hothers, hafter⟩ := ih hjournal
      dsimp only
      rw [serve_cons, serve_cons]
      exact ⟨congrArg₂ List.cons hreply hothers, hafter⟩

/--
**The shortcut changes no verdict.**

A lookup that scans every query has the same outcome as one that takes a query without groups as it
is, except that such a query without a filter is given the reason of one that has its filters in
groups. Under any settings a run of requests made by either has the same faults, the same replies as
far as they are shown, and the same journal, whatever the journal was before.
-/
theorem shortcut_immaterial :
    traceBy fragment? = trace ∧
    (∀ query table, (traceBy (scan []) query table).1 =
      if lookup query table = .noMatch (some Outcome.noWhere)
      then .noMatch (some Outcome.noTopLevelWhere) else lookup query table) ∧
    ∀ (columns : String → Except Sql.ClauseError (List String)) (settings : Settings)
      (threshold : Nat) (calls : List Call) (s : State),
      let run := (serve { columns := columns } settings threshold calls).run s
      let run' :=
        (serve { trace := traceBy (scan []), columns := columns } settings threshold calls).run s
      run'.1.map (Except.map Reply.shown) = run.1.map (Except.map Reply.shown) ∧
        run'.2.journal = run.2.journal := by
  refine ⟨traceBy_fragment?, scanningTrace_eq, fun columns settings threshold calls s => ?_⟩
  exact serve_observed columns settings threshold calls rfl

end Request

end RowGuard
