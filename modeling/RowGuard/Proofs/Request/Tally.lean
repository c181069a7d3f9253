import RowGuard.Proofs.Request.Answer

/-!
# The tally of a run

The journal counts events, and a request enters events of its own alone: one when it is received, one
for its outcome, and one for the violation it may come to. A request that stops on a fault has entered
the first two by then. So what a request adds to the counters depends on nothing before it, and after
a run of requests, however many of them stopped, the counters are sums over the run.
-/

namespace RowGuard.Request

/-- One request of a run, under the identifier drawn for it. -/
structure Call where
  id : String
  query : Option String
  table : Option String

/-- Answers requests one after the other. A request that stops on a fault does not stop the others. -/
def serve (engine : Engine) (settings : Settings) (threshold : Nat) (calls : List Call) :
    StateM State (List (Except Fault Reply)) :=
  calls.mapM fun call => (answer engine settings threshold call.id call.query call.table).run

/-- A request was answered, and with a violation. -/
def violated : Except Fault Reply → Bool
  | .ok reply => reply.label = "violation"
  | .error _ => false

section

variable (columns : String → Except Sql.ClauseError (List String)) (settings : Settings)

/-- What a request comes to. -/
def Call.result (call : Call) : Except Fault Reply :=
  Request.result columns settings call.query call.table

/-- What a request's lookup comes to. -/
def Call.outcome (call : Call) : Outcome := lookup call.query call.table

/-- The counters as sums over a run. -/
def tally (calls : List Call) : Counters where
  queries := calls.length
  clauses := calls.countP fun call => call.outcome.label = "clause"
  noMatches := calls.countP fun call => call.outcome.label = "no_match"
  invalids := calls.countP fun call => call.outcome.label = "invalid"
  violations := (calls.map (Call.result columns settings)).countP violated

/-- Adds counters up. -/
def Counters.add (c d : Counters) : Counters where
  queries := c.queries + d.queries
  clauses := c.clauses + d.clauses
  noMatches := c.noMatches + d.noMatches
  invalids := c.invalids + d.invalids
  violations := c.violations + d.violations

/-- The state after a request of a run. -/
def State.served (threshold : Nat) (s : State) (call : Call) : State :=
  s.answered threshold call.id call.query call.table
    (.ofResult call.outcome (call.result columns settings))

/-! ## One request -/

theorem lookupIn_ne_unknown (query : List Char) (table : String) :
    (lookupIn query table).1 ≠ .unknown := by
  unfold lookupIn
  split
  · exact Outcome.noConfusion
  · split
    · exact Outcome.noConfusion
    · exact Outcome.noConfusion
    · split
      · exact Outcome.noConfusion
      · exact Outcome.noConfusion

theorem lookup_ne_unknown (query table : Option String) : lookup query table ≠ .unknown := by
  rw [lookup, trace]
  split
  · dsimp only
    split
    · exact lookupIn_ne_unknown _ _
    · exact lookupIn_ne_unknown _ _
  · exact Outcome.noConfusion

theorem label_ne_violation (outcome : Outcome) : outcome.label ≠ "violation" := by
  cases outcome with
  | clause text => exact show "clause" ≠ "violation" by decide
  | noMatch reason => exact show "no_match" ≠ "violation" by decide
  | invalid message => exact show "invalid" ≠ "violation" by decide
  | unknown => exact show "unknown" ≠ "violation" by decide

/-- The violation that a request leaves in the journal is the one it was answered with. -/
theorem violated_eq (call : Call) :
    violated (call.result columns settings) =
      (Reply.ofResult call.outcome (call.result columns settings)).violation.isSome := by
  cases h : call.result columns settings with
  | error f => rfl
  | ok reply =>
      show decide (reply.label = "violation") = reply.violation.isSome
      rw [Reply.label]
      cases reply.violation with
      | some v => rfl
      | none => exact decide_eq_false (label_ne_violation reply.outcome)

theorem outcome_ofResult (call : Call) :
    (Reply.ofResult call.outcome (call.result columns settings)).outcome = call.outcome := by
  rw [Call.result, Request.result, Call.outcome]
  cases Policy.check columns settings (lookup call.query call.table) call.table with
  | ok _ => rfl
  | error refusal =>
      cases refusal with
      | fault f => rfl
      | violation name v => rfl

theorem counters_foldl (threshold : Nat) (events : List Event) (s : State) :
    (events.foldl (fun s e => s.entered threshold e) s).journal.counters =
      events.foldl Counters.after s.journal.counters := by
  induction events generalizing s with
  | nil => rfl
  | cons e events ih => exact ih _

theorem tally_singleton (call : Call) : tally columns settings [call] =
    { queries := 1
      clauses := if call.outcome.label = "clause" then 1 else 0
      noMatches := if call.outcome.label = "no_match" then 1 else 0
      invalids := if call.outcome.label = "invalid" then 1 else 0
      violations := if violated (call.result columns settings) then 1 else 0 } := by
  simp only [tally, List.map_cons, List.map_nil, List.countP_singleton, decide_eq_true_eq,
    List.length_singleton]

theorem after_violation (id : String) (query table : Option String)
    (violation : Option (String × Violation)) (c : Counters) :
    (violation.map fun v => Event.violated id table (some v.2.rule) query []).toList.foldl
        Counters.after c =
      { c with violations := c.violations + if violation.isSome then 1 else 0 } := by
  cases violation with
  | none => rfl
  | some v => rfl

/-- A request adds to the counters what it adds to the sums. -/
theorem counters_served (threshold : Nat) (s : State) (call : Call) :
    (s.served columns settings threshold call).journal.counters =
      s.journal.counters.add (tally columns settings [call]) := by
  have hviolated := violated_eq columns settings call
  have houtcome := outcome_ofResult columns settings call
  rw [tally_singleton, hviolated, State.served, State.answered, counters_foldl, Reply.followUps,
    houtcome, List.foldl_append, after_violation]
  cases call.outcome with
  | clause text => rfl
  | noMatch reason => rfl
  | invalid message => rfl
  | unknown => rfl

/-! ## A run of requests -/

theorem Counters.zero_add (c : Counters) : Counters.add {} c = c := by
  simp only [Counters.add, Nat.zero_add]

theorem tally_cons (call : Call) (calls : List Call) : tally columns settings (call :: calls) =
    (tally columns settings [call]).add (tally columns settings calls) := by
  simp only [tally, Counters.add, List.map_cons, List.map_nil, List.countP_cons, List.countP_nil,
    List.length_cons, List.length_nil, Nat.zero_add, Nat.add_comm]

theorem Counters.add_assoc (c d e : Counters) : (c.add d).add e = c.add (d.add e) := by
  simp only [Counters.add, Nat.add_assoc]

/-- A run goes on from where its first request has led. -/
theorem serve_cons (engine : Engine) (threshold : Nat) (call : Call) (calls : List Call)
    (s : State) :
    (serve engine settings threshold (call :: calls)).run s =
      let first := (answer engine settings threshold call.id call.query call.table).run.run s
      let others := (serve engine settings threshold calls).run first.2
      (first.1 :: others.1, others.2) := by
  rw [serve, List.mapM_cons]
  rfl

/-- A run answers each request by what it comes to, and enters them one after the other. -/
theorem serve_run (threshold : Nat) (calls : List Call) (s : State) :
    (serve { columns := columns } settings threshold calls).run s =
      (calls.map (Call.result columns settings),
        calls.foldl (State.served columns settings threshold) s) := by
  -- a request starts from what the ones before it have left, so the induction is on all states
  induction calls generalizing s with
  | nil => rfl
  | cons call calls ih =>
      rw [serve_cons, answer_run]
      dsimp only
      rw [ih]
      rfl

/-- After a run the counters have grown by the sums over it. -/
theorem counters_foldl_served (threshold : Nat) (calls : List Call) (s : State) :
    (calls.foldl (State.served columns settings threshold) s).journal.counters =
      s.journal.counters.add (tally columns settings calls) := by
  induction calls generalizing s with
  | nil => rfl
  | cons call calls ih =>
      rw [List.foldl_cons, ih, counters_served, Counters.add_assoc, ← tally_cons]

/-! ## What the sums say -/

/-- Every lookup finds a clause, finds none, or refuses the query. -/
theorem label_outcome (call : Call) : call.outcome.label = "clause" ∨
    call.outcome.label = "no_match" ∨ call.outcome.label = "invalid" := by
  have hne : call.outcome ≠ .unknown := lookup_ne_unknown call.query call.table
  cases hout : call.outcome with
  | clause text => exact Or.inl rfl
  | noMatch reason => exact Or.inr (Or.inl rfl)
  | invalid message => exact Or.inr (Or.inr rfl)
  | unknown => exact absurd hout hne

theorem tally_queries (calls : List Call) :
    let c := tally columns settings calls
    c.queries = c.clauses + c.noMatches + c.invalids := by
  induction calls with
  | nil => rfl
  | cons call calls ih =>
      dsimp only at ih ⊢
      rw [tally_cons, tally_singleton]
      simp only [Counters.add, ih]
      rcases label_outcome call with h | h | h
      · rw [h, if_pos rfl, if_neg (by decide), if_neg (by decide)]
        omega
      · rw [h, if_neg (by decide), if_pos rfl, if_neg (by decide)]
        omega
      · rw [h, if_neg (by decide), if_neg (by decide), if_pos rfl]
        omega

/-- Sums do not depend on the order. -/
theorem tally_perm {calls others : List Call} (h : calls.Perm others) :
    tally columns settings calls = tally columns settings others := by
  simp only [tally, h.length_eq, h.countP_eq, (h.map (Call.result columns settings)).countP_eq]

theorem counters_of_prepare {s built : State}
    (h : (prepare settings).run.run s = (.ok (), built)) :
    built.journal.counters = s.journal.counters := by
  rw [prepare] at h
  cases hlimit : settings.logQueryLength with
  | error f =>
      rw [hlimit] at h
      exact absurd (Prod.mk.inj h).1 (by intro hno; cases hno)
  | ok limit =>
      rw [hlimit] at h
      rw [← (Prod.mk.inj h).2]

end

/--
**The counters are an exact tally.**

After any run of requests on a journal that has just been prepared, requests that stopped on a fault
among them, every counter is the number of requests of the run that it stands for: all of them, those
whose lookup came to a clause, to none or to a refusal, and those answered with a violation. Each
answer is what the request alone would have been answered on the prepared journal, so another order of
the same requests has the same answers and the same counters.
-/
theorem counters_exact {columns : String → Except Sql.ClauseError (List String)}
    {settings : Settings} {built : State} (hbuilt : (prepare settings).run.run {} = (.ok (), built))
    (threshold : Nat) (calls : List Call) :
    let engine : Engine := { columns := columns }
    let run := fun calls => (serve engine settings threshold calls).run built
    let counters := (run calls).2.journal.counters
    (counters.queries = calls.length ∧
      counters.clauses =
        calls.countP (fun call => (lookup call.query call.table).label = "clause") ∧
      counters.noMatches =
        calls.countP (fun call => (lookup call.query call.table).label = "no_match") ∧
      counters.invalids =
        calls.countP (fun call => (lookup call.query call.table).label = "invalid") ∧
      counters.violations = (run calls).1.countP violated) ∧
    counters.queries = counters.clauses + counters.noMatches + counters.invalids ∧
    counters.violations ≤ counters.queries ∧
    (∀ ids : Call → String, (run calls).1 = calls.map fun call =>
      ((answer engine settings threshold (ids call) call.query call.table).run.run built).1) ∧
    ∀ others, calls.Perm others → (run others).2.journal.counters = counters ∧
      (calls.zip (run calls).1).Perm (others.zip (run others).1) := by
  have hcounters : ∀ calls : List Call,
      (calls.foldl (State.served columns settings threshold) built).journal.counters =
        tally columns settings calls := by
    intro calls
    rw [counters_foldl_served, counters_of_prepare settings hbuilt]
    exact Counters.zero_add _
  have hzip : ∀ calls : List Call, calls.zip (calls.map (Call.result columns settings)) =
      calls.map fun call => (call, call.result columns settings) :=
    fun _ => List.map_prod_left_eq_zip.symm
  intro engine run counters
  have hrun : ∀ calls, run calls = (calls.map (Call.result columns settings),
      calls.foldl (State.served columns settings threshold) built) :=
    fun calls => serve_run columns settings threshold calls built
  have htally : counters = tally columns settings calls := by
    show (run calls).2.journal.counters = _
    rw [hrun, hcounters]
  -- both the answers and the sums are maps over the run, and the rest is read off them
  rw [htally, hrun]
  refine ⟨⟨rfl, rfl, rfl, rfl, rfl⟩, tally_queries columns settings calls, ?_, fun ids => ?_,
    fun others hperm => ?_⟩
  · exact (List.countP_le_length).trans_eq (List.length_map _)
  · refine List.map_congr_left fun call _ => ?_
    rw [answer_run]
    rfl
  · rw [hrun, hcounters, hzip, hzip]
    exact ⟨(tally_perm columns settings hperm).symm, hperm.map _⟩

/-- A run on a malformed policy: a clause that stops on it, an unfiltered query, a missing one, one
that is refused, and a missing table that stops too. -/
theorem counters_exact_malformed :
    let settings := Settings.guarding "t"
      (.map [(.str "require_filter", .bool true), (.str "required_columns", .int 5)])
    let calls : List Call := [⟨"1", some "select * from t where a=1", some "t"⟩,
      ⟨"2", some "select * from t", some "t"⟩, ⟨"3", none, some "t"⟩,
      ⟨"4", some "select * from u where a=1", some "t"⟩, ⟨"5", some "select * from t", none⟩]
    ∃ built, (prepare settings).run.run {} = (.ok (), built) ∧
      ((serve { columns := fun _ => .ok ["a"] } settings 0 calls).run built).2.journal.counters =
        { queries := 5, clauses := 1, noMatches := 3, invalids := 1, violations := 2 } := by
  intro settings calls
  refine ⟨_, rfl, ?_⟩
  obtain ⟨⟨hqueries, hclauses, hnone, hinvalids, hviolations⟩, -, -, hanswers, -⟩ :=
    @counters_exact (fun _ => .ok ["a"]) settings _ rfl 0 calls
  rw [hanswers Call.id] at hviolations
  rw [Counters.mk.injEq, hqueries, hclauses, hnone, hinvalids, hviolations]
  decide +kernel

end RowGuard.Request
