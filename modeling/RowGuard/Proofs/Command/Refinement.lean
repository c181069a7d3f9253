import RowGuard.Proofs.Command.Stage
import RowGuard.Proofs.Request.Total
import RowGuard.Proofs.Request.Trail
import RowGuard.Proofs.Settings.Session

/-!
# Runs and requests

A run that gets ready hands its query to the journal of requests, and ends as the reply says. The
settings and the tally of requests outlive a run. So what a later run does depends on the earlier
ones, but only so far: the settings are those of the first run that could load any, and the tally
counts the runs that got ready.
-/

namespace RowGuard

namespace Request

/-- What a request comes to by itself: under the given settings, in a journal of its own. -/
def process (engine : Engine) (settings : Settings) (query table : String) : Except Fault Reply :=
  ((do
    prepare settings
    answer engine settings 0 "" (some query) (some table) : Step Reply).run.run {}).1

section

variable {columns : String → Except Sql.ClauseError (List String)} {settings : Settings}
  {limit : Int}

theorem prepare_run (hlimit : settings.logQueryLength = .ok limit) (s : State) :
    (prepare settings).run.run s =
      (.ok (), { s with journal := { s.journal with limit := limit } }) := by
  rw [prepare, hlimit]
  rfl

/-- A request in a journal that has been prepared for it. -/
theorem prepare_answer_run (hlimit : settings.logQueryLength = .ok limit) (threshold : Nat)
    (call : Call) (s : State) :
    (do
      prepare settings
      answer { columns := columns } settings threshold call.id call.query call.table :
        Step Reply).run.run s =
      (call.result columns settings,
        State.served columns settings threshold
          { s with journal := { s.journal with limit := limit } } call) := by
  rw [run_bind_ok (prepare_run hlimit s), answer_run]
  rfl

theorem process_eq (hlimit : settings.logQueryLength = .ok limit) (query table : String) :
    process { columns := columns } settings query table =
      result columns settings (some query) (some table) :=
  congrArg Prod.fst (prepare_answer_run hlimit 0 ⟨"", some query, some table⟩ {})

end

/-- A query that is not let through comes with a message. -/
theorem Reply.exists_message {r : Reply} (h : r.success = false) : ∃ m, r.message? = some m := by
  rcases r with ⟨outcome, _ | ⟨table, v⟩⟩
  · cases outcome with
    | invalid message => exact ⟨message, rfl⟩
    | clause text => cases h
    | noMatch reason => cases h
    | unknown => cases h
  · exact ⟨v.message table, rfl⟩

theorem heading_ne_of_ofRequest {e : Event} (h : e.OfRequest) : e.heading.1 ≠ "Query metrics" := by
  cases e with
  | received => exact show "Query received" ≠ "Query metrics" by decide
  | clauseFound => exact show "Where clause extracted" ≠ "Query metrics" by decide
  | noMatch => exact show "No clause for table" ≠ "Query metrics" by decide
  | invalid => exact show "Invalid query" ≠ "Query metrics" by decide
  | violated => exact show "Row filter policy violated" ≠ "Query metrics" by decide
  | summary => exact h.elim

end Request

namespace Command

open Request (Reply State)
open Settings (Session)

/-- No record of a request sums up the requests. -/
theorem not_isSummary_of_mem_records {columns : String → Except Sql.ClauseError (List String)}
    {settings : Settings} {limit : Int} {call : Request.Call} {r : Log.Record}
    (h : r ∈ call.records columns settings limit) : ¬IsSummary r := by
  rintro ⟨hlogger, hmessage⟩
  have hlines : ∀ e : Request.Event, e.OfRequest → r ∉ e.lines limit := by
    intro e he hr
    refine Request.heading_ne_of_ofRequest he ?_
    rw [← (Request.of_mem_lines hr).2]
    exact hmessage
  rcases List.mem_append.mp h with h | h
  · rcases List.mem_append.mp h with h | h
    · exact hlines (.received call.id call.query call.table) trivial h
    · obtain ⟨d, -, rfl⟩ := List.mem_map.mp h
      exact Request.logger_record_ne d hlogger
  · obtain ⟨e, he, hr⟩ := List.mem_flatMap.mp h
    exact hlines e (Request.ofRequest_of_mem_followUps he) hr

/-- The record that sums up the requests tells how many there were. -/
theorem total_of_mem_summary {threshold : Nat} {journal : Request.Journal} {r : Log.Record}
    (h : r ∈ (State.entered threshold .summary { journal := journal }).log) :
    r.field? "total_queries" = some (.int journal.counters.queries) := by
  have hworded : Request.Event.summary.Worded := trivial
  obtain ⟨found, hfound, hfree⟩ :=
    Request.Event.record?_of_worded hworded journal.limit (journal.counters.after .summary)
  rw [State.entered, Request.Journal.records, hfound] at h
  cases found with
  | none => cases h
  | some x =>
      have hemit := (hfree x rfl).emit threshold
      simp only [bind, Except.bind, hemit, Except.toOption, Option.getD_some, List.nil_append] at h
      split at h
      · obtain rfl := List.mem_singleton.mp h
        rw [Request.Event.record?] at hfound
        split at hfound
        · cases hfound
        · cases hfound
          rfl
      · cases h

/-! ## Steps of the journal -/

/-- A step of the journal, and its records written. -/
theorem withJournal_run {α : Type} (input : Input) (step : Nat → Request.Step α) (p : Progress) :
    (withJournal input step).run.run p =
      (((step p.world.logger.threshold).run.run { journal := p.world.journal }).1.mapError .fault,
        Progress.logged input
          ((step p.world.logger.threshold).run.run { journal := p.world.journal }).2.log
          { p with world := { p.world with
            journal := ((step p.world.logger.threshold).run.run
              { journal := p.world.journal }).2.journal } }) := by
  generalize hstep : (step p.world.logger.threshold).run.run { journal := p.world.journal } = done
  have hrun : (withJournal input step).run.run p =
      (logAll input done.2.log >>= fun _ => orFault done.1).run.run
        { p with world := { p.world with journal := done.2.journal } } := by
    rw [← hstep]
    rfl
  rw [hrun, run_bind, logAll_run]
  cases done.1 <;> rfl

theorem conclude_run (reply : Reply) (p : Progress) :
    (conclude reply).run.run p =
      if reply.success then
        (.ok (), { p with output := p.output ++ (reply.clause?.map (· ++ "\n")).getD "" })
      else (.error (.code 1), { p with notices := p.notices ++ [.refused reply] }) := by
  unfold conclude
  cases reply.success with
  | false => rfl
  | true =>
      cases reply.clause? with
      | some clause => rfl
      | none =>
          show (Except.ok (), p) = (Except.ok (), { p with output := p.output ++ "" })
          rw [String.append_empty]

theorem record_mem_of_concat {notices : List Notice} {n : Notice}
    (hn : ∀ coloured r, n ≠ .record coloured r) {coloured : Bool} {r : Log.Record}
    (h : .record coloured r ∈ notices ++ [n]) : .record coloured r ∈ notices :=
  (List.mem_append.mp h).resolve_right fun hlast => hn _ _ (List.mem_singleton.mp hlast).symm

/-- The conclusion of a run tells of no record. -/
theorem conclude_world (reply : Reply) (p : Progress) :
    ((conclude reply).run.run p).2.world = p.world ∧
      ∀ coloured r, .record coloured r ∈ ((conclude reply).run.run p).2.notices →
        .record coloured r ∈ p.notices := by
  rw [conclude_run]
  split
  · exact ⟨rfl, fun _ _ h => h⟩
  · exact ⟨rfl, fun _ _ hr => record_mem_of_concat (fun _ _ => Notice.noConfusion) hr⟩

/-! ## The request of a run -/

section

variable {columns : String → Except Sql.ClauseError (List String)} {settings : Settings}
  {limit : Int} {query : String}

/-- What a run that is ready does for its request. It counts the request and sums up, and ends with
the reply, or with the fault that the request comes to. -/
structure Responds (columns : String → Except Sql.ClauseError (List String)) (settings : Settings)
    (query table : String) (p : Progress) (r : Except Ending Unit × Progress) : Prop where
  session : r.2.world.session = p.world.session
  counted : r.2.world.journal.counters.queries = p.world.journal.counters.queries + 1
  told : ∀ coloured x, .record coloured x ∈ r.2.notices → IsSummary x →
    .record coloured x ∈ p.notices ∨
      x.field? "total_queries" = some (.int (p.world.journal.counters.queries + 1 : Nat))
  ended : ∃ q : Progress, q.output = p.output ∧
    match Request.result columns settings (some query) (some table) with
    | .error f => r = (.error (.fault f), q)
    | .ok reply => r = (conclude reply).run.run q

/-- A step of the journal leaves the session alone, and tells of the records it has written. -/
theorem withJournal_spec {α : Type} (input : Input) (step : Nat → Request.Step α) {p : Progress}
    {r : Except Fault α} {s : State}
    (h : (step p.world.logger.threshold).run.run { journal := p.world.journal } = (r, s)) :
    ∃ q, (withJournal input step).run.run p = (r.mapError .fault, q) ∧ q.output = p.output ∧
      q.world.session = p.world.session ∧ q.world.journal = s.journal ∧
      ∀ coloured x, .record coloured x ∈ q.notices →
        .record coloured x ∈ p.notices ∨ x ∈ s.log := by
  have hwritten := written_logged input s.log
    { p with world := { p.world with journal := s.journal } }
  refine ⟨_, ?_, hwritten.output, hwritten.session, hwritten.journal, hwritten.told⟩
  rw [withJournal_run, h]

/-- The request itself is counted, and sums up nothing. -/
theorem requested_run (hlimit : settings.logQueryLength = .ok limit) (table : String)
    (input : Input) (p : Progress) :
    ∃ q, (withJournal input fun threshold => do
        Request.prepare settings
        Request.answer { columns := columns } settings threshold input.id (some query)
          (some table)).run.run p =
        ((Request.result columns settings (some query) (some table)).mapError .fault, q) ∧
      q.output = p.output ∧ q.world.session = p.world.session ∧
      q.world.journal.counters.queries = p.world.journal.counters.queries + 1 ∧
      ∀ coloured x, .record coloured x ∈ q.notices → IsSummary x →
        .record coloured x ∈ p.notices := by
  let call : Request.Call := ⟨input.id, some query, some table⟩
  let start : State := { journal := { p.world.journal with limit := limit } }
  have hcounters := Request.counters_served columns settings p.world.logger.threshold start call
  have hlog := Request.log_served columns settings p.world.logger.threshold start call
  obtain ⟨q, hrun, houtput, hsession, hjournal, htold⟩ := withJournal_spec input
    (fun threshold => do
      Request.prepare settings
      Request.answer { columns := columns } settings threshold call.id call.query call.table)
    (Request.prepare_answer_run hlimit p.world.logger.threshold call
      { journal := p.world.journal })
  refine ⟨q, hrun, houtput, hsession, ?_, fun coloured x hx hsum => ?_⟩
  · rw [hjournal]
    exact congrArg Request.Counters.queries hcounters
  · refine (htold coloured x hx).resolve_right fun hmem => ?_
    rw [hlog, List.nil_append] at hmem
    exact not_isSummary_of_mem_records (List.mem_filter.mp hmem).1 hsum

/-- What sums up the requests tells how many there have been. -/
theorem summed_run (input : Input) (p : Progress) :
    ∃ q, (withJournal input fun threshold => Request.enter threshold .summary).run.run p =
        (.ok (), q) ∧
      q.output = p.output ∧ q.world.session = p.world.session ∧
      q.world.journal.counters.queries = p.world.journal.counters.queries ∧
      ∀ coloured x, .record coloured x ∈ q.notices → .record coloured x ∈ p.notices ∨
        x.field? "total_queries" = some (.int p.world.journal.counters.queries) := by
  have hworded : Request.Event.summary.Worded := trivial
  obtain ⟨q, hrun, houtput, hsession, hjournal, htold⟩ := withJournal_spec input
    (fun threshold => Request.enter threshold .summary)
    (Request.enter_of_worded hworded p.world.logger.threshold { journal := p.world.journal })
  refine ⟨q, hrun, houtput, hsession, ?_, fun coloured x hx => ?_⟩
  · rw [hjournal]
    rfl
  · exact (htold coloured x hx).imp_right total_of_mem_summary

theorem respond_run (hlimit : settings.logQueryLength = .ok limit) (a : Arguments) (input : Input)
    (p : Progress) :
    Responds columns settings query a.table p
      ((respond { columns := columns } a input settings query).run.run p) := by
  obtain ⟨q, hfirst, houtput, hsession, hcounted, hquiet⟩ :=
    @requested_run columns settings limit query hlimit a.table input p
  unfold respond
  rw [run_bind, hfirst]
  cases hresult : Request.result columns settings (some query) (some a.table) with
  | error f =>
      -- the request has been counted before it came to the fault; what comes after is left out
      refine ⟨hsession, hcounted, fun coloured x hx hsum => Or.inl (hquiet coloured x hx hsum),
        q, houtput, ?_⟩
      rw [hresult]
      rfl
  | ok reply =>
      obtain ⟨q', hsecond, houtput', hsession', hcounted', htold⟩ := summed_run input q
      obtain ⟨hworld, hrecords⟩ := conclude_world reply q'
      have hrun : ((withJournal input fun threshold => Request.enter threshold .summary) >>=
          fun _ => conclude reply).run.run q = (conclude reply).run.run q' := by
        rw [run_bind, hsecond]
      show Responds columns settings query a.table p
        (((withJournal input fun threshold => Request.enter threshold .summary) >>=
          fun _ => conclude reply).run.run q)
      rw [hrun]
      refine ⟨?_, ?_, fun coloured x hx hsum => ?_, q', houtput'.trans houtput, ?_⟩
      · rw [hworld, hsession', hsession]
      · rw [hworld, hcounted', hcounted]
      · rcases htold coloured x (hrecords coloured x hx) with hold | htotal
        · exact Or.inl (hquiet coloured x hold hsum)
        · rw [hcounted] at htotal
          exact Or.inr htotal
      · rw [hresult]

end

/-! ## One run -/

/-- A command line that is accepted as a request, with what its run is given. -/
structure Invocation where
  argv : List String
  arguments : Arguments
  accepted : Task.ofArguments argv = .ok (.answer arguments)
  input : Input

/-- A failure of settings or files ends a run with code one, and is the last that is told. A fault
ends it as it is. -/
def stopped (p : Progress) : Failure → Ending × Progress
  | .settings e => (.code 1, { p with notices := p.notices ++ [.settings e] })
  | .file e => (.code 1, { p with notices := p.notices ++ [.file e] })
  | .fault f => (.fault f, p)

@[simp]
theorem world_stopped (p : Progress) (e : Failure) : (stopped p e).2.world = p.world := by
  cases e <;> rfl

@[simp]
theorem output_stopped (p : Progress) (e : Failure) : (stopped p e).2.output = p.output := by
  cases e <;> rfl

theorem stopped_of_ne_fault {e : Failure} (h : ∀ f, e ≠ .fault f) (p : Progress) :
    (stopped p e).1 = .code 1 := by
  cases e with
  | settings e => rfl
  | file e => rfl
  | fault f => exact absurd rfl (h f)

theorem record_of_mem_stopped {p : Progress} {e : Failure} {coloured : Bool} {r : Log.Record}
    (h : .record coloured r ∈ (stopped p e).2.notices) : .record coloured r ∈ p.notices := by
  cases e with
  | fault f => exact h
  | settings e => exact record_mem_of_concat (fun _ _ => Notice.noConfusion) h
  | file e => exact record_mem_of_concat (fun _ _ => Notice.noConfusion) h

/-- How a run ends whose last step has the given result. -/
def ending : Except Ending Unit → Ending
  | .ok () => .code 0
  | .error e => e

namespace Invocation

/-- What a run does before its request, where it meets the given world. -/
def first (i : Invocation) (readers : Settings.Readers) (w : World) :
    Except Failure (Settings × String) × Progress :=
  (ready readers i.arguments i.input).run.run ⟨w, "", []⟩

variable {i : Invocation} {w : World}

/-- Before its request a run asks for the settings, but it prints nothing and sums up nothing. -/
theorem first_quiet (i : Invocation) (readers : Settings.Readers) (w : World) :
    (i.first readers w).2.world.session =
        (w.session.get w.store i.arguments.config readers).2 ∧
      (i.first readers w).2.world.journal = w.journal ∧ (i.first readers w).2.output = "" ∧
      ∀ coloured r, .record coloured r ∈ (i.first readers w).2.notices → ¬IsSummary r := by
  obtain ⟨hquiet, hsession⟩ := quiet_ready readers i.arguments i.input ⟨w, "", []⟩
  exact ⟨hsession, hquiet.journal, hquiet.output, fun coloured r hr hsum =>
    List.not_mem_nil (hquiet.told coloured r hr hsum)⟩

/-- A run is what it does before its request, and then its request. -/
theorem run_eq (i : Invocation) (engine : Engine) (w : World) :
    run engine i.argv i.input w =
      match i.first engine.readers w with
      | (.ok (settings, query), p) =>
        (ending ((respond engine.toEngine i.arguments i.input settings query).run.run p).1,
          ((respond engine.toEngine i.arguments i.input settings query).run.run p).2)
      | (.error e, p) => stopped p e := by
  have hact : act engine i.argv i.input =
      (ready engine.readers i.arguments i.input).act >>= fun r =>
        respond engine.toEngine i.arguments i.input r.1 r.2 := by
    rw [act, i.accepted]
    exact answer_eq engine i.arguments i.input
  rw [run, hact, run_bind, Stage.act_run, first]
  rcases (ready engine.readers i.arguments i.input).run.run ⟨w, "", []⟩ with
    ⟨e | ⟨settings, query⟩, p⟩
  · cases e <;> rfl
  · have hgone : (orStop (Except.ok (settings, query))).run.run p =
        (.ok (settings, query), p) := rfl
    rw [hgone]
    dsimp only
    rcases (respond engine.toEngine i.arguments i.input settings query).run.run p with
      ⟨e | u, q⟩ <;> rfl

theorem run_of_error {engine : Engine} {e : Failure}
    (h : (i.first engine.readers w).1 = .error e) :
    run engine i.argv i.input w = stopped (i.first engine.readers w).2 e := by
  rw [run_eq]
  rcases hfirst : i.first engine.readers w with ⟨r, p⟩
  rw [hfirst] at h
  cases h
  rfl

theorem run_of_ok {engine : Engine} {settings : Settings} {query : String}
    (h : (i.first engine.readers w).1 = .ok (settings, query)) :
    run engine i.argv i.input w =
      (ending ((respond engine.toEngine i.arguments i.input settings query).run.run
          (i.first engine.readers w).2).1,
        ((respond engine.toEngine i.arguments i.input settings query).run.run
          (i.first engine.readers w).2).2) := by
  rw [run_eq]
  rcases hfirst : i.first engine.readers w with ⟨r, p⟩
  rw [hfirst] at h
  cases h
  rfl

end Invocation

/-! ## Runs one after the other -/

/-- The world after a run. -/
def next (engine : Engine) (w : World) (i : Invocation) : World :=
  (run engine i.argv i.input w).2.world

/-- How many runs get ready, one after the other. -/
def requests (engine : Engine) : World → List Invocation → Nat
  | _, [] => 0
  | w, i :: others =>
    (if (i.first engine.readers w).1.isOk then 1 else 0) + requests engine (next engine w i) others

/-- The settings of the first loading that gives any. -/
def firstLoaded (readers : Settings.Readers) (store : Files.Store) :
    Settings.Session → List (Option String) → Option Settings
  | _, [] => none
  | s, file :: files =>
    match s.reload store file readers with
    | (.ok c, _) => some c.2
    | (.error _, s) => firstLoaded readers store s files

/-- The files of settings that the runs name. -/
def configs (runs : List Invocation) : List (Option String) :=
  runs.map fun i => i.arguments.config

theorem requests_concat (engine : Engine) (w : World) (before : List Invocation)
    (i : Invocation) :
    requests engine w (before ++ [i]) = requests engine w before +
      if (i.first engine.readers (before.foldl (next engine) w)).1.isOk then 1 else 0 := by
  induction before generalizing w with
  | nil => exact Nat.add_comm ..
  | cons j before ih =>
      rw [List.cons_append, requests, ih, requests, Nat.add_assoc]
      rfl

/-- What the runs so far have left: the settings in use are the first that could be loaded, and as
long as there are none the files are as they were. The journal has counted the requests. -/
structure Standing (engine : Engine) (start : World) (before : List Invocation)
    (w : World) : Prop where
  reached : before.foldl (next engine) start = w
  loaded : ∀ rest,
    firstLoaded engine.readers start.store start.session (configs before ++ rest) =
      match w.session.current with
      | some c => some c.2
      | none => firstLoaded engine.readers start.store w.session rest
  store : w.session.current = none → w.store = start.store
  counted : w.journal.counters.queries = requests engine start before

theorem get_of_some {readers : Settings.Readers} {store : Files.Store} {s : Settings.Session}
    {c : Nat × Settings} (h : s.current = some c) (file : Option String) :
    (s.get store file readers).1 = .ok c ∧ (s.get store file readers).2.current = some c := by
  rw [Settings.Session.get, h]
  exact ⟨rfl, rfl⟩

theorem get_of_none {s : Settings.Session} (h : s.current = none) (store : Files.Store)
    (file : Option String) (readers : Settings.Readers) :
    s.get store file readers = s.reload store file readers := by
  rw [Settings.Session.get, h]

/-- The settings that a run has are the first that could be loaded. -/
theorem Standing.settings {engine : Engine} {start w : World} {before : List Invocation}
    (hs : Standing engine start before w) {i : Invocation} {settings : Settings} {query : String}
    (h : (i.first engine.readers w).1 = .ok (settings, query)) :
    firstLoaded engine.readers start.store start.session (configs (before ++ [i])) =
      some settings := by
  obtain ⟨n, hget⟩ := settings_of_ready h
  rw [configs, List.map_append]
  refine (hs.loaded [i.arguments.config]).trans ?_
  cases hcurrent : w.session.current with
  | some c =>
      have hc : (w.session.get w.store i.arguments.config engine.readers).1 = .ok c :=
        (get_of_some hcurrent _).1
      cases hc.symm.trans hget
      rfl
  | none =>
      have hreload : (w.session.reload start.store i.arguments.config engine.readers).1 =
          .ok (n, settings) := by
        rw [← hs.store hcurrent, ← get_of_none hcurrent]
        exact hget
      dsimp only
      rw [firstLoaded]
      rcases hdone : w.session.reload start.store i.arguments.config engine.readers with ⟨r, s⟩
      rw [hdone] at hreload
      cases hreload
      rfl

/-- The settings that the runs have, if any, give a number for the length of a query in the log. -/
def Limited (readers : Settings.Readers) (start : World) (runs : List Invocation) : Prop :=
  ∀ g, firstLoaded readers start.store start.session (configs runs) = some g →
    ∃ limit, g.logQueryLength = .ok limit

/-- What a run leaves in the session is what asking for the settings leaves there, and it counts its
request if it gets ready. -/
theorem next_counted {columns : String → Except Sql.ClauseError (List String)}
    {readers : Settings.Readers} {i : Invocation} {w : World}
    (hlimit : ∀ settings query, (i.first readers w).1 = .ok (settings, query) →
      ∃ limit, settings.logQueryLength = .ok limit) :
    let engine : Engine := { columns := columns, readers := readers }
    (next engine w i).session = (w.session.get w.store i.arguments.config readers).2 ∧
      (next engine w i).journal.counters.queries =
        w.journal.counters.queries + if (i.first readers w).1.isOk then 1 else 0 := by
  intro engine
  obtain ⟨hsession, hjournal, -, -⟩ := i.first_quiet readers w
  cases hfirst : (i.first readers w).1 with
  | error e =>
      rw [next, @Invocation.run_of_error i w engine e hfirst, world_stopped, hjournal]
      exact ⟨hsession, rfl⟩
  | ok r =>
      obtain ⟨settings, query⟩ := r
      obtain ⟨limit, hlimit⟩ := hlimit settings query hfirst
      have hresponds : Responds columns settings query i.arguments.table (i.first readers w).2 _ :=
        respond_run hlimit i.arguments i.input (i.first readers w).2
      rw [next, @Invocation.run_of_ok i w engine settings query hfirst]
      refine ⟨hresponds.session.trans hsession, hresponds.counted.trans ?_⟩
      rw [hjournal]
      rfl

/-- A run whose settings cannot be loaded leaves the files as they were. -/
theorem store_next {engine : Engine} {i : Invocation} {w : World} {e : Failure}
    (h : (w.session.get w.store i.arguments.config engine.readers).1 = .error e) :
    (next engine w i).store = w.store := by
  obtain ⟨hfirst, hstore⟩ := ready_of_error (p := ⟨w, "", []⟩) h i.input
  rw [next, Invocation.run_of_error hfirst, world_stopped]
  exact hstore

/-- A run keeps it so. -/
theorem Standing.step {columns : String → Except Sql.ClauseError (List String)}
    {readers : Settings.Readers} {start w : World} {before : List Invocation}
    (hs : Standing { columns := columns, readers := readers } start before w) (i : Invocation)
    (h : Limited readers start (before ++ [i])) :
    Standing { columns := columns, readers := readers } start (before ++ [i])
      (next { columns := columns, readers := readers } w i) := by
  have hlimit : ∀ settings query, (i.first readers w).1 = .ok (settings, query) →
      ∃ limit, settings.logQueryLength = .ok limit :=
    fun settings query hready => h settings (hs.settings hready)
  obtain ⟨hsession, hcounted⟩ := @next_counted columns readers i w hlimit
  refine ⟨?_, fun rest => ?_, fun hnone => ?_, ?_⟩
  · rw [List.foldl_append, hs.reached]
    rfl
  · rw [configs, List.map_append, List.append_assoc]
    refine (hs.loaded (i.arguments.config :: rest)).trans ?_
    rw [hsession]
    cases hcurrent : w.session.current with
    | some c => rw [(get_of_some hcurrent _).2]
    | none =>
        -- the files are still those of the start, so this loading is the next that is tried
        rw [get_of_none hcurrent, hs.store hcurrent]
        dsimp only
        cases hload : (Settings.load start.store w.session.vars i.arguments.config
            readers).settings with
        | error e =>
            rw [firstLoaded, Session.reload_of_error hload]
            dsimp only
            rw [show (w.session.tried readers start.store i.arguments.config).current = none
              from hcurrent]
        | ok settings => rw [firstLoaded, Session.reload_of_ok hload]
  · rw [hsession] at hnone
    cases hcurrent : w.session.current with
    | some c => cases (get_of_some hcurrent _).2.symm.trans hnone
    | none =>
        have hget := get_of_none hcurrent w.store i.arguments.config readers
        cases hload : (Settings.load w.store w.session.vars i.arguments.config
            readers).settings with
        | error e =>
            rw [Session.reload_of_error hload] at hget
            exact (store_next (congrArg Prod.fst hget)).trans (hs.store hcurrent)
        | ok settings =>
            rw [hget, Session.reload_of_ok hload] at hnone
            cases hnone
  · rw [hcounted, hs.counted, requests_concat, hs.reached]

theorem firstLoaded_append {readers : Settings.Readers} {store : Files.Store} {s : Session}
    {files : List (Option String)} {g : Settings} (h : firstLoaded readers store s files = some g)
    (rest : List (Option String)) : firstLoaded readers store s (files ++ rest) = some g := by
  induction files generalizing s with
  | nil => cases h
  | cons file files ih =>
      rw [List.cons_append, firstLoaded]
      rw [firstLoaded] at h
      rcases hload : s.reload store file readers with ⟨e | c, s'⟩
      · rw [hload] at h
        exact ih h
      · rw [hload] at h
        exact h

theorem Limited.of_append {readers : Settings.Readers} {start : World}
    {runs others : List Invocation} (h : Limited readers start (runs ++ others)) :
    Limited readers start runs := by
  intro g hg
  refine h g ?_
  rw [configs, List.map_append]
  exact firstLoaded_append hg _

/-- The world that a first run meets. -/
def opening (vars : Variables) (store : Files.Store) : World :=
  { session := { vars := vars }, store := store }

/-- It is so after any runs. -/
theorem standing_foldl {columns : String → Except Sql.ClauseError (List String)}
    {readers : Settings.Readers} {vars : Variables} {store : Files.Store}
    (before : List Invocation) (h : Limited readers (opening vars store) before) :
    Standing { columns := columns, readers := readers } (opening vars store) before
      (before.foldl (next { columns := columns, readers := readers }) (opening vars store)) := by
  -- the last run meets the world that the others have left
  induction before using List.reverseRecOn with
  | nil => exact ⟨rfl, fun _ => rfl, fun _ => rfl, rfl⟩
  | append_singleton before i ih =>
      rw [List.foldl_append]
      exact (ih h.of_append).step i h

/-! ## What a run prints -/

/-- A run has ended in keeping with the reply to its request. A query that is let through ends it
with code zero, and its filter, if there is one, is printed on a line. Any other query ends it with
code one: nothing is printed, and the message is the last that is told. -/
structure Concluded (reply : Reply) (done : Ending × Progress) : Prop where
  passed : reply.success = true →
    done.1 = .code 0 ∧ done.2.output = (reply.clause?.map (· ++ "\n")).getD ""
  refused : reply.success = false → done.1 = .code 1 ∧ done.2.output = "" ∧
    ∃ message, reply.message? = some message ∧
      ∀ time, done.2.notices.getLast?.map (Notice.text time) = some (message ++ "\n")

theorem concluded (reply : Reply) {q : Progress} (h : q.output = "") :
    Concluded reply (ending ((conclude reply).run.run q).1, ((conclude reply).run.run q).2) := by
  rw [conclude_run]
  refine ⟨fun hpassed => ?_, fun hrefused => ?_⟩
  · rw [if_pos hpassed]
    refine ⟨rfl, ?_⟩
    show q.output ++ _ = _
    rw [h, String.empty_append]
  · obtain ⟨message, hmessage⟩ := Request.Reply.exists_message hrefused
    have hnot : ¬reply.success = true := by rw [hrefused]; exact Bool.false_ne_true
    rw [if_neg hnot]
    refine ⟨rfl, h, message, hmessage, fun time => ?_⟩
    have htext : (Notice.refused reply).text time = reply.message?.getD "None" ++ "\n" := rfl
    have hlast : (q.notices ++ [Notice.refused reply]).getLast? = some (.refused reply) :=
      List.getLast?_concat
    rw [hmessage, Option.getD_some] at htext
    rw [hlast, Option.map_some, htext]

theorem Concluded.output_of_ne {reply : Reply} {done : Ending × Progress} (h : Concluded reply done)
    (hcode : done.1 ≠ .code 0) : done.2.output = "" := by
  cases hsuccess : reply.success with
  | false => exact (h.refused hsuccess).2.1
  | true => exact absurd (h.passed hsuccess).1 hcode

section

variable {i : Invocation} {w : World}

/-- A run that ends before its request prints nothing and sums up nothing. -/
theorem run_unready {engine : Engine} {e : Failure}
    (h : (i.first engine.readers w).1 = .error e) :
    let done := run engine i.argv i.input w
    ((∀ f, e ≠ .fault f) → done.1 = .code 1) ∧ done.2.output = "" ∧
      ∀ coloured r, .record coloured r ∈ done.2.notices → ¬IsSummary r := by
  intro done
  have hdone : done = stopped (i.first engine.readers w).2 e := Invocation.run_of_error h
  obtain ⟨-, -, houtput, hnone⟩ := i.first_quiet engine.readers w
  rw [hdone]
  exact ⟨fun hfault => stopped_of_ne_fault hfault _, (output_stopped _ e).trans houtput,
    fun coloured r hr => hnone coloured r (record_of_mem_stopped hr)⟩

/-- A run that gets to its request ends as that does, and counts it in summing up. -/
theorem run_ready {columns : String → Except Sql.ClauseError (List String)}
    {readers : Settings.Readers} {settings : Settings} {query : String}
    (h : (i.first readers w).1 = .ok (settings, query)) {limit : Int}
    (hlimit : settings.logQueryLength = .ok limit) :
    let engine : Engine := { columns := columns, readers := readers }
    let done := run engine i.argv i.input w
    (match Request.process { columns := columns } settings query i.arguments.table with
      | .ok reply => Concluded reply done
      | .error f => done.1 = .fault f ∧ done.2.output = "") ∧
    ∀ coloured r, .record coloured r ∈ done.2.notices → IsSummary r →
      r.field? "total_queries" = some (.int (w.journal.counters.queries + 1 : Nat)) := by
  intro engine done
  have hdone : done = _ := @Invocation.run_of_ok i w engine settings query h
  obtain ⟨-, hjournal, houtput, hnone⟩ := i.first_quiet readers w
  have hresponds : Responds columns settings query i.arguments.table (i.first readers w).2 _ :=
    respond_run hlimit i.arguments i.input (i.first readers w).2
  obtain ⟨q, hq, hended⟩ := hresponds.ended
  rw [houtput] at hq
  rw [hdone]
  refine ⟨?_, fun coloured r hr hsum => ?_⟩
  · rw [Request.process_eq hlimit]
    cases hresult : Request.result columns settings (some query) (some i.arguments.table) with
    | error f =>
        rw [hresult] at hended
        rw [hended]
        exact ⟨rfl, hq⟩
    | ok reply =>
        rw [hresult] at hended
        rw [hended]
        exact concluded reply hq
  · rcases hresponds.told coloured r hr hsum with hold | htotal
    · exact absurd hsum (hnone coloured r hold)
    · rw [htotal, hjournal]

end

/--
**A run answers as the request does by itself.**

After any runs, a run that settings or files keep from its request ends with code one and prints
nothing. A run that gets to it has the settings that were the first to be loaded, whatever file it
names, and ends as the reply says that the request comes to under these settings in a journal of its
own; where it comes to a fault, the run stops on the fault. That takes settings with a value of the
wrong kind, or columns that are left unjudged. No run prints anything that does not end with code
zero, and the records that sum up the requests count the runs that have got to theirs. All this is
so however the files of settings are read.
-/
theorem runs_refine_requests {columns : String → Except Sql.ClauseError (List String)}
    {readers : Settings.Readers} {vars : Variables} {store : Files.Store}
    {before : List Invocation} {i : Invocation}
    (h : Limited readers (opening vars store) (before ++ [i])) :
    let engine : Engine := { columns := columns, readers := readers }
    let start := opening vars store
    let w := before.foldl (next engine) start
    let done := run engine i.argv i.input w
    (∀ e, (i.first readers w).1 = .error e → (∀ f, e ≠ .fault f) →
      done.1 = .code 1 ∧ done.2.output = "") ∧
    (∀ settings query, (i.first readers w).1 = .ok (settings, query) →
      firstLoaded readers store start.session (configs (before ++ [i])) = some settings ∧
      (∀ reply, Request.process engine.toEngine settings query i.arguments.table = .ok reply →
        Concluded reply done) ∧
      (∀ f, Request.process engine.toEngine settings query i.arguments.table = .error f →
        done.1 = .fault f ∧ done.2.output = "") ∧
      (settings.Serviceable → (∀ text f, columns text ≠ .error (.unjudged f)) →
        ∃ reply, Request.process engine.toEngine settings query i.arguments.table = .ok reply)) ∧
    (done.1 ≠ .code 0 → done.2.output = "") ∧
    ∀ coloured r, .record coloured r ∈ done.2.notices → IsSummary r →
      r.field? "total_queries" = some (.int (requests engine start (before ++ [i]))) := by
  intro engine start w done
  have hs : Standing engine start before w := standing_foldl before h.of_append
  cases hfirst : (i.first readers w).1 with
  | error e =>
      obtain ⟨hcode, hempty, hnone⟩ := @run_unready i w engine e hfirst
      refine ⟨fun e' he' hfault => ?_, fun _ _ hok => (by cases hok), fun _ => hempty,
        fun coloured r hr hsum => absurd hsum (hnone coloured r hr)⟩
      obtain rfl := Except.error.inj he'
      exact ⟨hcode hfault, hempty⟩
  | ok r =>
      obtain ⟨settings, query⟩ := r
      have hsettings := hs.settings hfirst
      obtain ⟨limit, hlimit⟩ := h settings hsettings
      -- the settings it has are the ones that govern, and the hypothesis is about these
      obtain ⟨hended, htold⟩ := @run_ready i w columns readers settings query hfirst limit hlimit
      have hprocess : Request.process engine.toEngine settings query i.arguments.table = _ :=
        Request.process_eq hlimit query i.arguments.table
      refine ⟨fun _ hno => (by cases hno), fun settings' query' hok => ?_, fun hcode => ?_,
        fun coloured r hr hsum => ?_⟩
      · cases hok
        refine ⟨hsettings, fun reply hreply => ?_, fun f hf => ?_, fun hserviceable hjudged => ?_⟩
        · rw [hreply] at hended
          exact hended
        · rw [hf] at hended
          exact hended
        · rw [hprocess]
          exact Request.exists_result fun f =>
            Policy.check_ne_fault hjudged hserviceable _ i.arguments.table f
      · cases hcame : Request.process engine.toEngine settings query i.arguments.table with
        | error f =>
            rw [hcame] at hended
            exact hended.2
        | ok reply =>
            rw [hcame] at hended
            exact hended.output_of_ne hcode
      · rw [htold coloured r hr hsum, hs.counted, requests_concat, hs.reached, hfirst]
        rfl

/-- Settings that have been loaded give such a number if they can be asked for it. -/
theorem limited_of_all {readers : Settings.Readers} {start : World} {runs : List Invocation}
    (h : (firstLoaded readers start.store start.session (configs runs)).all
      (fun g => g.logQueryLength.isOk) = true) : Limited readers start runs := by
  intro g hg
  rw [hg, Option.all_some] at h
  cases hlimit : g.logQueryLength with
  | ok limit => exact ⟨limit, rfl⟩
  | error f =>
      rw [hlimit] at h
      cases h

/-- A run that loads settings but finds no query, and one that has a query but names no settings
that there are. -/
theorem runs_refine_requests_again :
    let store : Files.Store :=
      ⟨[], [(["a.yaml"], .file "parser: {}".toUTF8.data.toList)]⟩
    let earlier : Invocation :=
      { argv := ["-t", "t", "-f", "a.sql", "-c", "a.yaml"]
        arguments := { table := "t", file := some "a.sql", config := some "a.yaml" }
        accepted := by decide +kernel
        input := { time := "", id := "" } }
    let later : Invocation :=
      { argv := ["-t", "t", "-q", "select * from t where x", "-c", "b.yaml"]
        arguments :=
          { table := "t", query := some "select * from t where x", config := some "b.yaml" }
        accepted := by decide +kernel
        input := { time := "", id := "" } }
    let w := [earlier].foldl (next {}) (opening [] store)
    Limited {} (opening [] store) ([earlier] ++ [later]) ∧
      ∃ settings query, (later.first {} w).1 = .ok (settings, query) ∧
        firstLoaded {} store (opening [] store).session (configs ([earlier] ++ [later])) =
          some settings ∧
        ∀ reply, Request.process {} settings query "t" = .ok reply →
          Concluded reply (run {} later.argv later.input w) := by
  intro store earlier later w
  have hlimited : Limited {} (opening [] store) ([earlier] ++ [later]) :=
    limited_of_all (by decide +kernel)
  have hready : (later.first {} w).1.isOk = true := by decide +kernel
  obtain ⟨-, hgoes, -, -⟩ := @runs_refine_requests Sql.filterColumns {} _ _ _ _ hlimited
  cases hfirst : (later.first {} w).1 with
  | error e =>
      rw [hfirst] at hready
      cases hready
  | ok r =>
      obtain ⟨hgoverning, hconcluded, -⟩ := hgoes r.1 r.2 hfirst
      exact ⟨hlimited, r.1, r.2, rfl, hgoverning, hconcluded⟩

/-- A filter whose columns are left unjudged ends a run that is ready on a fault: with no code, and
without the message of a refusal. -/
theorem runs_refine_requests_unjudged :
    let store : Files.Store := ⟨[], [(["a.yaml"], .file
      "policies: {tables: {t: {required_columns: [a]}}}".toUTF8.data.toList)]⟩
    let i : Invocation :=
      { argv := ["-t", "t", "-q", "select * from t where date_add(d", "-c", "a.yaml"]
        arguments :=
          { table := "t", query := some "select * from t where date_add(d"
            config := some "a.yaml" }
        accepted := by decide +kernel
        input := { time := "", id := "" } }
    let done := run {} i.argv i.input (opening [] store)
    Limited {} (opening [] store) [i] ∧ (i.first {} (opening [] store)).1.isOk = true ∧
      done.1 = .fault .noSuchField := by
  refine ⟨limited_of_all (by decide +kernel), by decide +kernel, by decide +kernel⟩

end Command

end RowGuard
