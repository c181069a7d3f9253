import Mathlib.Data.List.Forall2
import RowGuard.Proofs.Request.Tally

/-!
# The trail of a run in the log

Every event of a request is worded as one record of the journal, and a log takes the records that its
threshold lets pass. So the records of a run are known before any log is: those of one request stand
together, they begin with its receipt, go on with what its lookup came to, and end with the violation
if there is one. What a log of some threshold holds is this trail without the records it does not
take, and the answers are the same whatever it takes.
-/

namespace RowGuard

namespace Log.Record

/-- What a field of a record holds. -/
def field? (r : Record) (name : String) : Option Value := r.fields.lookup name

/-- What a record says and how much it matters. -/
def heading (r : Record) : String × Severity := (r.message, r.severity)

theorem passes_debug (r : Record) : r.passes Severity.debug.rank = true := by
  cases h : r.severity <;> simp [passes, Severity.rank, h]

end Log.Record

namespace Request

/-! ## What a trail is -/

/-- The headings of the records of a request: that it was received, and that it violates a policy. -/
def receivedHeading : String × Log.Severity := ("Query received", .info)

@[inherit_doc receivedHeading]
def violatedHeading : String × Log.Severity := ("Row filter policy violated", .warning)

/-- The heading under which the outcome of a lookup is entered. -/
def headingOf? : Outcome → Option (String × Log.Severity)
  | .clause _ => some ("Where clause extracted", .info)
  | .noMatch _ => some ("No clause for table", .debug)
  | .invalid _ => some ("Invalid query", .warning)
  | .unknown => none

/-- A text as a record shows it, up to `limit` characters. -/
def upTo (limit : Nat) (text : String) : Value := .str (String.ofList (text.toList.take limit))

/-- The records that show the query of their request. -/
def showsQuery (r : Log.Record) : Bool :=
  ["Query received", "Invalid query", "Row filter policy violated"].contains r.message

/-- A record tells of a request: it names the request and its table, and the query and the clause it
shows are those of the request, cut at the limit. -/
structure Tells (limit : Nat) (call : Call) (r : Log.Record) : Prop where
  id : r.field? "query_id" = some (.str call.id)
  table : r.field? "table_name" = some (textField call.table)
  query : r.field? "query" =
    if showsQuery r then some (upTo limit (call.query.getD "")) else none
  clause : r.field? "clause" =
    if r.message = "Where clause extracted" then
      (Reply.clause? ⟨call.outcome, none⟩).map (upTo limit) else none

/-- The records of one request. -/
structure IsTrail (limit : Nat) (call : Call) (answer : Except Fault Reply)
    (trail : List Log.Record) : Prop where
  /-- The receipt, the outcome of the lookup, and the violation if that was the answer. -/
  headings : ∃ found, headingOf? call.outcome = some found ∧
    trail.map Log.Record.heading =
      receivedHeading :: found :: if violated answer then [violatedHeading] else []
  tells : ∀ r ∈ trail, Tells limit call r

/-- The records in a log that the journal has written. -/
def ofJournal (log : List Log.Record) : List Log.Record := log.filter (·.logger = loggerName)

/-! ## Events as records -/

/-- The record of an event, whatever a log takes. -/
def Event.lines (limit : Int) (e : Event) : List Log.Record :=
  ((e.record? limit {}).toOption.getD none).toList

/-- The event is one of a request, not of the journal as a whole. -/
def Event.OfRequest : Event → Prop
  | .summary => False
  | _ => True

/-- The record of such an event does not depend on the tally. -/
theorem Event.record?_of_request {e : Event} (h : e.OfRequest) (limit : Int) (c : Counters) :
    e.record? limit c = e.record? limit {} := by
  cases e with
  | received id query table => rfl
  | clauseFound id table clause => rfl
  | noMatch id table reason => rfl
  | invalid id table message query => rfl
  | violated id table rule query details => rfl
  | summary => exact h.elim

/-- A log takes the record of an event if its threshold lets it pass. -/
theorem Journal.records_eq {e : Event} (h : e.Worded) (hreq : e.OfRequest) (threshold : Nat)
    (j : Journal) :
    j.records threshold e = .ok ((e.lines j.limit).filter (Log.Record.passes threshold)) := by
  obtain ⟨r, hr, hfree⟩ := Event.record?_of_worded h j.limit {}
  rw [Journal.records, Event.record?_of_request hreq, Event.lines, hr]
  cases r with
  | none => rfl
  | some x =>
      show x.emit threshold = Except.ok ([x].filter (Log.Record.passes threshold))
      rw [(hfree x rfl).emit, List.filter_cons, List.filter_nil]

theorem log_entered {e : Event} (h : e.Worded) (hreq : e.OfRequest) (threshold : Nat) (s : State) :
    (s.entered threshold e).log =
      s.log ++ (e.lines s.journal.limit).filter (Log.Record.passes threshold) := by
  rw [State.entered, Journal.records_eq h hreq]
  rfl

/-- Events that are entered one after the other are written one after the other. -/
theorem log_foldl {events : List Event} (h : ∀ e ∈ events, e.Worded ∧ e.OfRequest)
    (threshold : Nat) (s : State) :
    (events.foldl (fun s e => s.entered threshold e) s).log =
      s.log ++ (events.flatMap (Event.lines s.journal.limit)).filter
        (Log.Record.passes threshold) := by
  induction events generalizing s with
  | nil => rw [List.flatMap_nil, List.filter_nil, List.append_nil, List.foldl_nil]
  | cons e events ih =>
      obtain ⟨hworded, hreq⟩ := h e List.mem_cons_self
      rw [List.foldl_cons, ih fun e he => h e (List.mem_cons_of_mem _ he),
        log_entered hworded hreq, List.flatMap_cons, List.filter_append, List.append_assoc]
      rfl

/-- The heading of an event's record. -/
def Event.heading : Event → String × Log.Severity
  | .received .. => receivedHeading
  | .clauseFound .. => ("Where clause extracted", .info)
  | .noMatch .. => ("No clause for table", .debug)
  | .invalid .. => ("Invalid query", .warning)
  | .violated .. => violatedHeading
  | .summary => ("Query metrics", .info)

/-- What the journal writes it writes under its own name and the heading of the event. -/
theorem of_mem_lines {e : Event} {limit : Int} {r : Log.Record} (h : r ∈ e.lines limit) :
    r.logger = loggerName ∧ r.heading = e.heading := by
  cases e with
  | received id query table =>
      obtain rfl := List.mem_singleton.mp h
      exact ⟨rfl, rfl⟩
  | clauseFound id table clause =>
      cases clause with
      | none => cases h
      | some text =>
          obtain rfl := List.mem_singleton.mp h
          exact ⟨rfl, rfl⟩
  | noMatch id table reason =>
      cases reason with
      | none => cases h
      | some text =>
          obtain rfl := List.mem_singleton.mp h
          exact ⟨rfl, rfl⟩
  | invalid id table message query =>
      cases query with
      | none => cases h
      | some text =>
          obtain rfl := List.mem_singleton.mp h
          exact ⟨rfl, rfl⟩
  | violated id table rule query details =>
      cases rule with
      | none => cases h
      | some name =>
          cases query with
          | none => cases h
          | some text =>
              obtain rfl := List.mem_singleton.mp h
              exact ⟨rfl, rfl⟩
  | summary => cases h

/-- What a lookup reports is not the journal's. -/
theorem logger_record_ne (d : Diagnostic) : d.record.logger ≠ loggerName := by
  cases d with
  | unwrapped length => exact show "filterscope.normalize" ≠ loggerName by decide
  | noTopLevelWhere =>
      exact show "filterscope.filterscope.core.query_parser" ≠ loggerName by decide
  | notAttributable table =>
      exact show "filterscope.filterscope.core.query_parser" ≠ loggerName by decide
  | clauseFound table length =>
      exact show "filterscope.filterscope.core.query_parser" ≠ loggerName by decide

/-! ## The trail of a request -/

theorem ofRequest_of_mem_followUps {id : String} {query table : Option String} {r : Reply}
    {e : Event} (he : e ∈ r.followUps id query table) : e.OfRequest := by
  obtain ⟨outcome, violation⟩ := r
  rcases List.mem_append.mp he with hout | hviolated
  · have he := Option.mem_toList.mp hout
    cases outcome with
    | clause text =>
        obtain rfl := Option.some.inj he
        trivial
    | noMatch reason =>
        obtain rfl := Option.some.inj he
        trivial
    | invalid message =>
        obtain rfl := Option.some.inj he
        trivial
    | unknown => cases he
  · obtain ⟨v, -, rfl⟩ := Option.map_eq_some_iff.mp (Option.mem_toList.mp hviolated)
    trivial

section

variable (columns : String → Except Sql.ClauseError (List String)) (settings : Settings)

/-- What is entered of a request. -/
def Call.events (call : Call) : List Event :=
  .received call.id call.query call.table ::
    (Reply.ofResult call.outcome (call.result columns settings)).followUps call.id call.query
      call.table

/-- The records that the journal has for a request. -/
def Call.trail (limit : Int) (call : Call) : List Log.Record :=
  (call.events columns settings).flatMap (Event.lines limit)

theorem Call.worded_of_mem_events {call : Call} {e : Event}
    (he : e ∈ call.events columns settings) : e.Worded ∧ e.OfRequest := by
  rcases List.mem_cons.mp he with rfl | he
  · exact ⟨trivial, trivial⟩
  · exact ⟨worded_of_mem_followUps he, ofRequest_of_mem_followUps he⟩

theorem ofJournal_lines (limit : Int) (events : List Event) :
    ofJournal (events.flatMap (Event.lines limit)) = events.flatMap (Event.lines limit) := by
  rw [ofJournal, List.filter_eq_self]
  intro r hr
  obtain ⟨e, -, he⟩ := List.mem_flatMap.mp hr
  exact decide_eq_true (of_mem_lines he).1

theorem ofJournal_reports (reports : List Diagnostic) :
    ofJournal (reports.map Diagnostic.record) = [] := by
  rw [ofJournal, List.filter_eq_nil_iff]
  intro r hr
  obtain ⟨d, -, rfl⟩ := List.mem_map.mp hr
  exact fun h => logger_record_ne d (of_decide_eq_true h)

/-- All records of a request: what the lookup reports stands between its receipt and its outcome. -/
def Call.records (limit : Int) (call : Call) : List Log.Record :=
  (Event.received call.id call.query call.table).lines limit ++
    (trace call.query call.table).2.map Diagnostic.record ++
      ((Reply.ofResult call.outcome (call.result columns settings)).followUps call.id call.query
        call.table).flatMap (Event.lines limit)

theorem ofJournal_records (limit : Int) (call : Call) :
    ofJournal (call.records columns settings limit) = call.trail columns settings limit := by
  have hreceived := ofJournal_lines limit [.received call.id call.query call.table]
  rw [List.flatMap_singleton] at hreceived
  rw [Call.records, ofJournal, List.filter_append, List.filter_append]
  show ofJournal _ ++ ofJournal _ ++ ofJournal _ = _
  rw [hreceived, ofJournal_reports, ofJournal_lines, List.append_nil, Call.trail, Call.events,
    List.flatMap_cons]

/-- A request adds its records to the log, without those that the log does not take. -/
theorem log_served (threshold : Nat) (s : State) (call : Call) :
    (s.served columns settings threshold call).log =
      s.log ++ (call.records columns settings s.journal.limit).filter
        (Log.Record.passes threshold) := by
  have hworded : ∀ e ∈ call.events columns settings, e.Worded ∧ e.OfRequest :=
    fun _ he => Call.worded_of_mem_events columns settings he
  obtain ⟨hreceived, hreq⟩ := hworded _ List.mem_cons_self
  rw [State.served, State.answered, log_foldl fun e he => hworded e (List.mem_cons_of_mem _ he)]
  dsimp only [State.reported]
  rw [log_entered hreceived hreq, Call.records, List.filter_append, List.filter_append]
  simp only [List.append_assoc]
  rfl

theorem limit_foldl (threshold : Nat) (events : List Event) (s : State) :
    (events.foldl (fun s e => s.entered threshold e) s).journal.limit = s.journal.limit := by
  induction events generalizing s with
  | nil => rfl
  | cons e events ih => exact ih _

theorem limit_served (threshold : Nat) (s : State) (call : Call) :
    (s.served columns settings threshold call).journal.limit = s.journal.limit :=
  limit_foldl ..

/-- The log of a run has the records of its requests, one request after the other. -/
theorem log_foldl_served (threshold : Nat) (calls : List Call) (s : State) :
    (calls.foldl (State.served columns settings threshold) s).log =
      s.log ++ (calls.flatMap (Call.records columns settings s.journal.limit)).filter
        (Log.Record.passes threshold) := by
  induction calls generalizing s with
  | nil => rw [List.foldl_nil, List.flatMap_nil, List.filter_nil, List.append_nil]
  | cons call calls ih =>
      rw [List.foldl_cons, ih, log_served, limit_served, List.flatMap_cons, List.filter_append,
        List.append_assoc]

/-! ## What the records of a request tell -/

/-- An event is written as one record, under its heading, that tells of a request. -/
def Event.Tells (limit : Nat) (call : Call) (e : Event) : Prop :=
  ∃ r, e.lines limit = [r] ∧ r.heading = e.heading ∧ Request.Tells limit call r

theorem cut_natCast (limit : Nat) (text : String) :
    Value.str (String.ofList (Text.cut limit text.toList)) = upTo limit text := by
  rw [Text.cut, if_neg (by omega), Int.toNat_natCast, upTo]

theorem tells_received (limit : Nat) (call : Call) :
    (Event.received call.id call.query call.table).Tells limit call := by
  refine ⟨_, rfl, rfl, rfl, rfl, ?_, rfl⟩
  exact congrArg some (cut_natCast limit (call.query.getD ""))

theorem tells_outcome (limit : Nat) {call : Call} {e : Event}
    (he : Event.ofOutcome? call.id call.query call.table call.outcome = some e) :
    e.Tells limit call := by
  have hworded : e.Worded := Event.worded_of_lookup he
  cases ho : call.outcome with
  | clause text =>
      rw [ho] at he
      obtain rfl := Option.some.inj he
      refine ⟨_, rfl, rfl, rfl, rfl, rfl, ?_⟩
      rw [ho]
      exact congrArg some (cut_natCast limit text)
  | noMatch reason =>
      rw [ho] at he
      obtain rfl := Option.some.inj he
      obtain ⟨text, rfl⟩ := Option.isSome_iff_exists.mp hworded
      exact ⟨_, rfl, rfl, rfl, rfl, rfl, rfl⟩
  | invalid message =>
      rw [ho] at he
      obtain rfl := Option.some.inj he
      obtain ⟨text, hquery⟩ := Option.isSome_iff_exists.mp hworded
      rw [hquery]
      refine ⟨_, rfl, rfl, rfl, rfl, ?_, rfl⟩
      rw [hquery]
      exact congrArg some (cut_natCast limit text)
  | unknown =>
      rw [ho] at he
      cases he

theorem tells_violated (limit : Nat) {call : Call} {rule : String}
    (hquery : call.query.isSome = true) :
    (Event.violated call.id call.table (some rule) call.query []).Tells limit call := by
  obtain ⟨text, hquery⟩ := Option.isSome_iff_exists.mp hquery
  rw [hquery]
  refine ⟨_, rfl, rfl, rfl, rfl, ?_, rfl⟩
  rw [hquery]
  exact congrArg some (cut_natCast limit text)

/-- Every event of a request tells of it. -/
theorem Call.tells_of_mem_events (limit : Nat) {call : Call} {e : Event}
    (he : e ∈ call.events columns settings) : e.Tells limit call := by
  have hworded := (Call.worded_of_mem_events columns settings he).1
  rcases List.mem_cons.mp he with rfl | he
  · exact tells_received limit call
  · rw [Reply.followUps, outcome_ofResult columns settings call] at he
    rcases List.mem_append.mp he with hout | hviolated
    · exact tells_outcome limit (Option.mem_toList.mp hout)
    · obtain ⟨v, -, rfl⟩ := Option.map_eq_some_iff.mp (Option.mem_toList.mp hviolated)
      exact tells_violated limit hworded.2.1

/-- So a trail has one record for each event. -/
theorem Call.headings_trail (limit : Nat) (call : Call) :
    (call.trail columns settings limit).map Log.Record.heading =
      (call.events columns settings).map Event.heading := by
  rw [Call.trail, List.map_flatMap, List.map_eq_flatMap]
  refine List.flatMap_congr fun e he => ?_
  obtain ⟨r, hlines, hheading, -⟩ := Call.tells_of_mem_events columns settings limit he
  rw [hlines, List.map_singleton, hheading]

/-- The headings of a request's events. -/
theorem Call.headings_events (call : Call) : ∃ found, headingOf? call.outcome = some found ∧
    (call.events columns settings).map Event.heading =
      receivedHeading :: found ::
        if violated (call.result columns settings) then [violatedHeading] else [] := by
  have hviolated := violated_eq columns settings call
  have houtcome := outcome_ofResult columns settings call
  have hknown : call.outcome ≠ .unknown := lookup_ne_unknown call.query call.table
  have hlast : ∀ violation : Option (String × Violation),
      (violation.map fun v => Event.violated call.id call.table (some v.2.rule) call.query []).toList.map
        Event.heading = if violation.isSome then [violatedHeading] else [] := by
    intro violation
    cases violation with
    | none => rfl
    | some v => rfl
  rw [Call.events, List.map_cons, Reply.followUps, List.map_append, hlast, houtcome, ← hviolated]
  cases ho : call.outcome with
  | clause text => exact ⟨_, rfl, rfl⟩
  | noMatch reason => exact ⟨_, rfl, rfl⟩
  | invalid message => exact ⟨_, rfl, rfl⟩
  | unknown => exact absurd ho hknown

/-- The records of the journal are the trail of their request. -/
theorem Call.isTrail (limit : Nat) (call : Call) :
    IsTrail limit call (call.result columns settings) (call.trail columns settings limit) := by
  refine ⟨?_, fun r hr => ?_⟩
  · rw [Call.headings_trail]
    exact Call.headings_events columns settings call
  · obtain ⟨e, he, hr⟩ := List.mem_flatMap.mp hr
    obtain ⟨x, hlines, -, htells⟩ := Call.tells_of_mem_events columns settings limit he
    rw [hlines] at hr
    obtain rfl := List.mem_singleton.mp hr
    exact htells

/-! ## A run of requests -/

theorem filter_debug (log : List Log.Record) :
    log.filter (Log.Record.passes Log.Severity.debug.rank) = log :=
  List.filter_eq_self.mpr fun r _ => r.passes_debug

theorem ofJournal_run (limit : Int) (calls : List Call) :
    ofJournal (calls.flatMap (Call.records columns settings limit)) =
      (calls.map (Call.trail columns settings limit)).flatten := by
  induction calls with
  | nil => rfl
  | cons call calls ih =>
      rw [List.flatMap_cons, ofJournal, List.filter_append, List.map_cons, List.flatten_cons, ← ih,
        ← ofJournal_records]
      rfl

/-- Trails of different requests are told apart by the identifiers. -/
theorem pairwise_trails (limit : Nat) {calls : List Call} (h : (calls.map Call.id).Nodup) :
    (calls.map (Call.trail columns settings limit)).Pairwise fun a b =>
      ∀ r ∈ a, ∀ s ∈ b, r.field? "query_id" ≠ s.field? "query_id" := by
  rw [List.pairwise_map]
  refine (List.pairwise_map.mp h).imp fun {call other} hne r hr s hs => ?_
  rw [((call.isTrail columns settings limit).tells r hr).id,
    ((other.isTrail columns settings limit).tells s hs).id]
  exact fun heq => hne (Value.str.inj (Option.some.inj heq))

end

/--
**Every request leaves its trail in the log.**

A log that takes everything has, of what the journal writes during a run, one trail for each request,
in the order of the requests: its receipt, the outcome of its lookup, and the violation if and only if
it was answered with one. All records of a trail name the request and its table, and show its query
and its clause up to the limit. Where the identifiers are distinct, no two trails share one. A log of
another threshold has what is left of the full log when the records it does not take are removed, and
the answers are the same.
-/
theorem run_leaves_trails {columns : String → Except Sql.ClauseError (List String)}
    {settings : Settings} {limit : Nat} (hlimit : settings.logQueryLength = .ok limit)
    (journal : Journal) (calls : List Call) :
    ∃ built, (prepare settings).run.run { journal := journal } = (.ok (), built) ∧
      let run := fun threshold => (serve { columns := columns } settings threshold calls).run built
      let full := run Log.Severity.debug.rank
      full.1.length = calls.length ∧
      ∃ trails : List (List Log.Record),
        ofJournal full.2.log = trails.flatten ∧
        List.Forall₂ (fun call trail => IsTrail limit call.1 call.2 trail)
          (calls.zip full.1) trails ∧
        ((calls.map Call.id).Nodup → trails.Pairwise fun a b =>
          ∀ r ∈ a, ∀ s ∈ b, r.field? "query_id" ≠ s.field? "query_id") ∧
        ∀ threshold, (run threshold).1 = full.1 ∧
          (run threshold).2.log = full.2.log.filter (Log.Record.passes threshold) ∧
          ofJournal (run threshold).2.log =
            trails.flatten.filter (Log.Record.passes threshold) := by
  refine ⟨{ journal := { journal with limit := limit } }, ?_, ?_⟩
  · rw [prepare, hlimit]
    rfl
  intro run full
  have hrun : ∀ threshold, run threshold = (calls.map (Call.result columns settings),
      _) := fun threshold => serve_run columns settings threshold calls _
  have hlog : ∀ threshold, (run threshold).2.log =
      (calls.flatMap (Call.records columns settings limit)).filter
        (Log.Record.passes threshold) := by
    intro threshold
    rw [hrun, log_foldl_served]
    rfl
  have hfull : full.2.log = calls.flatMap (Call.records columns settings limit) :=
    (hlog _).trans (filter_debug _)
  have hanswers : full.1 = calls.map (Call.result columns settings) := by
    show (run _).1 = _
    rw [hrun]
  refine ⟨?_, calls.map (Call.trail columns settings limit), ?_, ?_,
    pairwise_trails columns settings limit, fun threshold => ⟨?_, ?_, ?_⟩⟩
  · rw [hanswers, List.length_map]
  · rw [hfull, ofJournal_run]
  · rw [hanswers, ← List.map_prod_left_eq_zip, List.forall₂_map_left_iff,
      List.forall₂_map_right_iff]
    exact List.forall₂_same.mpr fun call _ => call.isTrail columns settings limit
  · rw [hrun, hanswers]
  · rw [hlog, hfull]
  · rw [hlog, ← ofJournal_run, ofJournal, ofJournal, List.filter_filter, List.filter_filter]
    exact List.filter_congr fun _ _ => Bool.and_comm ..

/-- A clause that leaves out a required column, shown up to seven characters, and a missing query. -/
theorem run_leaves_trails_violation :
    let settings := { Settings.guarding "t" (.map [(.str "required_columns", .list [.str "b"])]) with
      parser := .map [(.str "log_query_length", .int 7)] }
    let calls : List Call := [⟨"1", some "select * from t where a=1", some "T"⟩,
      ⟨"2", none, some "t"⟩]
    settings.logQueryLength = .ok (7 : Nat) ∧ (calls.map Call.id).Nodup ∧
    ∃ first second,
      ofJournal ((serve { columns := fun _ => .ok ["a"] } settings Log.Severity.debug.rank
        calls).run { journal := { limit := 7 } }).2.log = first ++ second ∧
      first.map Log.Record.heading =
        [receivedHeading, ("Where clause extracted", .info), violatedHeading] ∧
      (∀ r ∈ first, showsQuery r = true → r.field? "query" = some (.str "select ")) ∧
      second.map Log.Record.heading = [receivedHeading, ("No clause for table", .debug)] ∧
      ∀ r ∈ first, ∀ s ∈ second, r.field? "query_id" ≠ s.field? "query_id" := by
  intro settings calls
  have hlimit : settings.logQueryLength = .ok (7 : Nat) := rfl
  have hids : (calls.map Call.id).Nodup := by decide
  obtain ⟨built, hbuilt, -, trails, hlog, htrails, hapart, -⟩ :=
    @run_leaves_trails (fun _ => .ok ["a"]) settings 7 hlimit {} calls
  obtain rfl : ({ journal := { limit := 7 } } : State) = built := (Prod.mk.inj hbuilt).2
  have hanswers : ((serve { columns := fun _ => .ok ["a"] } settings Log.Severity.debug.rank
      calls).run { journal := { limit := 7 } }).1 =
      [.ok ⟨.clause "where a=1", some ("T", .missingColumns ["b"])⟩,
        .ok ⟨.noMatch (some "empty_input"), none⟩] := by decide +kernel
  rw [hanswers] at htrails
  cases htrails with
  | @cons _ first _ _ hfirst htrails =>
    cases htrails with
    | @cons _ second _ _ hsecond htrails =>
      cases htrails
      obtain ⟨found, hfound, hfirstHeadings⟩ := hfirst.headings
      obtain ⟨other, hother, hsecondHeadings⟩ := hsecond.headings
      obtain rfl : ("Where clause extracted", .info) = found :=
        Option.some.inj (Eq.trans (by decide +kernel) hfound)
      obtain rfl : ("No clause for table", .debug) = other :=
        Option.some.inj (Eq.trans (by decide +kernel) hother)
      refine ⟨hlimit, hids, first, second, ?_, hfirstHeadings, fun r hr hshows => ?_,
        hsecondHeadings, ?_⟩
      · rw [hlog, List.flatten_cons, List.flatten_cons, List.flatten_nil, List.append_nil]
      · rw [(hfirst.tells r hr).query, if_pos hshows]
        rfl
      · exact (List.pairwise_cons.mp (hapart hids)).1 second List.mem_cons_self

end Request

end RowGuard
