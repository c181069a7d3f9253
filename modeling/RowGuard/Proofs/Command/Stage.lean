import RowGuard.Command.Run
import RowGuard.Proofs.Log.Setup

/-!
# What a run does before its request

A run loads the settings, sets up the log and gets the text of the query. Each of these may fail, on
settings, on a file or on a fault, and only then is it said how the run ends. None of them prints
anything or touches the journal of requests.
-/

namespace RowGuard.Command

/-! ## Failing and ending -/

/-- A step on the way to a request. It may fail; how the run ends then is another matter. -/
abbrev Stage := ExceptT Failure (StateM Progress)

namespace Stage

/-- A result that the stage fails without. -/
def need {α : Type} (r : Except Failure α) : Stage α := ExceptT.mk (pure r)

/-- A step of the run that does what the stage does. A failure ends the run. -/
def act {α : Type} (x : Stage α) : Act α := do
  let (r, p) := x.run.run (← get)
  set p
  orStop r

theorem act_run {α : Type} (x : Stage α) (p : Progress) :
    x.act.run.run p = (orStop (x.run.run p).1).run.run (x.run.run p).2 := rfl

/-- One stage after the other is one step after the other. -/
theorem act_bind {α β : Type} (x : Stage α) (f : α → Stage β) :
    (x >>= f).act = x.act >>= fun a => (f a).act := by
  funext p
  show (x >>= f).act.run.run p = (x.act >>= fun a => (f a).act).run.run p
  rw [act_run, run_bind, run_bind, act_run]
  rcases x.run.run p with ⟨e | a, q⟩
  · cases e <;> rfl
  · rfl

theorem act_pure {α : Type} (a : α) : (pure a : Stage α).act = pure a := rfl

theorem act_get : (get : Stage Progress).act = get := rfl

end Stage

theorem orFault_eq {α : Type} (r : Except Fault α) :
    orFault r = (Stage.need (r.mapError .fault)).act := by
  cases r <;> rfl

theorem orStop_eq {α : Type} (r : Except Failure α) : orStop r = (Stage.need r).act := rfl

/-! ## The stages -/

/-- The settings in use, loaded if there are none yet. -/
def loading (readers : Settings.Readers) (file : Option String) : Stage Settings := do
  let w := (← get).world
  let (r, session) := w.session.get w.store file readers
  modify fun p => { p with
    world := { p.world with session := session }
    notices := p.notices ++ session.unreadable.map .unreadableLine }
  return (← Stage.need r).2

/-- Sets up the log that the settings ask for. -/
def preparing (settings : Settings) (level : Option String) : Stage Unit := do
  let options ← Stage.need ((Log.Options.ofSettings settings.logging level).mapError .fault)
  let w := (← get).world
  let (r, scene) := (Log.setUp options).run.run ⟨w.store, w.logger⟩
  modify fun p => { p with
    world := { p.world with store := scene.store, logger := scene.logger } }
  Stage.need r

/-- The text of the query. -/
def reading (a : Arguments) (input : Input) : Stage String :=
  match a.query, a.file with
  | some q, _ => return q
  | none, some file => do
    let path := Files.Path.ofString file
    if !path.isNameable then throw (.fault .badContent)
    let bytes ← Stage.need (((← get).world.store.read path).mapError .file)
    return String.ofList (← Stage.need ((Files.decode bytes).mapError .fault))
  | none, none => return String.ofList (← Stage.need ((Files.decode input.stdin).mapError .fault))

/-- Records what is in force. -/
def detailing (input : Input) (message : String) : Stage Unit :=
  modify fun p => ((logDetail input message).run.run p).2

/-- All that comes between the settings and the request. -/
def equip (a : Arguments) (input : Input) (settings : Settings) : Stage String := do
  preparing settings a.logLevel
  detailing input s!"Configuration: {settings.file}"
  let enforced ← Stage.need (settings.enforced.mapError .fault)
  detailing input ("Policy enforcement: " ++ if enforced then "True" else "False")
  reading a input

/-- All that a run does before its request. It comes to the settings in use and the text of the
query. -/
def ready (readers : Settings.Readers) (a : Arguments) (input : Input) :
    Stage (Settings × String) := do
  let settings ← loading readers a.config
  let query ← equip a input settings
  return (settings, query)

/-- What becomes of the reply: a filter is printed, a refusal told. -/
def conclude (reply : Request.Reply) : Act Unit := do
  if !reply.success then
    tell (.refused reply)
    throw (.code 1)
  if let some clause := reply.clause? then print (clause ++ "\n")

/-- What a run does for its request. -/
def respond (engine : Request.Engine) (a : Arguments) (input : Input) (settings : Settings)
    (query : String) : Act Unit := do
  let reply ← withJournal input fun threshold => do
    Request.prepare settings
    Request.answer engine settings threshold input.id (some query) (some a.table)
  withJournal input fun threshold => Request.enter threshold .summary
  conclude reply

theorem unreadable_run (lines : List Nat) (p : Progress) :
    (lines.forM fun n => tell (.unreadableLine n)).run.run p =
      (.ok (), { p with notices := p.notices ++ lines.map .unreadableLine }) := by
  induction lines generalizing p with
  | nil => rw [List.map_nil, List.append_nil]; rfl
  | cons n lines ih =>
      show (lines.forM fun n => tell (.unreadableLine n)).run.run
        { p with notices := p.notices ++ [.unreadableLine n] } = _
      rw [ih, List.append_assoc, List.map_cons, List.singleton_append]

theorem theSettings_eq (readers : Settings.Readers) (file : Option String) :
    theSettings readers file = (loading readers file).act := by
  funext p
  have hleft : (theSettings readers file).run.run p =
      ((p.world.session.get p.world.store file readers).2.unreadable.forM
        (fun n => tell (.unreadableLine n)) >>= fun _ =>
          orStop (p.world.session.get p.world.store file readers).1 >>= fun c => pure c.2).run.run
        { p with world := { p.world with session :=
          (p.world.session.get p.world.store file readers).2 } } := rfl
  show (theSettings readers file).run.run p = (loading readers file).act.run.run p
  have hneed : ∀ r : Except Failure (Nat × Settings), (orStop r >>= fun c => pure c.2) =
      (Stage.need r >>= fun c => pure c.2).act := by
    intro r
    rw [orStop_eq, Stage.act_bind]
    rfl
  rw [hleft, run_bind, unreadable_run, hneed]
  rfl

theorem setUpLog_eq (settings : Settings) (level : Option String) :
    setUpLog settings level = (preparing settings level).act := by
  unfold setUpLog preparing
  cases Log.Options.ofSettings settings.logging level <;> rfl

theorem theQuery_eq (a : Arguments) (input : Input) : theQuery a input = (reading a input).act := by
  rcases a with ⟨table, _ | q, _ | file, config, level⟩
  · simp only [theQuery, reading, orFault_eq, Stage.act_bind, Stage.act_pure, pure_bind]
  · unfold theQuery reading
    dsimp only
    by_cases hname : (!(Files.Path.ofString file).isNameable) = true
    · rw [if_pos hname, if_pos hname]
      rfl
    · rw [if_neg hname, if_neg hname]
      simp only [orFault_eq, orStop_eq, Stage.act_bind, Stage.act_get, Stage.act_pure]
  · rfl
  · rfl

/-- Steps that only change what has been brought about, one after the other. -/
theorem forM_run {α : Type} {x : α → Act Unit} {g : Progress → α → Progress}
    (hx : ∀ a p, (x a).run.run p = (.ok (), g p a)) (as : List α) (p : Progress) :
    (as.forM x).run.run p = (.ok (), as.foldl g p) := by
  induction as generalizing p with
  | nil => rfl
  | cons a as ih =>
      show (x a >>= fun _ => as.forM x).run.run p = _
      rw [run_bind, hx]
      exact ih (g p a)

/-- A record that goes to an outlet. -/
def Progress.wrote (input : Input) (r : Log.Record) (p : Progress) : Log.Outlet → Progress
  | .console coloured => { p with
      notices := p.notices ++ [.record (coloured && keepsColours p.world.session.vars) r] }
  | .file path rotation => { p with world := { p.world with
      store := Log.append path rotation input.time r p.world.store } }

/-- Records that go to every outlet of the log. -/
def Progress.logged (input : Input) (records : List Log.Record) (p : Progress) : Progress :=
  records.foldl (fun p r => p.world.logger.outlets.foldl (Progress.wrote input r) p) p

theorem logAll_run (input : Input) (records : List Log.Record) (p : Progress) :
    (logAll input records).run.run p = (.ok (), p.logged input records) := by
  refine forM_run (fun r p => ?_) records p
  refine forM_run (fun o p => ?_) p.world.logger.outlets p
  cases o <;> rfl

theorem logDetail_run (input : Input) (message : String) (p : Progress) :
    (logDetail input message).run.run p = (.ok (), p.logged input
      ([⟨loggerName, .debug, message, []⟩].filter
        (Log.Record.passes p.world.logger.threshold))) :=
  logAll_run ..

theorem logDetail_eq (input : Input) (message : String) :
    logDetail input message = (detailing input message).act := by
  funext p
  show (logDetail input message).run.run p =
    (.ok (), ((logDetail input message).run.run p).2)
  rw [logDetail_run]

/-- A run comes to its request, or ends before. -/
theorem answer_eq (engine : Engine) (a : Arguments) (input : Input) :
    answer engine a input = (ready engine.readers a input).act >>= fun r =>
      respond engine.toEngine a input r.1 r.2 := by
  unfold answer ready equip
  simp only [Stage.act_bind, theSettings_eq, setUpLog_eq, theQuery_eq, logDetail_eq, orFault_eq,
    bind_assoc]
  rfl

/-! ## What a run leaves alone before its request -/

/-- The record sums up the requests so far. -/
def IsSummary (r : Log.Record) : Prop :=
  r.logger = Request.loggerName ∧ r.message = "Query metrics"

/-- Nothing is printed between two moments of a run, no request is counted, and nothing is told of
those there were. -/
structure Quiet (p q : Progress) : Prop where
  output : q.output = p.output
  journal : q.world.journal = p.world.journal
  told : ∀ coloured r, .record coloured r ∈ q.notices → IsSummary r →
    .record coloured r ∈ p.notices

/-- The settings in use stay the same, too. -/
structure Settled (p q : Progress) : Prop extends Quiet p q where
  session : q.world.session = p.world.session

theorem Quiet.refl (p : Progress) : Quiet p p := ⟨rfl, rfl, fun _ _ h _ => h⟩

theorem Quiet.trans {p q r : Progress} (h : Quiet p q) (h' : Quiet q r) : Quiet p r :=
  ⟨h'.output.trans h.output, h'.journal.trans h.journal,
    fun coloured x hx hsum => h.told coloured x (h'.told coloured x hx hsum) hsum⟩

theorem Settled.refl (p : Progress) : Settled p p := ⟨.refl p, rfl⟩

theorem Settled.trans {p q r : Progress} (h : Settled p q) (h' : Settled q r) : Settled p r :=
  ⟨h.toQuiet.trans h'.toQuiet, h'.session.trans h.session⟩

/-- Records have been written, and nothing else has happened. -/
structure Written (records : List Log.Record) (p q : Progress) : Prop where
  output : q.output = p.output
  journal : q.world.journal = p.world.journal
  session : q.world.session = p.world.session
  told : ∀ coloured r, .record coloured r ∈ q.notices →
    .record coloured r ∈ p.notices ∨ r ∈ records

theorem Written.refl (records : List Log.Record) (p : Progress) : Written records p p :=
  ⟨rfl, rfl, rfl, fun _ _ h => Or.inl h⟩

theorem Written.trans {records : List Log.Record} {p q r : Progress} (h : Written records p q)
    (h' : Written records q r) : Written records p r :=
  ⟨h'.output.trans h.output, h'.journal.trans h.journal, h'.session.trans h.session,
    fun coloured x hx => (h'.told coloured x hx).elim (h.told coloured x) Or.inr⟩

theorem written_foldl {α : Type} {records : List Log.Record} {g : Progress → α → Progress}
    {as : List α} (h : ∀ p, ∀ a ∈ as, Written records p (g p a)) (p : Progress) :
    Written records p (as.foldl g p) := by
  induction as generalizing p with
  | nil => exact .refl records p
  | cons a as ih =>
      exact (h p a List.mem_cons_self).trans
        (ih (fun p b hb => h p b (List.mem_cons_of_mem _ hb)) (g p a))

theorem written_wrote {records : List Log.Record} {r : Log.Record} (hr : r ∈ records)
    (input : Input) (p : Progress) (o : Log.Outlet) : Written records p (p.wrote input r o) := by
  cases o with
  | file path rotation => exact ⟨rfl, rfl, rfl, fun _ _ h => Or.inl h⟩
  | console coloured =>
      refine ⟨rfl, rfl, rfl, fun coloured' x hx => ?_⟩
      rcases List.mem_append.mp hx with hx | hx
      · exact Or.inl hx
      · cases List.mem_singleton.mp hx
        exact Or.inr hr

theorem written_logged (input : Input) (records : List Log.Record) (p : Progress) :
    Written records p (p.logged input records) :=
  written_foldl (fun p _ hr => written_foldl (fun p o _ => written_wrote hr input p o) p) p

/-- Records that sum up nothing are written without any other effect. -/
theorem settled_logged {records : List Log.Record} (h : ∀ r ∈ records, ¬IsSummary r)
    (input : Input) (p : Progress) : Settled p (p.logged input records) := by
  have hwritten := written_logged input records p
  refine ⟨⟨hwritten.output, hwritten.journal, fun coloured r hr hsum => ?_⟩, hwritten.session⟩
  exact (hwritten.told coloured r hr).resolve_right fun hmem => h r hmem hsum

section

variable {α β : Type} {x : Stage α} {f : α → Stage β}

theorem settled_bind (hx : ∀ p, Settled p (x.run.run p).2)
    (hf : ∀ a p, Settled p ((f a).run.run p).2) (p : Progress) :
    Settled p ((x >>= f).run.run p).2 := by
  have hfirst := hx p
  rw [run_bind]
  rcases hrun : x.run.run p with ⟨e | a, q⟩
  · rw [hrun] at hfirst
    exact hfirst
  · rw [hrun] at hfirst
    exact hfirst.trans (hf a q)

end

theorem settled_need {α : Type} (r : Except Failure α) (p : Progress) :
    Settled p ((Stage.need r).run.run p).2 := .refl p

theorem settled_preparing (settings : Settings) (level : Option String) (p : Progress) :
    Settled p ((preparing settings level).run.run p).2 := by
  unfold preparing
  refine settled_bind (settled_need _) (fun options p => ?_) p
  exact ⟨⟨rfl, rfl, fun _ _ h _ => h⟩, rfl⟩

theorem settled_detailing (input : Input) (message : String) (p : Progress) :
    Settled p ((detailing input message).run.run p).2 := by
  show Settled p ((logDetail input message).run.run p).2
  rw [logDetail_run]
  -- these records have a logger of their own
  refine settled_logged (fun r hr hsum => ?_) input p
  obtain ⟨hr, -⟩ := List.mem_filter.mp hr
  obtain rfl := List.mem_singleton.mp hr
  exact absurd hsum.1 (show loggerName ≠ Request.loggerName by decide)

theorem settled_reading (a : Arguments) (input : Input) (p : Progress) :
    Settled p ((reading a input).run.run p).2 := by
  have hdecode : ∀ bytes p, Settled p ((do
      return String.ofList (← Stage.need ((Files.decode bytes).mapError .fault)) :
        Stage String).run.run p).2 := by
    intro bytes p
    refine settled_bind (settled_need _) (fun text p => ?_) p
    exact .refl p
  unfold reading
  split
  · exact .refl p
  · rename_i file _ _
    by_cases hname : (!(Files.Path.ofString file).isNameable) = true
    · rw [if_pos hname]
      exact .refl p
    · rw [if_neg hname]
      refine settled_bind (fun p => ?_) (fun q p => ?_) p
      · exact .refl p
      · exact settled_bind (settled_need _) hdecode p
  · exact hdecode input.stdin p

/-- Loading the settings changes the session as it would by itself. -/
theorem loading_run (readers : Settings.Readers) (file : Option String) (p : Progress) :
    (loading readers file).run.run p =
      ((p.world.session.get p.world.store file readers).1.map Prod.snd,
        { p with
          world := { p.world with session := (p.world.session.get p.world.store file readers).2 }
          notices := p.notices ++
            (p.world.session.get p.world.store file readers).2.unreadable.map
              .unreadableLine }) := by
  have hright : ∀ (r : Except Failure (Nat × Settings)) (q : Progress),
      (Stage.need r >>= fun c => (pure c.2 : Stage Settings)).run.run q = (r.map Prod.snd, q) := by
    intro r q
    cases r <;> rfl
  exact hright ..

theorem quiet_loading (readers : Settings.Readers) (file : Option String) (p : Progress) :
    Quiet p ((loading readers file).run.run p).2 := by
  rw [loading_run]
  refine ⟨rfl, rfl, fun coloured x hx hsum => ?_⟩
  rcases List.mem_append.mp hx with hx | hx
  · exact hx
  · obtain ⟨n, -, hn⟩ := List.mem_map.mp hx
    cases hn

theorem settled_equip (a : Arguments) (input : Input) (settings : Settings) (p : Progress) :
    Settled p ((equip a input settings).run.run p).2 := by
  unfold equip
  refine settled_bind (settled_preparing settings a.logLevel) (fun _ p => ?_) p
  refine settled_bind (settled_detailing input _) (fun _ p => ?_) p
  refine settled_bind (settled_need _) (fun enforced p => ?_) p
  exact settled_bind (settled_detailing input _) (fun _ p => settled_reading a input p) p

/-- Where the settings cannot be loaded a run is not ready, and the files are as they were. -/
theorem ready_of_error {readers : Settings.Readers} {a : Arguments} {p : Progress} {e : Failure}
    (h : (p.world.session.get p.world.store a.config readers).1 = .error e) (input : Input) :
    ((ready readers a input).run.run p).1 = .error e ∧
      ((ready readers a input).run.run p).2.world.store = p.world.store := by
  rw [ready, run_bind, loading_run, h]
  exact ⟨rfl, rfl⟩

/-- A run that is ready has the settings in use. -/
theorem settings_of_ready {readers : Settings.Readers} {a : Arguments} {input : Input}
    {p : Progress} {settings : Settings} {query : String}
    (h : ((ready readers a input).run.run p).1 = .ok (settings, query)) :
    ∃ n, (p.world.session.get p.world.store a.config readers).1 = .ok (n, settings) := by
  rw [ready, run_bind, loading_run] at h
  cases hget : (p.world.session.get p.world.store a.config readers).1 with
  | error e =>
      rw [hget] at h
      cases h
  | ok c =>
      rw [hget] at h
      replace h := (congrArg Prod.fst (run_bind (equip a input c.2) _ _)).symm.trans h
      split at h
      · cases h
        exact ⟨c.1, rfl⟩
      · cases h

/-- Getting ready leaves all but the session alone, and that it changes as loading does. -/
theorem quiet_ready (readers : Settings.Readers) (a : Arguments) (input : Input) (p : Progress) :
    Quiet p ((ready readers a input).run.run p).2 ∧
      ((ready readers a input).run.run p).2.world.session =
        (p.world.session.get p.world.store a.config readers).2 := by
  have hloading := quiet_loading readers a.config p
  rw [ready, run_bind]
  rw [loading_run] at hloading ⊢
  cases (p.world.session.get p.world.store a.config readers).1 with
  | error e => exact ⟨hloading, rfl⟩
  | ok c =>
      have hequip : ∀ q, Settled q ((equip a input c.2 >>= fun query =>
          (pure (c.2, query) : Stage (Settings × String))).run.run q).2 :=
        settled_bind (settled_equip a input c.2) fun query q => Settled.refl q
      exact ⟨hloading.trans (hequip _).toQuiet, (hequip _).session⟩

end RowGuard.Command
