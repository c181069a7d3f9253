import RowGuard.Log.Logger
import RowGuard.Proofs.Files.Growth

/-!
# Setting up the log again

Setting up the log has two halves. The first finds the directory, makes it, and finds the level; it
neither reads nor changes the log. The second empties the log and gives it its console at once, and a
file if it gets that far. So a call that fails in the first half leaves the log as it was, one that
fails in the second leaves its own console, and in both cases the next call that succeeds begins from
nothing: what it leaves depends on its options and the working directory alone.
-/

namespace RowGuard

/-- What comes after a step that fails is left out. -/
theorem run_bind {ε σ α β : Type} (x : ExceptT ε (StateM σ) α) (f : α → ExceptT ε (StateM σ) β)
    (s : σ) : (x >>= f).run.run s = match x.run.run s with
      | (.ok a, t) => (f a).run.run t
      | (.error e, t) => (.error e, t) := by
  show StateT.run (ExceptT.bindCont f (x.run.run s).1) (x.run.run s).2 = _
  rcases x.run.run s with ⟨e | a, t⟩ <;> rfl

namespace Log

open Files.Store (Gains)

/-! ## The two halves -/

/-- What is settled before the log is touched: the directory, which is made, and the level. -/
def groundwork (o : Options) (store : Files.Store) :
    Except Failure (Files.Path × Nat) × Files.Store :=
  match path o.directory with
  | .error f => (.error (.fault f), store)
  | .ok directory =>
    if directory.isNameable then
      match store.ensureDirectory directory with
      | (store, .error e) => (.error (.file e), store)
      | (store, .ok ()) => (((threshold o.level).mapError .fault).map (directory, ·), store)
    else (.error (.fault .badContent), store)

/-- The outlet to the file, and the store with the file. -/
def fileOutlet (o : Options) (directory : Files.Path) (store : Files.Store) :
    Except Failure (Outlet × Files.Store) :=
  match path o.file, Rotation.ofOptions o with
  | .error f, _ => .error (.fault f)
  | _, .error f => .error (.fault f)
  | .ok name, .ok rotation =>
    let place := (directory.join name).full store.cwd
    if (directory.join name).isNameable then
      match store.touch place with
      | .ok store => .ok (.file place rotation, store)
      | .error e => .error (.file e)
    else .error (.fault .badContent)

/-- The last steps, which give the log its file. -/
def furnish (o : Options) (directory : Files.Path) : Setup Unit := do
  let name ← orFault (path o.file)
  let rotation ← orFault (Rotation.ofOptions o)
  addFile (directory.join name) rotation

theorem orFault_run {α : Type} (r : Except Fault α) (s : Scene) :
    (orFault r).run.run s = (r.mapError .fault, s) := by
  cases r <;> rfl

theorem get_run (s : Scene) : (get : Setup Scene).run.run s = (.ok s, s) := rfl

theorem makeDirectory_run (p : Files.Path) (s : Scene) :
    (makeDirectory p).run.run s =
      if p.isNameable then
        ((s.store.ensureDirectory p).2.mapError .file,
          { s with store := (s.store.ensureDirectory p).1 })
      else (.error (.fault .badContent), s) := by
  rw [makeDirectory]
  cases p.isNameable with
  | false => rfl
  | true =>
      rw [if_neg (by decide), if_pos rfl, run_bind, get_run]
      dsimp only
      rcases s.store.ensureDirectory p with ⟨store, e | u⟩ <;> rfl

theorem addFile_run (p : Files.Path) (rotation : Rotation) (s : Scene) :
    (addFile p rotation).run.run s =
      if p.isNameable then
        match s.store.touch (p.full s.store.cwd) with
        | .ok store => (.ok (), ⟨store, { s.logger with
            outlets := s.logger.outlets ++ [.file (p.full s.store.cwd) rotation] }⟩)
        | .error e => (.error (.file e), s)
      else (.error (.fault .badContent), s) := by
  rw [addFile]
  cases p.isNameable with
  | false => rfl
  | true =>
      rw [if_neg (by decide), if_pos rfl, run_bind, get_run]
      dsimp only
      rw [run_bind, get_run]
      dsimp only
      cases s.store.touch (p.full s.store.cwd) <;> rfl

theorem furnish_run (o : Options) (directory : Files.Path) (s : Scene) :
    (furnish o directory).run.run s = match fileOutlet o directory s.store with
      | .error e => (.error e, s)
      | .ok (outlet, store) =>
        (.ok (), ⟨store, { s.logger with outlets := s.logger.outlets ++ [outlet] }⟩) := by
  rw [furnish, run_bind, orFault_run, fileOutlet]
  cases path o.file with
  | error f => rfl
  | ok name =>
      dsimp only [Except.mapError]
      rw [run_bind, orFault_run]
      cases Rotation.ofOptions o with
      | error f => rfl
      | ok rotation =>
          dsimp only [Except.mapError]
          rw [addFile_run]
          by_cases hname : (directory.join name).isNameable = true
          · rw [if_pos hname, if_pos hname]
            cases s.store.touch ((directory.join name).full s.store.cwd) <;> rfl
          · rw [if_neg hname, if_neg hname]

/-- Setting up is one half after the other. -/
theorem setUp_run (o : Options) (s : Scene) :
    (setUp o).run.run s = match groundwork o s.store with
      | (.error e, store) => (.error e, ⟨store, s.logger⟩)
      | (.ok (directory, level), store) =>
        match fileOutlet o directory store with
        | .error e => (.error e, ⟨store, level, [.console o.colours.truthy]⟩)
        | .ok (outlet, store) => (.ok (), ⟨store, level, [.console o.colours.truthy, outlet]⟩) := by
  rw [setUp, groundwork, run_bind, orFault_run]
  cases path o.directory with
  | error f => rfl
  | ok directory =>
      dsimp only [Except.mapError]
      rw [run_bind, makeDirectory_run]
      by_cases hname : directory.isNameable = true
      · rw [if_pos hname, if_pos hname]
        rcases s.store.ensureDirectory directory with ⟨store, e | u⟩
        · rfl
        · dsimp only [Except.mapError]
          rw [run_bind, orFault_run]
          cases threshold o.level with
          | error f => rfl
          | ok level =>
              -- the console is there before the file is looked at, and stays if that fails
              show (furnish o directory).run.run ⟨store, level, [.console o.colours.truthy]⟩ = _
              rw [furnish_run]
              rfl
      · rw [if_neg hname, if_neg hname]

/-! ## What each half leaves -/

theorem gains_groundwork (o : Options) (store : Files.Store) :
    Gains ∅ store (groundwork o store).2 := by
  rw [groundwork]
  cases path o.directory with
  | error f => exact Gains.refl store
  | ok directory =>
      dsimp only
      split
      · have hmade := Files.Store.gains_ensureDirectory store directory
        split
        · rename_i hensure
          rw [hensure] at hmade
          exact hmade
        · rename_i hensure
          rw [hensure] at hmade
          exact hmade
      · exact Gains.refl store

theorem of_groundwork {o : Options} {store made : Files.Store} {directory : Files.Path}
    {level : Nat} (h : groundwork o store = (.ok (directory, level), made)) :
    path o.directory = .ok directory ∧ threshold o.level = .ok level := by
  rw [groundwork] at h
  cases hdirectory : path o.directory with
  | error f =>
      rw [hdirectory] at h
      cases h
  | ok found =>
      rw [hdirectory] at h
      dsimp only at h
      split at h
      · split at h
        · cases h
        · cases hlevel : threshold o.level with
          | error f =>
              rw [hlevel] at h
              cases h
          | ok number =>
              rw [hlevel] at h
              cases h
              exact ⟨rfl, rfl⟩
      · cases h

/-- The file that the options name, where directory and file are texts. -/
def Options.place? (cwd : List String) (o : Options) : Option Files.Path :=
  match path o.directory, path o.file with
  | .ok directory, .ok name => some ((directory.join name).full cwd)
  | _, _ => none

/-- The names under which files are. -/
def namesOf (files : List Files.Path) : Set (List String) := {names | ∃ p ∈ files, p.names = names}

theorem namesOf_nil : namesOf [] = ∅ :=
  Set.eq_empty_iff_forall_notMem.mpr fun _ ⟨_, hmem, _⟩ => List.not_mem_nil hmem

theorem namesOf_singleton (p : Files.Path) : namesOf [p] = {p.names} := by
  ext names
  rw [Set.mem_singleton_iff]
  constructor
  · rintro ⟨q, hq, rfl⟩
    rw [List.mem_singleton.mp hq]
  · rintro rfl
    exact ⟨p, List.mem_singleton_self p, rfl⟩

theorem namesOf_append (files more : List Files.Path) :
    namesOf (files ++ more) = namesOf files ∪ namesOf more := by
  ext names
  constructor
  · rintro ⟨p, hp, hnames⟩
    rcases List.mem_append.mp hp with hp | hp
    · exact Or.inl ⟨p, hp, hnames⟩
    · exact Or.inr ⟨p, hp, hnames⟩
  · rintro (⟨p, hp, hnames⟩ | ⟨p, hp, hnames⟩)
    · exact ⟨p, List.mem_append_left more hp, hnames⟩
    · exact ⟨p, List.mem_append_right files hp, hnames⟩

theorem of_fileOutlet {o : Options} {store made : Files.Store} {directory : Files.Path}
    {outlet : Outlet} (h : fileOutlet o directory store = .ok (outlet, made)) :
    ∃ name rotation, path o.file = .ok name ∧ Rotation.ofOptions o = .ok rotation ∧
      outlet = .file ((directory.join name).full store.cwd) rotation ∧
      Gains {((directory.join name).full store.cwd).names} store made := by
  rw [fileOutlet] at h
  cases hname : path o.file with
  | error f =>
      rw [hname] at h
      cases h
  | ok name =>
      cases hrotation : Rotation.ofOptions o with
      | error f =>
          rw [hname, hrotation] at h
          cases h
      | ok rotation =>
          rw [hname, hrotation] at h
          dsimp only at h
          split at h
          · split at h
            · rename_i htouch
              cases h
              exact ⟨name, rotation, rfl, rfl, rfl, Files.Store.gains_touch htouch⟩
            · cases h
          · cases h

/-! ## One call -/

namespace Scene

/-- What a call comes to. -/
def outcome (s : Scene) (o : Options) : Except Failure Unit := ((setUp o).run.run s).1

/-- What it leaves. -/
def after (s : Scene) (o : Options) : Scene := ((setUp o).run.run s).2

/-- What one call after the other leaves. -/
def afterAll (s : Scene) (calls : List Options) : Scene := calls.foldl after s

/-- The files of the calls that succeed. -/
def written (s : Scene) : List Options → List Files.Path
  | [] => []
  | o :: calls =>
    (if (s.outcome o).isOk then (o.place? s.store.cwd).toList else []) ++ (s.after o).written calls

/-- A call does the same whatever the log is like. -/
theorem of_store_eq (o : Options) {s t : Scene} (h : t.store = s.store) :
    t.outcome o = s.outcome o ∧ (t.after o).store = (s.after o).store := by
  rw [outcome, outcome, after, after, setUp_run, setUp_run, h]
  rcases groundwork o s.store with ⟨e | ⟨directory, level⟩, store⟩
  · exact ⟨rfl, rfl⟩
  · dsimp only
    cases fileOutlet o directory store with
    | error e => exact ⟨rfl, rfl⟩
    | ok made => exact ⟨rfl, rfl⟩

/-- The log that the options ask for is set up, and its file is there. -/
structure Furnished (o : Options) (s t : Scene) : Prop where
  outlets : ∃ directory name level rotation, path o.directory = .ok directory ∧
    path o.file = .ok name ∧ threshold o.level = .ok level ∧
    Rotation.ofOptions o = .ok rotation ∧
    t.logger = ⟨level, [.console o.colours.truthy,
      .file ((directory.join name).full s.store.cwd) rotation]⟩
  gains : Gains (namesOf (o.place? s.store.cwd).toList) s.store t.store

/-- The log is as it was or has nothing but the console that the options ask for, and there are no
new files. -/
structure Unfurnished (o : Options) (s t : Scene) : Prop where
  outlets : t.logger = s.logger ∨
    ∃ level, threshold o.level = .ok level ∧ t.logger = ⟨level, [.console o.colours.truthy]⟩
  gains : Gains ∅ s.store t.store

/-- **A call** sets up the log as its options say, or fails and makes no file. -/
theorem after_cases (s : Scene) (o : Options) :
    ((s.outcome o).isOk = true ∧ Furnished o s (s.after o)) ∨
      ((s.outcome o).isOk = false ∧ Unfurnished o s (s.after o)) := by
  have hground := gains_groundwork o s.store
  rw [outcome, after, setUp_run]
  cases hhalf : groundwork o s.store with
  | mk found store =>
      rw [hhalf] at hground
      cases found with
      | error e => exact Or.inr ⟨rfl, Or.inl rfl, hground⟩
      | ok found =>
          obtain ⟨directory, level⟩ := found
          obtain ⟨hdirectory, hlevel⟩ := of_groundwork hhalf
          dsimp only
          cases houtlet : fileOutlet o directory store with
          | error e => exact Or.inr ⟨rfl, Or.inr ⟨level, hlevel, rfl⟩, hground⟩
          | ok made =>
              obtain ⟨outlet, made⟩ := made
              obtain ⟨name, rotation, hname, hrotation, rfl, hfile⟩ := of_fileOutlet houtlet
              -- the file is seen from the working directory, which the first half leaves alone
              rw [hground.cwd] at hfile
              have hplace : (o.place? s.store.cwd).toList =
                  [(directory.join name).full s.store.cwd] := by
                rw [Options.place?, hdirectory, hname]
                rfl
              refine Or.inl ⟨rfl, ⟨directory, name, level, rotation, hdirectory, hname, hlevel,
                hrotation, ?_⟩, ?_⟩
              · rw [hground.cwd]
              · rw [hplace, namesOf_singleton]
                exact hground.after hfile

/-! ## Calls in succession -/

/-- The calls that succeed, and no others, leave their files. -/
theorem gains_afterAll (s : Scene) (calls : List Options) :
    Gains (namesOf (s.written calls)) s.store (s.afterAll calls).store := by
  induction calls generalizing s with
  | nil =>
      rw [written, namesOf_nil]
      exact Gains.refl s.store
  | cons o calls ih =>
      -- the other calls find the files that the first has left
      have hrest : Gains _ (s.after o).store (s.afterAll (o :: calls)).store := ih (s.after o)
      rw [written]
      rcases s.after_cases o with ⟨hok, h⟩ | ⟨hfail, h⟩
      · rw [if_pos hok, namesOf_append]
        exact h.gains.trans hrest
      · rw [if_neg (Bool.eq_false_iff.mp hfail), List.nil_append]
        exact h.gains.after hrest

theorem furnished {s : Scene} {o : Options} (h : (s.outcome o).isOk = true) :
    Furnished o s (s.after o) := by
  rcases s.after_cases o with ⟨-, hdone⟩ | ⟨hfail, -⟩
  · exact hdone
  · cases h.symm.trans hfail

theorem unfurnished {s : Scene} {o : Options} (h : (s.outcome o).isOk = false) :
    Unfurnished o s (s.after o) := by
  rcases s.after_cases o with ⟨hok, -⟩ | ⟨-, hdone⟩
  · cases hok.symm.trans h
  · exact hdone

/-- Where the working directory is the same, the same options set up the same log. -/
theorem Furnished.logger_eq {o : Options} {s s' t t' : Scene} (h : Furnished o s s')
    (h' : Furnished o t t') (hcwd : t.store.cwd = s.store.cwd) : t'.logger = s'.logger := by
  obtain ⟨directory, name, level, rotation, hdirectory, hname, hlevel, hrotation, hs⟩ := h.outlets
  obtain ⟨directory', name', level', rotation', hdirectory', hname', hlevel', hrotation', ht⟩ :=
    h'.outlets
  obtain rfl := Except.ok.inj (hdirectory.symm.trans hdirectory')
  obtain rfl := Except.ok.inj (hname.symm.trans hname')
  obtain rfl := Except.ok.inj (hlevel.symm.trans hlevel')
  obtain rfl := Except.ok.inj (hrotation.symm.trans hrotation')
  rw [hs, ht, hcwd]

end Scene

/--
**Setting up the log again is setting it up afresh.**

After any calls, failed ones among them, the next one comes to what it comes to in a process that has
a new log and finds the same files, and leaves the same files. If it succeeds the log has two outlets,
first the console and then the file in the directory, as the options say, and the level that they
say; so it has in any process with this working directory in which the call succeeds, whatever calls
went before and whatever there is of files. If it fails there are the same files as before, and the
log is as it was or has nothing but its console. The files there are after the calls are those there
were, as they were, and the files of the calls that succeeded.
-/
theorem setUp_afresh (start : Scene) (calls : List Options) (o : Options) :
    let cwd := start.store.cwd
    let s := start.afterAll calls
    let fresh : Scene := ⟨s.store, {}⟩
    (s.outcome o = fresh.outcome o ∧ (s.after o).store = (fresh.after o).store) ∧
    ((s.outcome o).isOk = true →
      (∃ directory name level rotation, path o.directory = .ok directory ∧
        path o.file = .ok name ∧ threshold o.level = .ok level ∧
        Rotation.ofOptions o = .ok rotation ∧
        (s.after o).logger = ⟨level, [.console o.colours.truthy,
          .file ((directory.join name).full cwd) rotation]⟩) ∧
      (s.after o).logger = (fresh.after o).logger ∧
      ∀ other : Scene, other.store.cwd = cwd → (other.outcome o).isOk = true →
        (other.after o).logger = (s.after o).logger) ∧
    ((s.outcome o).isOk = false →
      ((s.after o).logger = s.logger ∨ ∃ level, threshold o.level = .ok level ∧
        (s.after o).logger = ⟨level, [.console o.colours.truthy]⟩) ∧
      ∀ names content, (s.after o).store.find? names = some (.file content) ↔
        s.store.find? names = some (.file content)) ∧
    ∀ names content, s.store.find? names = some (.file content) ↔
      start.store.find? names = some (.file content) ∨
        (start.store.find? names = none ∧ content = [] ∧
          ∃ p ∈ start.written calls, p.names = names) := by
  intro cwd s fresh
  have hgrown : Gains (namesOf (start.written calls)) start.store s.store :=
    start.gains_afterAll calls
  obtain ⟨hsame, hstore⟩ := Scene.of_store_eq o (s := s) (t := fresh) rfl
  refine ⟨⟨hsame.symm, hstore.symm⟩, fun hok => ?_, fun hfail => ?_, hgrown.file_iff⟩
  · have hdone := Scene.furnished hok
    refine ⟨?_, ?_, fun other hcwd hother => ?_⟩
    · have hhere : cwd = s.store.cwd := hgrown.cwd.symm
      rw [hhere]
      exact hdone.outlets
    · have hfresh : (fresh.outcome o).isOk = true := by
        rw [hsame]
        exact hok
      exact (hdone.logger_eq (Scene.furnished hfresh) rfl).symm
    · exact hdone.logger_eq (Scene.furnished hother) (hcwd.trans hgrown.cwd.symm)
  · have hundone := Scene.unfurnished hfail
    refine ⟨hundone.outlets, fun names content => ?_⟩
    rw [hundone.gains.file_iff]
    exact or_iff_left fun h => h.2.2

/-- A call that fails after the console, one that fails on its directory, and then one that adds to a
file that is there. -/
theorem setUp_afresh_failed :
    let start : Scene := ⟨⟨["w"], [(["w", "a.log"], .file [65])]⟩, {}⟩
    let bad : Options := { file := .int 3 }
    let calls : List Options := [{ rotation := .str "weekly" }, bad, { directory := .str "a.log" }]
    let o : Options := { file := .str "../a.log", rotation := .str "size", level := .str "debug" }
    let s := start.afterAll calls
    (s.outcome o).isOk = true ∧ (start.outcome o).isOk = true ∧
      (start.after o).logger = (s.after o).logger ∧
      (s.outcome bad).isOk = false ∧
      ∀ names content, (s.after bad).store.find? names = some (.file content) ↔
        s.store.find? names = some (.file content) := by
  intro start bad calls o s
  have hok : (s.outcome o).isOk = true := by decide +kernel
  have hfirst : (start.outcome o).isOk = true := by decide +kernel
  have hfail : (s.outcome bad).isOk = false := by decide +kernel
  obtain ⟨-, hdone, -⟩ := setUp_afresh start calls o
  obtain ⟨-, -, hundone, -⟩ := setUp_afresh start calls bad
  exact ⟨hok, hfirst, (hdone hok).2.2 start rfl hfirst, hfail, (hundone hfail).2⟩

end Log

end RowGuard
