import RowGuard.Proofs.Environment.Binding
import RowGuard.Settings.Session

/-!
# Settings in use, over any succession of loadings

Loading settings reads the file of variables first, and what that sets stays set, whether or not there
are settings in the end. Reading it again changes nothing more, so what a loading comes to is decided
by its path, the files and the variables there were at the start. The settings in use are those of the
last loading that gave any, under a number of their own; a loading that fails leaves them.

That reading adds what is not set is all that is asked of the reader of the file of variables, and
nothing is asked of the reader of documents.
-/

namespace RowGuard.Settings

/-! ## Loading again -/

/-- With `vars` set, reading the file of variables adds those of its variables, which have the given
names, that are not set yet. Their values may depend on those that are. -/
def Readers.Adds (readers : Readers) (store : Files.Store) (names : List String)
    (vars : Variables) : Prop :=
  ∃ bindings, bindings.map Prod.fst = names ∧
    (readers.environment store vars).1 = vars.addUnset bindings ∧
    (readers.environment store vars).2.2 = .ok ()

/-- Reading the file of variables adds those that are not set yet, and so it does when it is read
again. Or it adds nothing: there is no such file, it is left alone, or it cannot be read. -/
def Readers.AddsUnset (readers : Readers) (store : Files.Store) (vars : Variables) : Prop :=
  (readers.environment store vars).1 = vars ∨
    ∃ names, readers.Adds store names vars ∧
      readers.Adds store names (readers.environment store vars).1

/-- The file of variables, read a second time, changes nothing and comes to the same. -/
theorem Readers.AddsUnset.again {readers : Readers} {store : Files.Store} {vars : Variables}
    (h : readers.AddsUnset store vars) :
    (readers.environment store (readers.environment store vars).1).1 =
        (readers.environment store vars).1 ∧
      (readers.environment store (readers.environment store vars).1).2.2 =
        (readers.environment store vars).2.2 := by
  rcases h with hsame | ⟨names, hadds, hadds'⟩
  · rw [hsame]
    exact ⟨hsame, rfl⟩
  · obtain ⟨first, hfirst, hadded, hdone⟩ := hadds
    obtain ⟨second, hsecond, hagain, hdone'⟩ := hadds'
    refine ⟨?_, hdone'.trans hdone.symm⟩
    -- the values may be others now, but every name has been set the first time
    rw [hagain, hadded]
    exact Variables.addUnset_again (hsecond.trans hfirst.symm) vars

/-- Either nothing is set, or there is a text that says what is. -/
theorem loadVariables_cases (store : Files.Store) (vars : Variables) :
    (loadVariables store vars).1 = vars ∨
      Binding.disabled vars = false ∧ ∃ text, ∀ others, Binding.disabled others = false →
        (loadVariables store others).1 = (Binding.load others text).1 ∧
          (loadVariables store others).2.2 = (Binding.load others text).2.2.mapError .fault := by
  cases hdisabled : Binding.disabled vars with
  | true =>
      rw [loadVariables, if_pos hdisabled]
      exact Or.inl rfl
  | false =>
      have hload : ∀ others, Binding.disabled others = false → loadVariables store others = _ :=
        fun others hothers => if_neg (ne_true_of_eq_false hothers)
      rw [hload vars hdisabled]
      cases hstat : store.stat variableFile with
      | error c => exact Or.inl rfl
      | ok entry =>
          cases entry with
          | directory => exact Or.inl rfl
          | file bytes =>
              dsimp only
              cases hdecode : Files.decode bytes with
              | error f => exact Or.inl rfl
              | ok text =>
                  refine Or.inr ⟨rfl, text, fun others hothers => ?_⟩
                  rw [hload others hothers, hstat]
                  dsimp only
                  rw [hdecode]
                  exact ⟨rfl, rfl⟩

/-- The file of variables is read so unless it has a variable that the environment refuses. -/
theorem addsUnset_loadVariables {store : Files.Store} {vars : Variables}
    (h : (loadVariables store vars).2.2 ≠ .error (.fault .badContent)) :
    Readers.AddsUnset {} store vars := by
  rcases loadVariables_cases store vars with hsame | ⟨henabled, text, hload⟩
  · exact Or.inl hsame
  · obtain ⟨hvars, hresult⟩ := hload vars henabled
    have hdone : (Binding.load vars text).2.2 = .ok () := by
      refine (Binding.setAll_result _ vars).resolve_right fun hrefused => h ?_
      rw [hresult]
      exact congrArg (Except.mapError Failure.fault) hrefused
    obtain ⟨bindings, hadded, again, hnames, hagain, hdone'⟩ := Binding.load_of_ok hdone
    have hfirst : Readers.Adds {} store (bindings.map Prod.fst) vars :=
      ⟨bindings, rfl, hvars.trans hadded, hresult.trans (by rw [hdone]; rfl)⟩
    refine Or.inr ⟨_, hfirst, ?_⟩
    show Readers.Adds {} store _ (loadVariables store vars).1
    rw [hvars]
    -- what the file has set may be that files of variables are left alone from then on
    cases hdisabled : Binding.disabled (Binding.load vars text).1 with
    | true =>
        have hleft : loadVariables store (Binding.load vars text).1 =
            ((Binding.load vars text).1, [], .ok ()) := if_pos hdisabled
        refine ⟨bindings, rfl, (congrArg Prod.fst hleft).trans ?_, congrArg (·.2.2) hleft⟩
        rw [hadded]
        exact (Variables.addUnset_again rfl vars).symm
    | false =>
        obtain ⟨hvars', hresult'⟩ := hload _ hdisabled
        exact ⟨again, hnames, hvars'.trans hagain, hresult'.trans (by rw [hdone']; rfl)⟩

theorem vars_load (readers : Readers) (store : Files.Store) (vars : Variables)
    (file : Option String) :
    (load store vars file readers).vars = (readers.environment store vars).1 := by
  rw [load]
  split
  · rename_i h
    rw [h]
  · rename_i h
    rw [h]

theorem settings_load (readers : Readers) (store : Files.Store) (vars : Variables)
    (file : Option String) :
    (load store vars file readers).settings = match (readers.environment store vars).2.2 with
      | .error e => .error e
      | .ok () => ofFile readers.document store (readers.environment store vars).1 file := by
  rw [load]
  split
  · rename_i h
    rw [h]
  · rename_i h
    rw [h]

/-- What a loading comes to is the same after another one. -/
theorem load_after {readers : Readers} {store : Files.Store} {vars : Variables}
    (h : readers.AddsUnset store vars) (file : Option String) :
    (load store (readers.environment store vars).1 file readers).settings =
        (load store vars file readers).settings ∧
      (load store (readers.environment store vars).1 file readers).vars =
        (readers.environment store vars).1 := by
  obtain ⟨hvars, hresult⟩ := h.again
  rw [settings_load, settings_load, vars_load, hvars, hresult]
  exact ⟨rfl, rfl⟩

/-! ## Successions -/

namespace Session

/-- Something asked of the settings in use. -/
inductive Ask where
  | get (file : Option String)
  | reload (file : Option String)

namespace Ask

/-- The file that would be loaded. -/
def file : Ask → Option String
  | get file => file
  | reload file => file

/-- Whether settings are loaded, where `last` are those in use. -/
def loads (last : Option (Nat × Settings)) : Ask → Bool
  | get _ => last.isNone
  | reload _ => true

/-- What an ask comes to, and the session after it. -/
def answer (readers : Readers) (store : Files.Store) (s : Session) :
    Ask → Except Failure (Nat × Settings) × Session
  | get file => s.get store file readers
  | reload file => s.reload store file readers

end Ask

/-- Answers one ask after the other. -/
def answers (readers : Readers) (store : Files.Store) (asks : List Ask) :
    StateM Session (List (Except Failure (Nat × Settings))) :=
  asks.mapM fun ask s => ask.answer readers store s

/-- The settings of the last loading that gave any, where each ask stands with what it came to. -/
def lastLoaded (history : List (Ask × Except Failure (Nat × Settings))) : Option (Nat × Settings) :=
  history.foldl (fun last entry =>
    match entry.2 with
    | .ok c => if entry.1.loads last then some c else last
    | .error _ => last) none

section

variable {readers : Readers} {store : Files.Store} {vars : Variables}

/-! ### One ask -/

/-- The session after a loading that changed nothing but the variables. -/
def tried (readers : Readers) (store : Files.Store) (file : Option String) (s : Session) :
    Session :=
  let l := load store s.vars file readers
  { s with vars := l.vars, unreadable := l.unreadable }

theorem reload_of_error {s : Session} {file : Option String} {e : Failure}
    (h : (load store s.vars file readers).settings = .error e) :
    s.reload store file readers = (.error e, s.tried readers store file) := by
  rw [reload, h]
  rfl

theorem reload_of_ok {s : Session} {file : Option String} {settings : Settings}
    (h : (load store s.vars file readers).settings = .ok settings) :
    s.reload store file readers = (.ok (s.loaded, settings), { s.tried readers store file with
      current := some (s.loaded, settings), loaded := s.loaded + 1 }) := by
  rw [reload, h]
  rfl

theorem answer_of_loads {s : Session} {ask : Ask} (h : ask.loads s.current = true) :
    ask.answer readers store s = s.reload store ask.file readers := by
  cases ask with
  | reload file => rfl
  | get file =>
      have hnone : s.current = none := Option.isNone_iff_eq_none.mp h
      rw [Ask.answer, get, hnone]
      rfl

theorem answer_of_not_loads {s : Session} {ask : Ask} (h : ask.loads s.current = false) :
    ∃ c, s.current = some c ∧
      ask.answer readers store s = (.ok c, { s with unreadable := [] }) := by
  cases ask with
  | reload file => cases h
  | get file =>
      obtain ⟨c, hc⟩ := Option.isSome_iff_exists.mp (Option.isNone_eq_false_iff.mp h)
      exact ⟨c, hc, by rw [Ask.answer, get, hc]⟩

/-! ### What holds after every succession -/

/-- The session agrees with what has been answered so far, and nothing but the file of variables has
been added to the variables there were at the start. -/
structure Sound (readers : Readers) (store : Files.Store) (vars : Variables)
    (history : List (Ask × Except Failure (Nat × Settings))) (s : Session) : Prop where
  current : s.current = lastLoaded history
  none : s.current = none → ∀ entry ∈ history, ∀ c, entry.2 ≠ .ok c
  inUse : ∀ c, s.current = some c → ∃ entry ∈ history, entry.2 = .ok c
  numbered : ∀ entry ∈ history, ∀ c, entry.2 = .ok c → c.1 < s.loaded
  vars : s.vars = vars ∨ s.vars = (readers.environment store vars).1

theorem sound_start (readers : Readers) (store : Files.Store) (vars : Variables) :
    Sound readers store vars [] { vars := vars } where
  current := rfl
  none := by
    intro _ entry hentry
    cases hentry
  inUse := by
    intro c hc
    cases hc
  numbered := by
    intro entry hentry
    cases hentry
  vars := Or.inl rfl

/-- What an ask loads is what it would have loaded at the start. -/
theorem Sound.settings_load {history : List (Ask × Except Failure (Nat × Settings))} {s : Session}
    (hs : Sound readers store vars history s) (h : readers.AddsUnset store vars)
    (file : Option String) :
    (load store s.vars file readers).settings = (load store vars file readers).settings ∧
      (load store s.vars file readers).vars = (readers.environment store vars).1 := by
  rcases hs.vars with heq | heq
  · rw [heq]
    exact ⟨rfl, vars_load readers store vars file⟩
  · rw [heq]
    exact load_after h file

theorem lastLoaded_concat (history : List (Ask × Except Failure (Nat × Settings))) (ask : Ask)
    (r : Except Failure (Nat × Settings)) :
    lastLoaded (history ++ [(ask, r)]) = match r with
      | .ok c => if ask.loads (lastLoaded history) then some c else lastLoaded history
      | .error _ => lastLoaded history := by
  rw [lastLoaded, List.foldl_append]
  rfl

/-- An ask keeps it so. -/
theorem Sound.answer {history : List (Ask × Except Failure (Nat × Settings))} {s : Session}
    (hs : Sound readers store vars history s) (h : readers.AddsUnset store vars) (ask : Ask) :
    Sound readers store vars (history ++ [(ask, (ask.answer readers store s).1)])
      (ask.answer readers store s).2 := by
  have hvars := (hs.settings_load h ask.file).2
  have hlast : ∀ r, (ask, r) ∈ history ++ [(ask, r)] :=
    fun r => List.mem_append_right _ (List.mem_singleton_self _)
  cases hloads : ask.loads s.current with
  | false =>
      -- the settings in use are shown once more
      obtain ⟨c, hc, hanswer⟩ := answer_of_not_loads hloads
      rw [hanswer]
      refine ⟨?_, fun hnone => ?_, fun d hd => ?_, ?_, hs.vars⟩
      · rw [lastLoaded_concat, ← hs.current, hloads]
        rfl
      · exact absurd (hc.symm.trans hnone) (Option.some_ne_none c)
      · obtain rfl := Option.some.inj (hc.symm.trans hd)
        exact ⟨_, hlast _, rfl⟩
      · rw [List.forall_mem_append, List.forall_mem_singleton]
        refine ⟨hs.numbered, fun d hd => ?_⟩
        obtain rfl := Except.ok.inj hd
        obtain ⟨entry, hentry, hshown⟩ := hs.inUse c hc
        exact hs.numbered entry hentry c hshown
  | true =>
      rw [answer_of_loads hloads]
      cases hl : (load store s.vars ask.file readers).settings with
      | error e =>
          rw [reload_of_error hl]
          refine ⟨?_, fun hnone => ?_, fun d hd => ?_, ?_, Or.inr hvars⟩
          · rw [lastLoaded_concat]
            exact hs.current
          · rw [List.forall_mem_append, List.forall_mem_singleton]
            exact ⟨hs.none hnone, fun c hc => by cases hc⟩
          · obtain ⟨entry, hentry, hshown⟩ := hs.inUse d hd
            exact ⟨entry, List.mem_append_left _ hentry, hshown⟩
          · rw [List.forall_mem_append, List.forall_mem_singleton]
            exact ⟨hs.numbered, fun c hc => by cases hc⟩
      | ok settings =>
          rw [reload_of_ok hl]
          refine ⟨?_, fun hnone => ?_, fun d hd => ?_, ?_, Or.inr hvars⟩
          · rw [lastLoaded_concat, ← hs.current, hloads]
            rfl
          · cases hnone
          · obtain rfl := Option.some.inj hd
            exact ⟨_, hlast _, rfl⟩
          · rw [List.forall_mem_append, List.forall_mem_singleton]
            refine ⟨fun entry hentry c hc => ?_, fun c hc => ?_⟩
            · exact Nat.lt_succ_of_lt (hs.numbered entry hentry c hc)
            · obtain rfl := Except.ok.inj hc
              exact Nat.lt_succ_self _

theorem answers_cons (readers : Readers) (store : Files.Store) (ask : Ask) (asks : List Ask)
    (s : Session) :
    (answers readers store (ask :: asks)).run s =
      let first := ask.answer readers store s
      let others := (answers readers store asks).run first.2
      (first.1 :: others.1, others.2) := by
  rw [answers, List.mapM_cons]
  rfl

/-- And so does every succession of asks. -/
theorem Sound.answers {history : List (Ask × Except Failure (Nat × Settings))} {s : Session}
    (hs : Sound readers store vars history s) (h : readers.AddsUnset store vars) (asks : List Ask) :
    Sound readers store vars (history ++ asks.zip ((Session.answers readers store asks).run s).1)
        ((Session.answers readers store asks).run s).2 ∧
      ((Session.answers readers store asks).run s).1.length = asks.length := by
  -- an ask meets the session that the ones before it have left, so the induction is on all histories
  induction asks generalizing history s with
  | nil => exact ⟨by rw [List.zip_nil_left, List.append_nil]; exact hs, rfl⟩
  | cons ask asks ih =>
      obtain ⟨hsound, hlength⟩ := ih (hs.answer h ask)
      rw [answers_cons]
      refine ⟨?_, congrArg Nat.succ hlength⟩
      rw [List.append_assoc] at hsound
      exact hsound

/-- Every answer stands with its ask. -/
theorem exists_zip_of_mem {asks : List Ask} {shown : List (Except Failure (Nat × Settings))}
    (hlength : shown.length = asks.length) {r : Except Failure (Nat × Settings)} (hr : r ∈ shown) :
    ∃ entry ∈ asks.zip shown, entry.2 = r := by
  rw [← List.map_snd_zip (Nat.le_of_eq hlength)] at hr
  exact List.mem_map.mp hr

end

/--
**The settings in use change as a whole or not at all.**

After any succession of asks the settings in use are those of the last loading that gave any. Once
there have been some, an ask that names whatever file is met by these, the very same, and does not
fail. An ask that fails leaves them, or leaves none. Settings that are loaded get a number that no
answer has shown before. And what a loading comes to, settings or failure, is what it would have come
to at the start, although the variables of the file have been added since. It takes a reader of the
file of variables that adds those that are not set; documents may be read in any way.
-/
theorem settings_in_use {readers : Readers} {store : Files.Store} {vars : Variables}
    (h : readers.AddsUnset store vars) (before : List Ask) (ask : Ask) :
    let done := (answers readers store before).run { vars := vars }
    let last := lastLoaded (before.zip done.1)
    let now := ask.answer readers store done.2
    done.1.length = before.length ∧ done.2.current = last ∧
    (∀ file, ask = .get file → (∃ c, .ok c ∈ done.1) →
      ∃ c, last = some c ∧ now.1 = .ok c ∧ now.2.current = some c) ∧
    (∀ e, now.1 = .error e → now.2.current = last) ∧
    (ask.loads last = true →
      now.1.map Prod.snd = (load store vars ask.file readers).settings ∧
      ∀ c, now.1 = .ok c → now.2.current = some c ∧ ∀ d, .ok d ∈ done.1 → d.1 ≠ c.1) := by
  intro done last now
  obtain ⟨hsound, hlength⟩ := (sound_start readers store vars).answers h before
  rw [List.nil_append] at hsound
  have hcurrent : done.2.current = last := hsound.current
  refine ⟨hlength, hcurrent, ?_, fun e he => ?_, fun hloads => ?_⟩
  · rintro file rfl ⟨c, hc⟩
    obtain ⟨entry, hentry, hshown⟩ := exists_zip_of_mem hlength hc
    obtain ⟨d, hd⟩ := Option.ne_none_iff_exists'.mp fun hnone =>
      hsound.none hnone entry hentry c hshown
    have hnot : (Ask.get file).loads done.2.current = false := by rw [hd]; rfl
    obtain ⟨d', hd', hanswer⟩ := @answer_of_not_loads readers store _ _ hnot
    obtain rfl := Option.some.inj (hd.symm.trans hd')
    exact ⟨d, hcurrent.symm.trans hd, congrArg Prod.fst hanswer,
      (congrArg (·.2.current) hanswer).trans hd⟩
  · rw [← hcurrent]
    cases hloads : ask.loads done.2.current with
    | false =>
        obtain ⟨c, -, hanswer⟩ := @answer_of_not_loads readers store _ _ hloads
        cases he.symm.trans (congrArg Prod.fst hanswer)
    | true =>
        have hnow : now = done.2.reload store ask.file readers := answer_of_loads hloads
        cases hl : (load store done.2.vars ask.file readers).settings with
        | error f => rw [hnow, reload_of_error hl]; rfl
        | ok settings => rw [hnow, reload_of_ok hl] at he; cases he
  · have hnow : now = done.2.reload store ask.file readers := answer_of_loads (hcurrent ▸ hloads)
    rw [hnow, ← (hsound.settings_load h ask.file).1]
    cases hl : (load store done.2.vars ask.file readers).settings with
    | error f =>
        rw [reload_of_error hl]
        exact ⟨rfl, fun c hc => by cases hc⟩
    | ok settings =>
        rw [reload_of_ok hl]
        refine ⟨rfl, fun c hc => ?_⟩
        obtain rfl := Except.ok.inj hc
        refine ⟨rfl, fun d hd => ?_⟩
        obtain ⟨entry, hentry, hshown⟩ := exists_zip_of_mem hlength hd
        exact Nat.ne_of_lt (hsound.numbered entry hentry d hshown)

/-- A file that is missing, one that names a variable of the file of variables, and the missing one
again. -/
theorem settings_in_use_missing :
    let readers : Readers := {}
    let store : Files.Store := ⟨[], [([".env"], .file "NAME=a\n".toUTF8.data.toList),
      (["a.yaml"], .file "parser: {name: ${NAME}}".toUTF8.data.toList)]⟩
    let asks : List Ask := [.get (some "b.yaml"), .reload (some "a.yaml")]
    let done := (answers readers store asks).run { vars := [] }
    readers.AddsUnset store [] ∧ (∃ c, .ok c ∈ done.1) ∧
      ∃ c, lastLoaded (asks.zip done.1) = some c ∧
        ((Ask.get (some "b.yaml")).answer readers store done.2).1 = .ok c := by
  intro readers store asks done
  have hadds : readers.AddsUnset store [] := by
    have hdone : (loadVariables store []).2.2 = .ok () := rfl
    refine addsUnset_loadVariables ?_
    rw [hdone]
    exact fun h => by cases h
  have hloaded : ∃ c, .ok c ∈ done.1 := by
    have hlast : done.1[1]?.any (·.isOk) = true := by decide +kernel
    obtain ⟨r, hr, hok⟩ := (Option.any_eq_true ..).mp hlast
    cases r with
    | error e => cases hok
    | ok c => exact ⟨c, List.mem_of_getElem? hr⟩
  obtain ⟨-, -, hget, -⟩ := settings_in_use hadds asks (.get (some "b.yaml"))
  obtain ⟨c, hlast, hnow, -⟩ := hget _ rfl hloaded
  exact ⟨hadds, hloaded, c, hlast, hnow⟩

end Session

end RowGuard.Settings
