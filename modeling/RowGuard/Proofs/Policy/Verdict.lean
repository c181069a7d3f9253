import RowGuard.Policy

/-!
# The verdict of a policy

Settings may hold anything, and a check of a policy may stop on a value of the wrong kind. This file
says what a policies section has to be like for that not to happen, and what the check then comes to:
`verdict`, a function of the policy, the outcome and the columns of the clause, which names the
violation if there is one.

The check is opened in `checkAgainst_eq` and the lemmas around it, and nowhere else; enforcement and
the mandatory filter are read off the verdict.
-/

namespace RowGuard

/-! ## Well-formed policies -/

/-- A policy as a file should give it: a mapping whose required columns, if it names any, are a list
of texts. -/
def Value.IsPolicy (policy : Value) : Prop :=
  ∃ fields, policy = .map fields ∧ ∀ v, find? "required_columns" fields = some v →
    v = .null ∨ ∃ names : List String, v = .list (names.map .str)

/-- A policies section as a file should give it: a mapping in which tables, if there are any, stand
by their names, each with a policy or with nothing. -/
structure Settings.WellFormed (s : Settings) : Prop where
  isMap : ∃ fields, s.policies = .map fields
  tables : ∀ tables, s.policies.field "tables" (.map []) = .ok tables → tables.truthy = true →
    ∃ entries, tables = .map entries ∧ ∀ entry ∈ entries,
      (∃ name, entry.1 = .str name) ∧ (entry.2.truthy = true → entry.2.IsPolicy)

namespace Policy

/-- Whether a policy asks for a filter. -/
def requiresFilter (policy : Value) : Bool :=
  match policy.field "require_filter" (.bool false) with
  | .ok v => v.truthy
  | .error _ => false

/-- The columns that a policy asks for. -/
def requiredColumns (policy : Value) : List String :=
  match policy.field "required_columns" (.list []) with
  | .ok (.list items) => items.filterMap fun v => match v with
    | .str s => some s
    | _ => none
  | _ => []

/-- The columns that a policy asks for and a clause does not have, in the order of the policy. -/
def absentColumns (policy : Value) (present : List String) : List String :=
  (requiredColumns policy).filter fun column => !present.contains (Text.lowered column)

/-- How an outcome violates a policy, if it does. -/
def verdict (columns : String → Except Sql.ClauseError (List String)) (policy : Value) :
    Outcome → Option Violation
  | .invalid message => some (.invalidQuery message)
  | .noMatch reason =>
    if requiresFilter policy && unfiltered reason then some .missingFilter else none
  | .clause text =>
    if requiredColumns policy = [] then none
    else match columns text with
      | .error e => some (.unreadable text e)
      | .ok present =>
        if absentColumns policy present = [] then none
        else some (.missingColumns (absentColumns policy present))
  | .unknown => none

/-! ## The check comes to the verdict -/

/-- A verdict on a table, as the check gives it. -/
def refusal (table : String) : Option Violation → Except Refusal Unit
  | none => .ok ()
  | some v => .error (.violation table v)

theorem missing_eq (present names : List String) :
    missing present (names.map .str) =
      .ok (names.filter fun column => !present.contains (Text.lowered column)) := by
  induction names with
  | nil => rfl
  | cons name names ih =>
      rw [List.map_cons, missing, ih, List.filter_cons]
      cases present.contains (Text.lowered name) with
      | true => rfl
      | false => rfl

/-- The required columns of a well-formed policy, as its field has them. -/
theorem field_requiredColumns {policy : Value} (h : policy.IsPolicy) :
    ∃ v, policy.field "required_columns" (.list []) = .ok v ∧
      (v.truthy = false ∧ requiredColumns policy = [] ∨
        v.truthy = true ∧ requiredColumns policy ≠ [] ∧
          v = .list ((requiredColumns policy).map .str)) := by
  obtain ⟨fields, rfl, hcols⟩ := h
  have hnames : ∀ names : List String, (names.map Value.str).filterMap (fun v => match v with
      | .str s => some s
      | _ => none) = names := by
    intro names
    rw [List.filterMap_map]
    exact List.filterMap_some
  refine ⟨_, rfl, ?_⟩
  unfold requiredColumns
  rw [Value.field]
  cases hv : Value.find? "required_columns" fields with
  | none => exact Or.inl ⟨rfl, rfl⟩
  | some v =>
      rcases hcols v hv with rfl | ⟨names, rfl⟩
      · exact Or.inl ⟨rfl, rfl⟩
      · dsimp only [Option.getD_some]
        rw [hnames]
        cases names with
        | nil => exact Or.inl ⟨rfl, rfl⟩
        | cons name names => exact Or.inr ⟨rfl, List.cons_ne_nil _ _, rfl⟩

theorem field_of_requiresFilter {policy : Value} (h : requiresFilter policy = true) :
    ∃ v, policy.field "require_filter" (.bool false) = .ok v := by
  rw [requiresFilter] at h
  cases hv : policy.field "require_filter" (.bool false) with
  | ok v => exact ⟨v, rfl⟩
  | error f =>
      rw [hv] at h
      exact absurd h Bool.false_ne_true

/-- What matters of a policy for a query without a filter is whether it asks for one. -/
theorem checkAgainst_noMatch {columns : String → Except Sql.ClauseError (List String)}
    {policy v : Value} (hv : policy.field "require_filter" (.bool false) = .ok v)
    (reason : Option String) (table : String) :
    checkAgainst columns policy (.noMatch reason) table =
      refusal table (verdict columns policy (.noMatch reason)) := by
  rw [checkAgainst, verdict, requiresFilter, hv]
  dsimp only [Except.mapError, bind, Except.bind]
  split
  · rfl
  · rfl

/-- A violation comes after the faults that could have come before it. -/
theorem of_mapError_bind {α β : Type} {x : Except Fault α} {f : α → Except Refusal β}
    {name : String} {v : Violation} (h : (x.mapError .fault >>= f) = .error (.violation name v)) :
    ∃ a, x = .ok a ∧ f a = .error (.violation name v) := by
  cases x with
  | ok a => exact ⟨a, rfl, h⟩
  | error e => cases h

/-- A reason that does not count as unfiltered violates no policy, whatever it holds. -/
theorem checkAgainst_ne_violation {columns : String → Except Sql.ClauseError (List String)}
    {reason : Option String} (hfiltered : unfiltered reason = false) (policy : Value)
    (table name : String) (v : Violation) :
    checkAgainst columns policy (.noMatch reason) table ≠ .error (.violation name v) := by
  intro h
  rw [checkAgainst] at h
  obtain ⟨required, -, h⟩ := of_mapError_bind h
  rw [hfiltered, Bool.and_false, if_neg Bool.false_ne_true] at h
  cases h

/-- On a well-formed policy the check comes to the verdict. -/
theorem checkAgainst_eq {columns : String → Except Sql.ClauseError (List String)}
    (hjudged : ∀ text f, columns text ≠ .error (.unjudged f)) {policy : Value}
    (hpolicy : policy.IsPolicy) (outcome : Outcome) (table : String) :
    checkAgainst columns policy outcome table = refusal table (verdict columns policy outcome) := by
  cases outcome with
  | invalid message => rfl
  | unknown => rfl
  | noMatch reason =>
      obtain ⟨fields, rfl, -⟩ := hpolicy
      exact checkAgainst_noMatch rfl reason table
  | clause text =>
      obtain ⟨v, hv, ⟨hfalse, hnil⟩ | ⟨htrue, hne, hlist⟩⟩ := field_requiredColumns hpolicy
      · rw [checkAgainst, verdict, hv, if_pos hnil]
        dsimp only [Except.mapError, bind, Except.bind]
        rw [checkColumns, hfalse]
        rfl
      · rw [checkAgainst, verdict, hv, if_neg hne]
        dsimp only [Except.mapError, bind, Except.bind]
        rw [checkColumns, htrue]
        cases hcol : columns text with
        | error e =>
            cases e with
            | unjudged f => exact absurd hcol (hjudged text f)
            | refused why => rfl
        | ok present =>
            dsimp only
            -- every required column is a text, so the comparison of columns cannot stop
            have hmiss : (requiredItems v >>= missing present) =
                .ok (absentColumns policy present) := by
              rw [hlist]
              exact missing_eq present _
            rw [if_neg (by decide), hmiss]
            cases absentColumns policy present with
            | nil => rfl
            | cons column others => rfl

end Policy

/-! ## Where the policy comes from -/

theorem Value.isPolicy_empty : (Value.map []).IsPolicy :=
  ⟨[], rfl, fun v hv => absurd hv.symm (Option.some_ne_none v)⟩

namespace Settings

/-- A table's policy has whatever all policies that are not empty have, and an empty one too. -/
theorem policyIn_of_forall {P : Value → Prop} (hempty : P (.map [])) (table : String)
    {entries : List (Value × Value)}
    (h : ∀ entry ∈ entries, (∃ name, entry.1 = .str name) ∧ (entry.2.truthy = true → P entry.2)) :
    ∃ found, policyIn (some table) entries = .ok found ∧
      ∀ policy, found = some policy → P policy := by
  induction entries with
  | nil => exact ⟨none, rfl, fun policy hp => absurd hp.symm (Option.some_ne_none policy)⟩
  | cons entry rest ih =>
      obtain ⟨key, value⟩ := entry
      obtain ⟨⟨name, hname⟩, hvalue⟩ := h (key, value) List.mem_cons_self
      dsimp only at hname hvalue
      rw [hname, policyIn]
      by_cases hsame : Text.lowered name = Text.lowered table
      · refine ⟨_, if_pos hsame, fun policy hp => Option.some.inj hp ▸ ?_⟩
        split
        · rename_i htrue
          exact hvalue htrue
        · exact hempty
      · rw [if_neg hsame]
        exact ih fun other hother => h other (List.mem_cons_of_mem _ hother)

/-- Settings whose policies stand by the names of tables find the policy of a table. -/
theorem policy?_of_forall {P : Value → Prop} (hempty : P (.map [])) {s : Settings}
    (hmap : ∃ fields, s.policies = .map fields)
    (h : ∀ tables, s.policies.field "tables" (.map []) = .ok tables → tables.truthy = true →
      ∃ entries, tables = .map entries ∧ ∀ entry ∈ entries,
        (∃ name, entry.1 = .str name) ∧ (entry.2.truthy = true → P entry.2))
    (table : String) :
    ∃ found, s.policy? (some table) = .ok found ∧ ∀ policy, found = some policy → P policy := by
  obtain ⟨fields, hfields⟩ := hmap
  have hfield : ∃ tables, s.policies.field "tables" (.map []) = .ok tables := by
    rw [hfields]
    exact ⟨_, rfl⟩
  obtain ⟨tables, htables⟩ := hfield
  rw [Settings.policy?, htables]
  dsimp only [bind, Except.bind]
  by_cases htrue : tables.truthy = true
  · obtain ⟨entries, rfl, hentries⟩ := h tables htables htrue
    rw [if_pos htrue]
    exact policyIn_of_forall hempty table hentries
  · rw [if_neg htrue]
    exact ⟨none, rfl, fun policy hp => absurd hp.symm (Option.some_ne_none policy)⟩

theorem enforced_of_map {s : Settings} (h : ∃ fields, s.policies = .map fields) :
    ∃ on, s.enforced = .ok on := by
  obtain ⟨fields, hfields⟩ := h
  rw [Settings.enforced, hfields]
  exact ⟨_, rfl⟩

/-- Well-formed settings say whether policies are enforced. -/
theorem WellFormed.enforced {s : Settings} (h : s.WellFormed) : ∃ on, s.enforced = .ok on :=
  enforced_of_map h.isMap

/-- Well-formed settings find a table's policy, and it is well formed. -/
theorem WellFormed.policy? {s : Settings} (h : s.WellFormed) (table : String) :
    ∃ found, s.policy? (some table) = .ok found ∧
      ∀ policy, found = some policy → policy.IsPolicy :=
  policy?_of_forall Value.isPolicy_empty h.isMap h.tables table

/-- Policies are enforced, and the table has this one. -/
structure Enforces (s : Settings) (table : String) (policy : Value) : Prop where
  on : s.enforced = .ok true
  found : s.policy? (some table) = .ok (some policy)

/-- The policy that well-formed settings enforce is well formed. -/
theorem WellFormed.isPolicy {s : Settings} (h : s.WellFormed) {table : String} {policy : Value}
    (he : s.Enforces table policy) : policy.IsPolicy := by
  obtain ⟨found, hfound, hpolicy⟩ := h.policy? table
  exact hpolicy policy (Except.ok.inj (hfound.symm.trans he.found))

/-- Settings that give a policy to one table. -/
def guarding (table : String) (policy : Value) : Settings where
  file := "config.yaml"
  parser := .map []
  policies := .map [(.str "tables", .map [(.str table, policy)])]
  logging := .map []

theorem guarding_wellFormed (table : String) {policy : Value} (h : policy.IsPolicy) :
    (guarding table policy).WellFormed where
  isMap := ⟨_, rfl⟩
  tables := by
    intro tables htables _
    have hfield : (guarding table policy).policies.field "tables" (.map []) =
        .ok (.map [(.str table, policy)]) := rfl
    obtain rfl := Except.ok.inj (hfield.symm.trans htables)
    refine ⟨_, rfl, fun entry hentry => ?_⟩
    obtain rfl := List.mem_singleton.mp hentry
    exact ⟨⟨table, rfl⟩, fun _ => h⟩

theorem guarding_enforces (table : String) {policy : Value} (h : policy.truthy = true) :
    (guarding table policy).Enforces table policy where
  on := rfl
  found := by
    show policyIn (some table) [(.str table, policy)] = _
    rw [policyIn, if_pos rfl, if_pos h]

end Settings

namespace Policy

variable {columns : String → Except Sql.ClauseError (List String)} {settings : Settings}
  {table : String}

/-- A policy that is enforced is what an outcome is held against. -/
theorem check_of_enforces {policy : Value} (h : settings.Enforces table policy)
    (outcome : Outcome) :
    check columns settings outcome (some table) = checkAgainst columns policy outcome table := by
  rw [check, h.on, h.found]
  rfl

/-- What a check finds violated is a policy that the settings have. -/
theorem exists_violated_policy {outcome : Outcome} {table : Option String} {name : String}
    {v : Violation} (h : check columns settings outcome table = .error (.violation name v)) :
    ∃ policy, checkAgainst columns policy outcome (table.getD "") = .error (.violation name v) := by
  rw [check] at h
  obtain ⟨on, -, h⟩ := of_mapError_bind h
  cases on with
  | false => cases h
  | true =>
      obtain ⟨found, -, h⟩ := of_mapError_bind h
      cases found with
      | none => cases h
      | some policy => exact ⟨policy, h⟩

/-- Where none is enforced, everything passes. -/
theorem check_of_not_enforces (hwf : settings.WellFormed)
    (h : ∀ policy, ¬ settings.Enforces table policy) (outcome : Outcome) :
    check columns settings outcome (some table) = .ok () := by
  obtain ⟨on, hon⟩ := hwf.enforced
  obtain ⟨found, hfound, -⟩ := hwf.policy? table
  rw [check, hon, hfound]
  cases on with
  | false => rfl
  | true =>
      cases found with
      | none => rfl
      | some policy => exact absurd ⟨hon, hfound⟩ (h policy)

end Policy

end RowGuard
