import RowGuard.Proofs.Lookup.Unfiltered
import RowGuard.Proofs.Policy.Verdict
import RowGuard.Proofs.Request.Answer

/-!
# Enforcement decides as the policy says

Every request on well-formed settings is answered, and with enforcement and a policy for the table
it succeeds exactly when the outcome of its lookup passes the policy. What does not pass is a
violation, with the message that goes with the way it fails; without enforcement or a policy only an
outcome that is a refusal already is refused.

The columns of a clause are those of an arbitrary function, which may refuse a clause with any text,
and that text is what the user is told. It only does not leave a clause unjudged.
-/

namespace RowGuard

namespace Policy

/-- What a policy lets through. -/
def Passes (columns : String → Except Sql.ClauseError (List String)) (policy : Value) :
    Outcome → Prop
  | .clause text => requiredColumns policy = [] ∨ ∃ present, columns text = .ok present ∧
      ∀ column ∈ requiredColumns policy, Text.lowered column ∈ present
  | .noMatch reason => ¬ (requiresFilter policy = true ∧
      (reason = some Outcome.noWhere ∨ reason = some Outcome.noTopLevelWhere))
  | .invalid _ => False
  | .unknown => True

/-- What the user is told about an outcome that a policy does not let through. -/
def complaint (columns : String → Except Sql.ClauseError (List String)) (policy : Value)
    (table : String) : Outcome → Option String
  | .invalid message => some message
  | .noMatch _ => some (Message.missingFilter table)
  | .clause text =>
    match columns text with
    | .error e => some (Message.unreadableClause text e.message)
    | .ok present => some (Message.missingColumns table (absentColumns policy present))
  | .unknown => none

theorem absentColumns_eq_nil {policy : Value} {present : List String} :
    absentColumns policy present = [] ↔
      ∀ column ∈ requiredColumns policy, Text.lowered column ∈ present := by
  rw [absentColumns, List.filter_eq_nil_iff]
  refine forall₂_congr fun column _ => ?_
  rw [Bool.not_eq_true', Bool.not_eq_false, List.contains_iff_mem]

/-- An outcome passes when the verdict names no violation. -/
theorem verdict_eq_none {columns : String → Except Sql.ClauseError (List String)} {policy : Value}
    {outcome : Outcome} :
    verdict columns policy outcome = none ↔ Passes columns policy outcome := by
  cases outcome with
  | invalid message => exact ⟨fun h => absurd h (Option.some_ne_none _), fun h => h.elim⟩
  | unknown => exact ⟨fun _ => trivial, fun _ => rfl⟩
  | noMatch reason =>
      rw [verdict, Passes, ← unfiltered_iff, ← Bool.and_eq_true]
      split
      · rename_i htrue
        exact ⟨fun h => absurd h (Option.some_ne_none _), fun h => absurd htrue h⟩
      · rename_i hfalse
        exact ⟨fun _ => hfalse, fun _ => rfl⟩
  | clause text =>
      rw [verdict, Passes]
      by_cases hnil : requiredColumns policy = []
      · rw [if_pos hnil]
        exact ⟨fun _ => Or.inl hnil, fun _ => rfl⟩
      · rw [if_neg hnil]
        cases hcol : columns text with
        | error e =>
            -- with columns to look for, a clause that cannot be read never passes
            refine ⟨fun h => absurd h (Option.some_ne_none _), fun h => ?_⟩
            obtain ⟨present, hok, -⟩ := h.resolve_left hnil
            exact absurd hok (by simp)
        | ok present =>
            dsimp only
            by_cases habsent : absentColumns policy present = []
            · rw [if_pos habsent]
              exact ⟨fun _ => Or.inr ⟨present, rfl, absentColumns_eq_nil.mp habsent⟩, fun _ => rfl⟩
            · rw [if_neg habsent]
              refine ⟨fun h => absurd h (Option.some_ne_none _), fun h => ?_⟩
              obtain ⟨found, hok, hall⟩ := h.resolve_left hnil
              obtain rfl := Except.ok.inj hok
              exact absurd (absentColumns_eq_nil.mpr hall) habsent

/-- The violation that the verdict names is worded as the complaint. -/
theorem message_of_verdict {columns : String → Except Sql.ClauseError (List String)}
    {policy : Value} {outcome : Outcome} {v : Violation} (table : String)
    (h : verdict columns policy outcome = some v) :
    some (v.message table) = complaint columns policy table outcome := by
  cases outcome with
  | invalid message =>
      obtain rfl := Option.some.inj h
      rfl
  | unknown => exact absurd h.symm (Option.some_ne_none v)
  | noMatch reason =>
      rw [verdict] at h
      split at h
      · obtain rfl := Option.some.inj h
        rfl
      · exact absurd h.symm (Option.some_ne_none v)
  | clause text =>
      rw [verdict] at h
      rw [complaint]
      split at h
      · exact absurd h.symm (Option.some_ne_none v)
      · cases hcol : columns text with
        | error e =>
            rw [hcol] at h
            obtain rfl := Option.some.inj h
            rfl
        | ok present =>
            rw [hcol] at h
            dsimp only at h
            split at h
            · exact absurd h.symm (Option.some_ne_none v)
            · obtain rfl := Option.some.inj h
              rfl

/-- A query that is missing violates no policy. -/
theorem isSome_of_verdict {columns : String → Except Sql.ClauseError (List String)} {policy : Value}
    {query table : Option String} {v : Violation}
    (h : verdict columns policy (lookup query table) = some v) : query.isSome = true := by
  cases query with
  | some q => rfl
  | none =>
      have hnone : verdict columns policy (.noMatch (some Outcome.emptyInput)) = none := by
        rw [verdict_eq_none]
        rintro ⟨-, hwhere | htop⟩
        · exact absurd hwhere (by decide)
        · exact absurd htop (by decide)
      rw [lookup_of_missing (Or.inl rfl), hnone] at h
      exact absurd h.symm (Option.some_ne_none v)

end Policy

open Policy

namespace Request

section

variable {columns : String → Except Sql.ClauseError (List String)} {settings : Settings}
  {table : String}

/-- A reply without a violation refuses what is invalid and nothing else. -/
theorem Reply.success_of_none (outcome : Outcome) :
    (Reply.mk outcome none).success = true ↔ ∀ message, outcome ≠ .invalid message := by
  cases outcome with
  | invalid message => exact ⟨fun h => absurd h Bool.false_ne_true, fun h => absurd rfl (h message)⟩
  | clause text => exact ⟨fun _ message => Outcome.noConfusion, fun _ => rfl⟩
  | noMatch reason => exact ⟨fun _ message => Outcome.noConfusion, fun _ => rfl⟩
  | unknown => exact ⟨fun _ message => Outcome.noConfusion, fun _ => rfl⟩

/-- A reply that goes by a policy is a success when its outcome passes, and a violation with the
complaint about its outcome when it does not. -/
structure Reply.Obeys (columns : String → Except Sql.ClauseError (List String)) (policy : Value)
    (table : String) (reply : Reply) : Prop where
  success_iff : reply.success = true ↔ Passes columns policy reply.outcome
  passed : reply.success = true → reply.label = reply.outcome.label ∧ reply.message? = none
  failed : reply.success = false →
    reply.label = "violation" ∧ reply.message? = complaint columns policy table reply.outcome

/-- The verdict makes a reply go by the policy. -/
theorem Reply.obeys_of_verdict (policy : Value) (table : String) (outcome : Outcome) :
    Reply.Obeys columns policy table
      ⟨outcome, (verdict columns policy outcome).map fun v => (table, v)⟩ := by
  cases hv : verdict columns policy outcome with
  | some v =>
      have hfails : ¬ Passes columns policy outcome := fun hpasses =>
        absurd ((verdict_eq_none.mpr hpasses).symm.trans hv).symm (Option.some_ne_none v)
      exact {
        success_iff := ⟨fun h => absurd h Bool.false_ne_true, fun h => absurd h hfails⟩
        passed := fun h => absurd h Bool.false_ne_true
        failed := fun _ => ⟨rfl, message_of_verdict table hv⟩ }
  | none =>
      have hpasses := verdict_eq_none.mp hv
      have hvalid : ∀ message, outcome ≠ .invalid message := by
        rintro message rfl
        exact hpasses
      have hsuccess := (Reply.success_of_none outcome).mpr hvalid
      refine ⟨⟨fun _ => hpasses, fun _ => hsuccess⟩, fun _ => ⟨rfl, ?_⟩,
        fun h => absurd (h.symm.trans hsuccess) Bool.false_ne_true⟩
      cases outcome with
      | invalid message => exact absurd rfl (hvalid message)
      | clause text => rfl
      | noMatch reason => rfl
      | unknown => rfl

/-- Under a policy the answer is the outcome of the lookup, with the verdict on it. -/
theorem answer_of_enforces {query : Option String} {policy : Value}
    (he : settings.Enforces table policy)
    (hcheck : checkAgainst columns policy (lookup query (some table)) table =
      refusal table (verdict columns policy (lookup query (some table))))
    (threshold : Nat) (id : String) (s : State) :
    ∃ reply after,
      (answer { columns := columns } settings threshold id query (some table)).run.run s =
        (.ok reply, after) ∧
      reply.outcome = lookup query (some table) ∧ reply.Obeys columns policy table := by
  have htrace : trace query (some table) =
      (lookup query (some table), (trace query (some table)).2) := rfl
  have hverdict := (check_of_enforces he (lookup query (some table))).trans hcheck
  have hobeys : Reply.Obeys columns policy table ⟨lookup query (some table), _⟩ :=
    Reply.obeys_of_verdict policy table _
  cases hv : verdict columns policy (lookup query (some table)) with
  | none =>
      rw [hv] at hverdict hobeys
      exact ⟨_, _, answer_of_ok htrace (fun e he => Event.worded_of_lookup he) hverdict threshold s,
        rfl, hobeys⟩
  | some v =>
      rw [hv] at hverdict hobeys
      exact ⟨_, _, answer_of_violation htrace (fun e he => Event.worded_of_lookup he) hverdict
        (isSome_of_verdict hv) threshold s, rfl, hobeys⟩

/-- The answer without one is the outcome of the lookup. -/
theorem answer_of_not_enforces (columns : String → Except Sql.ClauseError (List String))
    (hwf : settings.WellFormed) (h : ∀ policy, ¬ settings.Enforces table policy)
    (query : Option String) (threshold : Nat) (id : String) (s : State) :
    ∃ after, (answer { columns := columns } settings threshold id query (some table)).run.run s =
      (.ok ⟨lookup query (some table), none⟩, after) := by
  have htrace : trace query (some table) =
      (lookup query (some table), (trace query (some table)).2) := rfl
  exact ⟨_, answer_of_ok htrace (fun e he => Event.worded_of_lookup he)
    (check_of_not_enforces hwf h _) threshold s⟩

/--
**Enforcement decides as the policy says.**

On well-formed settings every request is answered, with the outcome of its lookup. Under a policy it
succeeds exactly when that outcome passes, and is a violation with the complaint that goes with the
outcome when it does not. Without one it is refused exactly when the outcome is a refusal.
-/
theorem answer_decided (hjudged : ∀ text f, columns text ≠ .error (.unjudged f))
    (hwf : settings.WellFormed) (query : Option String) (table : String) (threshold : Nat)
    (id : String) (s : State) :
    ∃ reply after,
      (answer { columns := columns } settings threshold id query (some table)).run.run s =
        (.ok reply, after) ∧
      reply.outcome = lookup query (some table) ∧
      (∀ policy, settings.Enforces table policy → reply.Obeys columns policy table) ∧
      ((∀ policy, ¬ settings.Enforces table policy) →
        (reply.success = true ↔ ∀ message, reply.outcome ≠ .invalid message) ∧
        reply.label = reply.outcome.label ∧
        ∀ message, reply.outcome = .invalid message → reply.message? = some message) := by
  by_cases henforced : ∃ policy, settings.Enforces table policy
  · obtain ⟨policy, he⟩ := henforced
    -- the settings are well formed, so what they enforce is, and its check comes to the verdict
    have hcheck := checkAgainst_eq hjudged (hwf.isPolicy he) (lookup query (some table)) table
    obtain ⟨reply, after, hrun, hlookup, hobeys⟩ := answer_of_enforces he hcheck threshold id s
    refine ⟨reply, after, hrun, hlookup, fun other hother => ?_,
      fun hnone => absurd he (hnone policy)⟩
    obtain rfl := Option.some.inj (Except.ok.inj (hother.found.symm.trans he.found))
    exact hobeys
  · rw [not_exists] at henforced
    obtain ⟨after, hrun⟩ := answer_of_not_enforces columns hwf henforced query threshold id s
    refine ⟨_, after, hrun, rfl, fun policy he => absurd he (henforced policy), fun _ => ?_⟩
    refine ⟨Reply.success_of_none _, rfl, fun message hmessage => ?_⟩
    show Reply.message? ⟨lookup query (some table), none⟩ = some message
    rw [show lookup query (some table) = .invalid message from hmessage]
    rfl

/-- A clause that does not refer to a required column is a violation, and is told so; a clause whose
columns are refused is one too, with the text of the refusal. -/
theorem answer_decided_missing_column :
    let columns : String → Except Sql.ClauseError (List String) := fun text =>
      if text = "where b=1" then .ok ["b"] else .error (.refused "Expecting )")
    let settings := Settings.guarding "t"
      (.map [(.str "required_columns", .list [.str "a", .str "B"])])
    (∃ reply after,
      (answer { columns := columns } settings 0 "1" (some "select * from t where b=1")
        (some "t")).run.run {} = (.ok reply, after) ∧
      reply.success = false ∧ reply.message? = some (Message.missingColumns "t" ["a"])) ∧
    ∃ reply after,
      (answer { columns := columns } settings 0 "1" (some "select * from t where (b=1")
        (some "t")).run.run {} = (.ok reply, after) ∧
      reply.success = false ∧
      reply.message? = some (Message.unreadableClause "where (b=1" "Expecting )") := by
  intro columns settings
  let policy : Value := .map [(.str "required_columns", .list [.str "a", .str "B"])]
  have hpolicy : policy.IsPolicy := by
    refine ⟨_, rfl, fun v hv => Or.inr ⟨["a", "B"], ?_⟩⟩
    exact (Option.some.inj hv).symm
  have hjudged : ∀ text f, columns text ≠ .error (.unjudged f) := by
    intro text f h
    dsimp only [columns] at h
    split at h <;> cases h
  have htold : ∀ query clause, lookup (some query) (some "t") = .clause clause →
      ¬ Passes columns policy (.clause clause) →
      ∃ reply after, (answer { columns := columns } settings 0 "1" (some query)
          (some "t")).run.run {} = (.ok reply, after) ∧
        reply.success = false ∧
        reply.message? = complaint columns policy "t" (.clause clause) := by
    intro query clause hclause hnot
    obtain ⟨reply, after, hrun, hlookup, hunder, -⟩ := answer_decided hjudged
      (Settings.guarding_wellFormed "t" hpolicy) (some query) "t" 0 "1" {}
    obtain ⟨hpasses, -, hfails⟩ := hunder _ (Settings.guarding_enforces "t" rfl)
    rw [hlookup, hclause] at hpasses hfails
    have hsuccess : reply.success = false := by
      rw [← Bool.not_eq_true, hpasses]
      exact hnot
    exact ⟨reply, after, hrun, hsuccess, (hfails hsuccess).2⟩
  refine ⟨htold _ "where b=1" (by decide +kernel) ?_,
    htold _ "where (b=1" (by decide +kernel) ?_⟩
  · rintro (hnone | ⟨present, hpresent, hall⟩)
    · exact absurd hnone (by decide)
    · obtain rfl := Except.ok.inj hpresent
      exact absurd (hall "a" (by decide)) (by decide)
  · rintro (hnone | ⟨present, hpresent, -⟩)
    · exact absurd hnone (by decide)
    · cases hpresent

end

end Request

end RowGuard
