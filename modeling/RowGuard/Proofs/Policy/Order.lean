import Mathlib.Data.List.Find
import Mathlib.Data.List.Nodup
import RowGuard.Policy

/-!
# The order of the tables

A table's policy is that of the first entry with its name, letter case aside, and an entry that gives
nothing still gives a policy, the empty one. So where two names differ in letter case alone the order
of the entries decides, and nowhere else does it matter: a lookup by name finds the same policy in any
order, and the check of an outcome asks the settings nothing besides.
-/

namespace RowGuard

namespace Settings

/-- Tables by their names, as a mapping has them. -/
def byName (entries : List (String × Value)) : List (Value × Value) :=
  entries.map fun entry => (.str entry.1, entry.2)

/-- The settings hold these tables by their names, in this order, each with its policy. -/
def Lists (s : Settings) (entries : List (String × Value)) : Prop :=
  s.policies.field "tables" (.map []) = .ok (.map (byName entries))

/-- The policy that an entry gives. One that is empty is an empty mapping. -/
def given (policy : Value) : Value := if policy.truthy then policy else .map []

/-! ## The first entry -/

/-- The first entry with the name of the table, letter case aside. -/
def named? (table : String) (entries : List (String × Value)) : Option (String × Value) :=
  entries.find? fun entry => Text.lowered entry.1 = Text.lowered table

theorem policyIn_byName (table : String) (entries : List (String × Value)) :
    policyIn (some table) (byName entries) =
      .ok ((named? table entries).map fun entry => given entry.2) := by
  induction entries with
  | nil => rfl
  | cons entry rest ih =>
      rw [byName, List.map_cons, policyIn, named?, List.find?_cons]
      by_cases h : Text.lowered entry.1 = Text.lowered table
      · rw [if_pos h, decide_eq_true h]
        rfl
      · rw [if_neg h, decide_eq_false h]
        exact ih

/-- The settings find the policy of that entry. -/
theorem Lists.policy?_eq {s : Settings} {entries : List (String × Value)} (h : s.Lists entries)
    (table : String) : s.policy? (some table) =
      .ok ((named? table entries).map fun entry => given entry.2) := by
  have htables : s.policies.field "tables" (.map []) = .ok (.map (byName entries)) := h
  rw [policy?, htables]
  cases entries with
  | nil => rfl
  | cons entry rest => exact policyIn_byName table (entry :: rest)

/-! ## The order -/

/-- Tables whose names differ in more than letter case are found in any order. -/
theorem policy?_eq_of_perm {s s' : Settings} {entries entries' : List (String × Value)}
    (h : s.Lists entries) (h' : s'.Lists entries') (hperm : entries.Perm entries')
    (hnames : (entries.map fun entry => Text.lowered entry.1).Nodup) (table : String) :
    s.policy? (some table) = s'.policy? (some table) := by
  -- where no two names are the same, the entry that is found is the only one with its name
  have hunique :
      {e ∈ entries | decide (Text.lowered e.1 = Text.lowered table) = true}.Subsingleton := by
    rintro a ⟨ha, hname⟩ b ⟨hb, hname'⟩
    rw [decide_eq_true_eq] at hname hname'
    exact List.inj_on_of_nodup_map hnames ha hb (hname.trans hname'.symm)
  rw [h.policy?_eq, h'.policy?_eq, named?, named?, List.find?_eq_find?_of_perm hperm hunique]

end Settings

/-- A check asks the settings whether policies are enforced and for the policy of the table. -/
theorem Policy.check_eq_of_settings {s s' : Settings} (henforced : s.enforced = s'.enforced)
    {table : Option String} (hpolicy : s.policy? table = s'.policy? table)
    (columns : String → Except Sql.ClauseError (List String)) (outcome : Outcome) :
    check columns s outcome table = check columns s' outcome table := by
  rw [check, check, henforced, hpolicy]

open Settings in
/--
**A table has the policy of the first entry with its name.**

Settings that hold their tables by name find the policy of the first entry whose name is the table's,
letter case aside, the empty mapping where it gives nothing, and none exactly if no name is. If no two
of the names are the same but for letter case, the entries in any other order lead to the same policy
for every table, and in settings that enforce policies alike to the same verdict on every outcome.
-/
theorem policy_by_name {s : Settings} {entries : List (String × Value)} (h : s.Lists entries) :
    (∀ table before name policy after, entries = before ++ (name, policy) :: after →
      Text.lowered name = Text.lowered table →
      (∀ entry ∈ before, Text.lowered entry.1 ≠ Text.lowered table) →
      s.policy? (some table) = .ok (some (if policy.truthy then policy else .map []))) ∧
    (∀ table, s.policy? (some table) = .ok none ↔
      ∀ entry ∈ entries, Text.lowered entry.1 ≠ Text.lowered table) ∧
    ((entries.map fun entry => Text.lowered entry.1).Nodup →
      ∀ (s' : Settings) (entries' : List (String × Value)), s'.Lists entries' →
        entries.Perm entries' →
        (∀ table, s.policy? (some table) = s'.policy? (some table)) ∧
        (s.enforced = s'.enforced → ∀ columns outcome table,
          Policy.check columns s outcome (some table) =
            Policy.check columns s' outcome (some table))) := by
  refine ⟨?_, fun table => ?_, fun hnames s' entries' h' hperm => ?_⟩
  · rintro table before name policy after rfl hname hbefore
    have hfirst : named? table (before ++ (name, policy) :: after) = some (name, policy) := by
      rw [named?, List.find?_eq_some_iff_append]
      refine ⟨decide_eq_true hname, before, after, rfl, fun entry hentry => ?_⟩
      rw [Bool.not_eq_true', decide_eq_false_iff_not]
      exact hbefore entry hentry
    rw [h.policy?_eq, hfirst]
    rfl
  · rw [h.policy?_eq, Except.ok.injEq, Option.map_eq_none_iff, named?, List.find?_eq_none]
    simp only [decide_eq_true_eq]
  · have hsame := policy?_eq_of_perm h h' hperm hnames
    exact ⟨hsame, fun henforced columns outcome table =>
      Policy.check_eq_of_settings henforced (hsame table) columns outcome⟩

/-- Settings that hold these tables and say nothing else. -/
def Settings.holding (entries : List (String × Value)) : Settings where
  file := "config.yaml"
  parser := .map []
  policies := .map [(.str "tables", .map (byName entries))]
  logging := .map []

/-- Two tables, one of which is given nothing, in either order; and two names that are the same but
for letter case, of which the first decides. -/
theorem policy_by_name_reordered :
    let strict : Value := .map [(.str "require_filter", .bool true)]
    let settings := Settings.holding [("Sales.Orders", strict), ("t", .null)]
    let reordered := Settings.holding [("t", .null), ("Sales.Orders", strict)]
    settings.policy? (some "sales.ORDERS") = .ok (some strict) ∧
    settings.policy? (some "T") = .ok (some (.map [])) ∧
    settings.policy? (some "orders") = .ok none ∧
    (∀ columns outcome table, Policy.check columns settings outcome (some table) =
      Policy.check columns reordered outcome (some table)) ∧
    (Settings.holding [("T", strict), ("t", .null)]).policy? (some "t") = .ok (some strict) ∧
    (Settings.holding [("t", .null), ("T", strict)]).policy? (some "t") = .ok (some (.map [])) := by
  intro strict settings reordered
  have hlists : ∀ entries, (Settings.holding entries).Lists entries := fun _ => rfl
  obtain ⟨hfirst, hnone, hperm⟩ := policy_by_name (hlists [("Sales.Orders", strict), ("t", .null)])
  refine ⟨?_, ?_, (hnone "orders").mpr (by decide +kernel), ?_, ?_, ?_⟩
  · exact hfirst _ [] "Sales.Orders" strict _ rfl (by decide +kernel) (by simp)
  · exact hfirst _ [("Sales.Orders", strict)] "t" .null _ rfl (by decide +kernel)
      (by decide +kernel)
  · exact (hperm (by decide +kernel) _ _ (hlists _) (List.Perm.swap _ _ _)).2 rfl
  · exact (policy_by_name (hlists _)).1 _ [] "T" strict _ rfl (by decide +kernel) (by simp)
  · exact (policy_by_name (hlists _)).1 _ [] "t" .null _ rfl (by decide +kernel) (by simp)

end RowGuard
