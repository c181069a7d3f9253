import RowGuard.Proofs.Policy.Enforcement

/-!
# The mandatory filter

A policy may ask that every query on its table be filtered. A query counts as one on the table when
the table is a target of the whole normalized query, groups included, and as filtered when the
letters of the keyword stand anywhere outside groups. So the rule is as complete as these two
readings are, and not more: a third table, a longer word with the keyword in it, and a group that
holds a `from` of its own each lead past it.
-/

namespace RowGuard

open Query Policy Request

/-- Outside groups the query reads the table, and no word there is the keyword. -/
def Query.ReadsUnfiltered (query name : List Char) : Prop :=
  (["from".toList, name] <:+: Text.words (outside query) ∨
    ["join".toList, name] <:+: Text.words (outside query)) ∧
  keyword ∉ Text.words (outside query)

instance (query name : List Char) : Decidable (ReadsUnfiltered query name) :=
  inferInstanceAs (Decidable (_ ∧ _))

/-- A policy that asks for a filter and for no columns. -/
def Policy.filterOnly : Value := .map [(.str "require_filter", .bool true)]

/--
**The mandatory filter is as complete as the reading of targets.**

Under a policy that asks for a filter, a query without the keyword's letters outside groups is
rejected exactly when the table is a target of the normalized query. It is one if it follows every
`from`, or every `join`, of that query. A query with these letters has a clause for the table, or is
rejected as well.
-/
theorem mandatory_filter (columns : String → Except Sql.ClauseError (List String))
    {settings : Settings} {table : String} {policy : Value} (he : settings.Enforces table policy)
    (hfilter : requiresFilter policy = true) (query : String) (threshold : Nat) (id : String)
    (s : State) :
    let n := normalize query.toList
    let name := Text.lower table.toList
    let run := (answer { columns := columns } settings threshold id (some query)
      (some table)).run.run s
    (¬ keyword <:+: outside n → ∃ reply after, run = (.ok reply, after) ∧
      (reply.success = false ↔ (targets n).Names name) ∧
      (reply.success = false → reply.label = "violation" ∧
        reply.message? = some (Message.missingFilter table))) ∧
    (Follows "from".toList name (Text.words n) ∨ Follows "join".toList name (Text.words n) →
      (targets n).Names name) ∧
    (table ≠ "" → keyword <:+: outside n →
      (∃ text, lookup (some query) (some table) = .clause text) ∨
      ∃ reply after, run = (.ok reply, after) ∧
        reply.success = false ∧ reply.label = "violation") := by
  intro n name run
  refine ⟨fun hnot => ?_, names_of_follows, fun ht hin => ?_⟩
  · obtain ⟨reason, hlookup, hunfiltered⟩ := lookup_without_keyword hnot table
    -- the policy need not be well formed: its columns are not looked at
    have hcheck : checkAgainst columns policy (lookup (some query) (some table)) table =
        refusal table (verdict columns policy (lookup (some query) (some table))) := by
      obtain ⟨v, hv⟩ := field_of_requiresFilter hfilter
      rw [hlookup]
      exact checkAgainst_noMatch hv reason table
    obtain ⟨reply, after, hrun, houtcome, hpasses, -, hfailed⟩ :=
      answer_of_enforces he hcheck threshold id s
    rw [houtcome, hlookup] at hpasses hfailed
    refine ⟨reply, after, hrun, ?_, hfailed⟩
    rw [← Bool.not_eq_true, hpasses, Passes, ← unfiltered_iff, hunfiltered, not_not]
    exact and_iff_right hfilter
  · rcases lookup_with_keyword ht hin with hclause | ⟨message, hlookup⟩
    · exact Or.inl hclause
    · have hcheck : checkAgainst columns policy (lookup (some query) (some table)) table =
          refusal table (verdict columns policy (lookup (some query) (some table))) := by
        rw [hlookup]
        rfl
      obtain ⟨reply, after, hrun, houtcome, hpasses, -, hfailed⟩ :=
        answer_of_enforces he hcheck threshold id s
      rw [houtcome, hlookup] at hpasses
      have hnot : reply.success = false := by
        rw [← Bool.not_eq_true, hpasses]
        exact not_false
      exact Or.inr ⟨reply, after, hrun, hnot, (hfailed hnot).1⟩

/-- A joined table, and a longer word with the keyword in it. -/
theorem mandatory_filter_join :
    (∃ reply after, (answer {} (Settings.guarding "T" filterOnly) 0 "1"
      (some "select f(where) from a join t on (a=b)") (some "T")).run.run {} = (.ok reply, after) ∧
      reply.success = false ∧ reply.message? = some (Message.missingFilter "T")) ∧
    ∃ reply after, (answer {} (Settings.guarding "T" filterOnly) 0 "1"
      (some "select somewhere from a") (some "T")).run.run {} = (.ok reply, after) ∧
      reply.success = false ∧ reply.label = "violation" := by
  have he := Settings.guarding_enforces "T" (show filterOnly.truthy = true from rfl)
  refine ⟨?_, ?_⟩
  · obtain ⟨hrejected, hnames, -⟩ := mandatory_filter Sql.filterColumns he rfl
      "select f(where) from a join t on (a=b)" 0 "1" {}
    obtain ⟨reply, after, hrun, hiff, hmessage⟩ := hrejected (by decide)
    have hfailed := hiff.mpr (hnames (Or.inr (by decide)))
    exact ⟨reply, after, hrun, hfailed, (hmessage hfailed).2⟩
  · have hlookup : ∀ text, lookup (some "select somewhere from a") (some "T") ≠ .clause text := by
      have hinvalid : (lookup (some "select somewhere from a") (some "T")).label = "invalid" := by
        decide +kernel
      intro text hclause
      rw [hclause] at hinvalid
      exact absurd hinvalid (show "clause" ≠ "invalid" by decide)
    obtain ⟨-, -, hpartial⟩ := mandatory_filter Sql.filterColumns he rfl
      "select somewhere from a" 0 "1" {}
    refine (hpartial (by decide) (by decide)).resolve_left ?_
    rintro ⟨text, hclause⟩
    exact hlookup text hclause

/-- What leads past the rule: a third table, a longer word with the keyword in it, and a group that
reads a table of its own. -/
theorem mandatory_filter_evaded :
    (Settings.guarding "c" filterOnly).Enforces "c" filterOnly ∧
    requiresFilter filterOnly = true ∧
    ∀ query ∈ ["select * from a join b join c", "select somewhere from c",
        "select (select x from a) from c"],
      ReadsUnfiltered (normalize query.toList) (Text.lower "c".toList) ∧
      ∃ reply after, (answer {} (Settings.guarding "c" filterOnly) 0 "1" (some query)
        (some "c")).run.run {} = (.ok reply, after) ∧ reply.success = true := by
  have he := Settings.guarding_enforces "c" (show filterOnly.truthy = true from rfl)
  refine ⟨he, rfl, fun query hquery => ⟨?_, ?_⟩⟩
  · revert query
    decide +kernel
  · have hpasses : ∀ query ∈ ["select * from a join b join c", "select somewhere from c",
        "select (select x from a) from c"],
        checkAgainst Sql.filterColumns filterOnly (lookup (some query) (some "c")) "c" = .ok () ∧
        verdict Sql.filterColumns filterOnly (lookup (some query) (some "c")) = none := by
      decide +kernel
    obtain ⟨hcheck, hverdict⟩ := hpasses query hquery
    obtain ⟨reply, after, hrun, houtcome, hobeys⟩ :=
      answer_of_enforces he (hcheck.trans (by rw [hverdict]; rfl)) 0 "1" {}
    rw [← houtcome] at hverdict
    exact ⟨reply, after, hrun, hobeys.success_iff.mpr (verdict_eq_none.mp hverdict)⟩

end RowGuard
