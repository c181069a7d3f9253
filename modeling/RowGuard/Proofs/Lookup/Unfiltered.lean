import RowGuard.Policy
import RowGuard.Proofs.Lookup.Body

/-!
# Queries without a filter

A query without the keyword outside groups counts as unfiltered when it reads the table, and that is
told by the targets of the whole query, groups included. The same query with a filter put after it is
told by the targets of its fragment, from which the groups are gone. The two agree where the groups
take part in no naming: a `from` inside a group, a word that a group touches and a `join` that stands
in one are what they can differ by.
-/

namespace RowGuard

open Query Policy

theorem Policy.unfiltered_iff {reason : Option String} : unfiltered reason = true ↔
    reason = some Outcome.noWhere ∨ reason = some Outcome.noTopLevelWhere := by
  rw [unfiltered, Bool.or_eq_true, decide_eq_true_eq, decide_eq_true_eq]

/-- Without the keyword outside groups nothing is found, and the query counts as unfiltered exactly
when it names the table. -/
theorem lookup_without_keyword {query : String}
    (h : ¬ keyword <:+: outside (normalize query.toList)) (table : String) :
    ∃ reason, lookup (some query) (some table) = .noMatch reason ∧
      (unfiltered reason = true ↔
        (targets (normalize query.toList)).Names (Text.lower table.toList)) := by
  have hmissing : unfiltered (some Outcome.emptyInput) = false := by decide
  by_cases hq : query = ""
  · subst hq
    refine ⟨_, lookup_of_missing (Or.inl rfl), ?_⟩
    rw [hmissing]
    exact ⟨fun h => absurd h Bool.false_ne_true,
      fun hnames => absurd (mem_words_of_names hnames) List.not_mem_nil⟩
  by_cases ht : table = ""
  · subst ht
    refine ⟨_, lookup_of_missing (Or.inr rfl), ?_⟩
    rw [hmissing]
    exact ⟨fun h => absurd h Bool.false_ne_true,
      fun hnames => absurd hnames (not_names_nil _)⟩
  rw [lookup_of_ne hq ht, lookupIn_without_keyword h (lower_normalize query.toList)]
  refine ⟨_, rfl, ?_⟩
  by_cases hnames : (targets (normalize query.toList)).Names (Text.lower table.toList)
  · rw [if_pos hnames]
    refine ⟨fun _ => hnames, fun _ => ?_⟩
    split
    · rfl
    · rfl
  · rw [if_neg hnames]
    exact ⟨fun h => absurd h (by decide), fun h => absurd h hnames⟩

/-- With the keyword there, a clause is found or the query is refused. -/
theorem lookup_with_keyword {query table : String} (ht : table ≠ "")
    (h : keyword <:+: outside (normalize query.toList)) :
    (∃ text, lookup (some query) (some table) = .clause text) ∨
      ∃ message, lookup (some query) (some table) = .invalid message := by
  have hq : query ≠ "" := by
    rintro rfl
    exact absurd h (by decide)
  obtain ⟨pre, c, post, hn, hc⟩ := exists_completes h
  have hsub := outside_append_subset pre (c :: post)
  rw [← hn] at hsub
  rw [lookup_of_ne hq ht, hn, lookupIn_of_completes hc (lower_of_subset_normalize hsub)]
  split
  · exact Or.inl ⟨_, rfl⟩
  · exact Or.inr ⟨_, rfl⟩

/-! ## With a filter and without -/

/-- A query whose groups are closed and that has no keyword outside them ends in one once it is put
there. -/
theorem Query.endsInKeyword_where {query : List Char} (hclosed : Closed query)
    (hkey : ¬ keyword <:+: outside (Text.lower query)) :
    EndsInKeyword (query ++ " where".toList) := by
  have hapart : Text.Apart " where".toList := by decide
  have hplain : outside " wher".toList = " wher".toList := by decide
  have hlow : Closed (Text.lower query) := closed_lower.mpr hclosed
  have hout : outside (Text.lower query ++ " wher".toList) =
      outside (Text.lower query) ++ ' ' :: "wher".toList := by
    rw [outside_append hlow, hplain]
    rfl
  refine ⟨Text.lower query ++ " wher".toList, 'e', ?_, ?_⟩
  · rw [hapart.lower_append, List.append_assoc]
    rfl
  · refine ⟨?_, by decide, ?_, ?_⟩
    · rw [Closed, depthFrom_append, show depthFrom 0 (Text.lower query) = 0 from hlow]
      decide
    · rw [hout, Text.infix_append_cons (by decide), not_or]
      exact ⟨hkey, by decide⟩
    · rw [hout, List.append_assoc]
      exact (show keyword <:+ ' ' :: "wher".toList ++ ['e'] by decide).trans
        (List.suffix_append _ _)

/-- The fragment of a query with a filter put after it. -/
def Query.filteredFragment (query : List Char) : List Char :=
  outside query ++ " where x=1".toList

/-- Put after such a query, a filter is found if the table is a target of the fragment. -/
theorem lookup_filtered {q t : String} (hhead : q.toList.head? ≠ some '(')
    (hkey : ¬ keyword <:+: outside (Text.lower q.toList)) (hclosed : Closed q.toList)
    (ht : t ≠ "") :
    lookup (some (q ++ " where x=1")) (some t) =
      if (targets (filteredFragment (Text.lower q.toList))).Names (Text.lower t.toList)
      then .clause "where x=1"
      else .invalid (unattributed (filteredFragment (Text.lower q.toList)) t) := by
  -- the keyword is the end of a head, so that what is known of bodies applies to the rest
  have hsplit : q ++ " where x=1" = q ++ " where" ++ " x=1" := by
    rw [String.append_assoc]
    rfl
  have hchars : (q ++ " where").toList = q.toList ++ " where".toList := String.toList_append
  have hhead' : (q ++ " where").toList.head? ≠ some '(' := by
    rw [hchars]
    cases hq : q.toList with
    | nil => decide
    | cons c rest =>
        rw [hq] at hhead
        exact hhead
  have hends : EndsInKeyword (q ++ " where").toList := by
    rw [hchars]
    exact endsInKeyword_where hclosed hkey
  have hout : outside (Text.lower (q ++ " where").toList) ++ Text.lower " x=1".toList =
      filteredFragment (Text.lower q.toList) := by
    have hplain : outside (Text.lower " where".toList) = " where".toList := by decide
    have hsmall : Text.lower " x=1".toList = " x=1".toList := by decide
    have hapart : Text.Apart " where".toList := by decide
    rw [hchars, hapart.lower_append, outside_append (closed_lower.mpr hclosed), hplain, hsmall,
      List.append_assoc]
    rfl
  rw [hsplit, lookup_body hhead' hends (by decide) ht, hout]
  rfl

/-- A query without groups names the same with a filter as without. -/
theorem Query.sameNamings_of_no_group {query : List Char} (hgroup : '(' ∉ query)
    (hfree : EndsFree (Text.words query)) : SameNamings (filteredFragment query) query := by
  have hapart : Text.Apart " where x=1".toList := by decide
  have hnone : namings (Text.words " where x=1".toList) = [] := by decide
  have hjoin : mentionsJoin " where x=1".toList = false := by decide
  -- the filter comes after the last word and names nothing, so it adds no naming
  rw [filteredFragment, outside_eq_self hgroup]
  refine ⟨?_, Or.inl ?_⟩
  · rw [Text.words_append hapart, namings_append hfree, hnone, List.append_nil]
  · rw [mentionsJoin_append hapart, hjoin, Bool.or_false]

/--
**Where the two readings of a query agree.**

Take a query that does not begin with a group, closes every group and has no keyword outside them.
With a filter put after it, it has a clause for a table exactly if the table is a target of the text
outside groups; without, it counts as unfiltered exactly if the table is a target of the whole text.
So both go the same way where the groups take part in no naming, and so in particular where there are
none and the query does not break off after a `from` or a `join`.
-/
theorem filtered_iff_unfiltered {q t : String} (hhead : q.toList.head? ≠ some '(')
    (hkey : ¬ keyword <:+: outside (normalize q.toList)) (hclosed : Closed q.toList)
    (hlast : EndsFree (Text.words (Text.lower q.toList))) (ht : t ≠ "") :
    let whole := normalize q.toList
    let fragment := filteredFragment whole
    let filtered := ∃ text, lookup (some (q ++ " where x=1")) (some t) = .clause text
    let unfiltered := lookup (some q) (some t) = .noMatch (some Outcome.noWhere) ∨
      lookup (some q) (some t) = .noMatch (some Outcome.noTopLevelWhere)
    (filtered ↔ (targets fragment).Names (Text.lower t.toList)) ∧
    (unfiltered ↔ (targets whole).Names (Text.lower t.toList)) ∧
    ('(' ∉ whole ∨ SameNamings fragment whole → (filtered ↔ unfiltered)) := by
  intro whole fragment filtered unfiltered
  have hwhole : whole = Text.lower q.toList := normalize_of_head (head?_lower hhead)
  have hfiltered : filtered ↔ (targets fragment).Names (Text.lower t.toList) := by
    have hkey' : ¬ keyword <:+: outside (Text.lower q.toList) := hwhole ▸ hkey
    show (∃ text, lookup (some (q ++ " where x=1")) (some t) = .clause text) ↔
      (targets (filteredFragment whole)).Names (Text.lower t.toList)
    rw [lookup_filtered hhead hkey' hclosed ht, hwhole]
    split
    · exact ⟨fun _ => ‹_›, fun _ => ⟨_, rfl⟩⟩
    · exact ⟨fun ⟨_, h⟩ => Outcome.noConfusion h, fun h => absurd h ‹_›⟩
  have hunfiltered : unfiltered ↔ (targets whole).Names (Text.lower t.toList) := by
    obtain ⟨reason, hlookup, hiff⟩ := lookup_without_keyword hkey t
    rw [← hiff, unfiltered_iff]
    show lookup (some q) (some t) = _ ∨ lookup (some q) (some t) = _ ↔ _
    rw [hlookup, Outcome.noMatch.injEq, Outcome.noMatch.injEq]
  refine ⟨hfiltered, hunfiltered, fun hgroups => ?_⟩
  have hsame : SameNamings fragment whole := by
    refine hgroups.elim (fun hnone => ?_) id
    exact sameNamings_of_no_group hnone (by rw [hwhole]; exact hlast)
  rw [hfiltered, hunfiltered, hsame.targets_eq]

/-- Groups that take part in no naming, and no groups at all. -/
theorem filtered_iff_unfiltered_count :
    ((∃ text, lookup (some ("select count(joined, x) FROM a" ++ " where x=1")) (some "A") =
        .clause text) ∧
      lookup (some "select count(joined, x) FROM a") (some "A") =
        .noMatch (some Outcome.noTopLevelWhere)) ∧
    ((∃ text, lookup (some ("select * from a" ++ " where x=1")) (some "a") = .clause text) ∧
      lookup (some "select * from a") (some "a") = .noMatch (some Outcome.noWhere)) := by
  refine ⟨?_, ?_⟩
  · obtain ⟨-, hunfiltered, hagree⟩ := filtered_iff_unfiltered (t := "A")
      (q := "select count(joined, x) FROM a") (by decide) (by decide +kernel) rfl
      (by decide +kernel) (by decide)
    have hnames := hunfiltered.mpr (by decide +kernel)
    have hsame : SameNamings
        (filteredFragment (normalize "select count(joined, x) FROM a".toList))
        (normalize "select count(joined, x) FROM a".toList) :=
      ⟨by decide +kernel, Or.inr ⟨"a".toList, by decide +kernel⟩⟩
    refine ⟨(hagree (Or.inr hsame)).mpr hnames, hnames.resolve_left ?_⟩
    decide +kernel
  · obtain ⟨-, hunfiltered, hagree⟩ := filtered_iff_unfiltered (t := "a") (q := "select * from a")
      (by decide) (by decide +kernel) rfl (by decide +kernel) (by decide)
    have hnames := hunfiltered.mpr (by decide +kernel)
    refine ⟨(hagree (Or.inl (by decide +kernel))).mpr hnames, hnames.resolve_right ?_⟩
    decide +kernel

/-- Where they part: a group with a `from` of its own, one that touches the table, one with a join,
and a table whose place is taken by the filter's keyword. -/
theorem filtered_apart_from_unfiltered :
    ("select (select x from a) from c".toList.head? ≠ some '(' ∧
      ¬ keyword <:+: outside (normalize "select (select x from a) from c".toList) ∧
      Closed "select (select x from a) from c".toList ∧
      EndsFree (Text.words (Text.lower "select (select x from a) from c".toList)) ∧
      (lookup (some ("select (select x from a) from c" ++ " where x=1")) (some "c")).label =
        "clause" ∧
      lookup (some "select (select x from a) from c") (some "c") =
        .noMatch (some Outcome.tableMismatch)) ∧
    ("select * from c(1)".toList.head? ≠ some '(' ∧
      ¬ keyword <:+: outside (normalize "select * from c(1)".toList) ∧
      Closed "select * from c(1)".toList ∧
      EndsFree (Text.words (Text.lower "select * from c(1)".toList)) ∧
      (lookup (some ("select * from c(1)" ++ " where x=1")) (some "c")).label =
        "clause" ∧
      lookup (some "select * from c(1)") (some "c") =
        .noMatch (some Outcome.tableMismatch)) ∧
    ("select * from a, (b join c on x=y)".toList.head? ≠ some '(' ∧
      ¬ keyword <:+: outside (normalize "select * from a, (b join c on x=y)".toList) ∧
      Closed "select * from a, (b join c on x=y)".toList ∧
      EndsFree (Text.words (Text.lower "select * from a, (b join c on x=y)".toList)) ∧
      (lookup (some ("select * from a, (b join c on x=y)" ++ " where x=1")) (some "c")).label =
        "invalid" ∧
      lookup (some "select * from a, (b join c on x=y)") (some "c") =
        .noMatch (some Outcome.noTopLevelWhere)) ∧
    ("select * from (b)".toList.head? ≠ some '(' ∧
      ¬ keyword <:+: outside (normalize "select * from (b)".toList) ∧
      Closed "select * from (b)".toList ∧
      EndsFree (Text.words (Text.lower "select * from (b)".toList)) ∧
      (lookup (some ("select * from (b)" ++ " where x=1")) (some "where")).label =
        "clause" ∧
      lookup (some "select * from (b)") (some "where") =
        .noMatch (some Outcome.tableMismatch)) := by
  decide +kernel

end RowGuard
