import RowGuard.Lookup
import RowGuard.Proofs.Query.Fragment
import RowGuard.Proofs.Query.Target
import RowGuard.Proofs.Text.Search

/-!
# What decides a lookup

The outcome of a lookup is a function of three things: the characters of the normalized query that
stand outside groups, the text after the first keyword among them, and the targets of the one text
or the other. `lookup_decided` says which outcome goes with which, for every query and every table,
the missing and the empty included.

The clause is cut out by a search of its own, in the small form of the fragment. It finds the
keyword at which the scan stopped because a fragment is small already, being made of pieces of a
small form, and because the scan stopped at the first.
-/

namespace RowGuard

open Query

/-! ## The query that is scanned -/

namespace Query

theorem normalize_sublist (query : List Char) : (normalize query).Sublist (Text.lower query) := by
  unfold normalize
  cases hl : Text.lower query with
  | nil => exact List.Sublist.slnil
  | cons c rest =>
      by_cases hc : c = '('
      · subst hc
        show (if rest.getLast? = some ')' then rest.dropLast else rest).Sublist ('(' :: rest)
        split
        · exact (List.dropLast_sublist rest).trans (List.sublist_cons_self '(' rest)
        · exact List.sublist_cons_self '(' rest
      · rw [unwrap?.eq_2 (c :: rest) (fun r hr => hc (List.cons.inj hr).1)]
        exact List.Sublist.refl _

/-- A query that does not begin with a parenthesis is not unwrapped. -/
theorem normalize_of_head {query : List Char} (h : (Text.lower query).head? ≠ some '(') :
    normalize query = Text.lower query := by
  unfold normalize
  rw [unwrap?.eq_2 _ (fun r hr => h (by rw [hr]; rfl))]
  rfl

/-! ## The clause -/

/-- The clause begins with the keyword that the scan found. -/
theorem clause?_of_completes {pre post : List Char} {c : Char} (h : Completes pre c)
    (hsmall : Text.lower (outside pre ++ c :: post) = outside pre ++ c :: post) :
    clause? (outside pre ++ c :: post) = some (keyword ++ post) := by
  obtain ⟨before, hends⟩ := h.ends
  have hsplit : outside pre ++ c :: post = before ++ (keyword ++ post) := by
    rw [← List.append_assoc, hends, List.append_assoc]
    rfl
  rw [clause?, hsmall, Text.indexOf?_of_ends hends h.before, Option.map_some, hsplit,
    List.drop_left]

theorem clause?_without_keyword {fragment : List Char} (hsmall : Text.lower fragment = fragment)
    (h : ¬ keyword <:+: fragment) : clause? fragment = none := by
  have hnone : Text.indexOf? keyword fragment = none := by
    have := Text.occursIn_eq_false h
    rwa [Text.occursIn, Option.isSome_eq_false_iff, Option.isNone_iff_eq_none] at this
  rw [clause?, hsmall, hnone]
  rfl

/-- What the user is told when a fragment's filter cannot be attributed to the table. -/
def unattributed (fragment : List Char) (table : String) : String :=
  Message.invalidQuery table ((targets fragment).source.map String.ofList)
    ((targets fragment).joined.map String.ofList)

end Query

/-! ## The outcome -/

/-- With the keyword outside groups, the fragment's targets decide. -/
theorem lookupIn_of_completes {pre post : List Char} {c : Char} {table : String}
    (h : Completes pre c)
    (hsmall : Text.lower (outside pre ++ c :: post) = outside pre ++ c :: post) :
    (lookupIn (pre ++ c :: post) table).1 =
      if (targets (outside pre ++ c :: post)).Names (Text.lower table.toList)
      then .clause (String.ofList (keyword ++ post))
      else .invalid (unattributed (outside pre ++ c :: post) table) := by
  have hoccurs : Text.occursIn keyword (outside pre ++ c :: post) = true := by
    rw [Text.occursIn_iff]
    exact h.ends.isInfix.trans ⟨[], post, by simp⟩
  rw [lookupIn, fragment?_of_completes h]
  by_cases hreads : reads (outside pre ++ c :: post) table.toList = true
  · rw [if_pos (reads_iff.mp hreads)]
    simp only [check, if_pos hreads, clause?_of_completes h hsmall]
  · -- the keyword is in the fragment, so a fragment that does not read the table is refused
    rw [if_neg (fun hn => hreads (reads_iff.mpr hn))]
    simp only [check, if_neg hreads, if_pos hoccurs]
    rfl

/-- Without it, the targets of the whole query decide, groups included. -/
theorem lookupIn_without_keyword {query : List Char} {table : String}
    (h : ¬ keyword <:+: outside query) (hsmall : Text.lower query = query) :
    (lookupIn query table).1 = .noMatch (some
      (if (targets query).Names (Text.lower table.toList)
       then if '(' ∈ query then Outcome.noTopLevelWhere else Outcome.noWhere
       else Outcome.tableMismatch)) := by
  rw [lookupIn, fragment?_without_keyword h]
  by_cases hopen : '(' ∈ query
  · rw [if_pos hopen, if_pos hopen]
    by_cases hreads : reads query table.toList = true
    · rw [if_pos (reads_iff.mp hreads)]
      simp only [if_pos hreads]
    · rw [if_neg (fun hn => hreads (reads_iff.mpr hn))]
      simp only [if_neg hreads]
  · have hnot : ¬ keyword <:+: query := by rwa [outside_eq_self hopen] at h
    rw [if_neg hopen, if_neg hopen]
    by_cases hreads : reads query table.toList = true
    · simp only [check, if_pos hreads, clause?_without_keyword hsmall hnot]
      rw [if_pos (reads_iff.mp hreads)]
    · simp only [check, if_neg hreads, Text.occursIn_eq_false hnot]
      rw [if_neg (fun hn => hreads (reads_iff.mpr hn))]
      rfl

/-- A missing or empty query or table is no error. -/
theorem lookup_of_missing {query table : Option String}
    (h : query.filter (· ≠ "") = none ∨ table.filter (· ≠ "") = none) :
    lookup query table = .noMatch (some Outcome.emptyInput) := by
  rw [lookup, trace]
  rcases h with h | h
  · rw [h]
  · rw [h]
    cases query.filter (· ≠ "") with
    | none => rfl
    | some _ => rfl

/-- With both given, the normalized query is looked up. -/
theorem lookup_of_ne {query table : String} (hq : query ≠ "") (ht : table ≠ "") :
    lookup (some query) (some table) = (lookupIn (normalize query.toList) table).1 := by
  have h1 : (some query).filter (· ≠ "") = some query := by simp [hq]
  have h2 : (some table).filter (· ≠ "") = some table := by simp [ht]
  rw [lookup, trace, h1, h2]
  dsimp only
  split
  · rfl
  · rfl

/-- Two lookups are related as the two that are made in the normalized queries, if what is missing for
the one is missing for the other. -/
theorem lookup_related {R : Outcome → Outcome → Prop}
    (hempty : R (.noMatch (some Outcome.emptyInput)) (.noMatch (some Outcome.emptyInput)))
    {query query' : String} {table table' : Option String} (hquery : query = "" ↔ query' = "")
    (htable : table.filter (· ≠ "") = none ↔ table'.filter (· ≠ "") = none)
    (h : ∀ t t', table = some t → table' = some t' →
      R (lookupIn (normalize query.toList) t).1 (lookupIn (normalize query'.toList) t').1) :
    R (lookup (some query) table) (lookup (some query') table') := by
  by_cases hq : query = ""
  · have hq' : query' = "" := hquery.mp hq
    subst hq hq'
    rw [lookup_of_missing (Or.inl rfl), lookup_of_missing (Or.inl rfl)]
    exact hempty
  · have hq' : query' ≠ "" := fun hnil => hq (hquery.mpr hnil)
    cases hfilter : table.filter (· ≠ "") with
    | none =>
        rw [lookup_of_missing (Or.inr hfilter), lookup_of_missing (Or.inr (htable.mp hfilter))]
        exact hempty
    | some t =>
        have hsome : table'.filter (· ≠ "") ≠ none := fun hnone =>
          absurd (hfilter.symm.trans (htable.mpr hnone)) (Option.some_ne_none t)
        obtain ⟨t', hfilter'⟩ := Option.ne_none_iff_exists'.mp hsome
        obtain ⟨rfl, ht⟩ := Option.filter_eq_some_iff.mp hfilter
        obtain ⟨rfl, ht'⟩ := Option.filter_eq_some_iff.mp hfilter'
        rw [lookup_of_ne hq (of_decide_eq_true ht), lookup_of_ne hq' (of_decide_eq_true ht')]
        exact h t t' rfl rfl

/-- A lookup that finds no filter says why. -/
theorem lookupIn_noMatch {query : List Char} {table : String} {reason : Option String}
    (h : (lookupIn query table).1 = .noMatch reason) : reason.isSome = true := by
  unfold lookupIn at h
  split at h
  · injection h with h
    rw [← h]
    split
    · rfl
    · rfl
  · split at h
    · exact Outcome.noConfusion h
    · injection h with h
      rw [← h]
      rfl
    · split at h
      · injection h with h
        rw [← h]
        rfl
      · exact Outcome.noConfusion h

/-- A normalized query is small, and so is whatever is made of its characters. -/
theorem lower_of_subset_normalize {query part : List Char} (h : part ⊆ normalize query) :
    Text.lower part = part :=
  Text.lower_of_subset (List.Subset.trans h (normalize_sublist query).subset)

theorem lower_normalize (query : List Char) : Text.lower (normalize query) = normalize query :=
  lower_of_subset_normalize (List.Subset.refl _)

theorem outside_append_subset (pre post : List Char) :
    outside pre ++ post ⊆ pre ++ post :=
  List.append_subset.mpr ⟨List.subset_append_of_subset_left _ (outsideFrom_sublist 0 pre).subset,
    List.subset_append_right _ _⟩

/-- A fragment of a small query is small. -/
theorem lower_outside_append {pre post : List Char} (h : Text.lower (pre ++ post) = pre ++ post) :
    Text.lower (outside pre ++ post) = outside pre ++ post := by
  have hsub : outside pre ++ post ⊆ Text.lower (pre ++ post) := by
    rw [h]
    exact outside_append_subset pre post
  exact Text.lower_of_subset hsub

/--
**The text outside groups decides a lookup.**

With `n` the normalized query and `d` its characters outside groups: if the keyword occurs in `d`,
it first does so with the `k`th of these, which stands in `n` at `i`; then the targets of `d` up to
there, followed by all of `n` after `i`, decide between the clause and the refusal. If it does not
occur, the targets of `n` decide between the three ways of having no filter.
-/
theorem lookup_decided (query table : Option String) :
    ((query = none ∨ query = some "" ∨ table = none ∨ table = some "") →
      lookup query table = .noMatch (some Outcome.emptyInput)) ∧
    ∀ q t : String, query = some q → table = some t → q ≠ "" → t ≠ "" →
      let n := normalize q.toList
      (keyword <:+: outside n → ∃ k i : Nat,
        IsLeast {k | keyword <:+: (outside n).take k} k ∧ (places n)[k - 1]? = some i ∧
        let f := (outside n).take k ++ n.drop (i + 1)
        lookup query table =
          if (targets f).Names (Text.lower t.toList)
          then .clause (String.ofList (keyword ++ n.drop (i + 1)))
          else .invalid (Message.invalidQuery t ((targets f).source.map String.ofList)
            ((targets f).joined.map String.ofList))) ∧
      (¬ keyword <:+: outside n →
        lookup query table = .noMatch (some
          (if (targets n).Names (Text.lower t.toList)
           then if '(' ∈ n then Outcome.noTopLevelWhere else Outcome.noWhere
           else Outcome.tableMismatch))) := by
  refine ⟨fun hmissing => lookup_of_missing ?_, ?_⟩
  · rcases hmissing with rfl | rfl | rfl | rfl
    · exact Or.inl rfl
    · exact Or.inl rfl
    · exact Or.inr rfl
    · exact Or.inr rfl
  · rintro q t rfl rfl hq ht n
    rw [lookup_of_ne hq ht]
    refine ⟨fun hin => ?_, fun hnot => ?_⟩
    · -- the keyword splits the query at one place, and `k` and `i` are that place counted twice
      obtain ⟨pre, c, post, hn, hc⟩ := exists_completes hin
      have htake : (outside n).take ((outside pre).length + 1) = outside pre ++ [c] := by
        rw [hn]; exact hc.take post
      have hdrop : n.drop (pre.length + 1) = post := by
        rw [hn, List.drop_length_add_append]
        rfl
      have hsmall : Text.lower (outside pre ++ c :: post) = outside pre ++ c :: post := by
        have hsub := outside_append_subset pre (c :: post)
        rw [← hn] at hsub
        exact lower_of_subset_normalize hsub
      refine ⟨(outside pre).length + 1, pre.length, ?_, ?_, ?_⟩
      · rw [hn]
        exact hc.isLeast post
      · rw [Nat.add_sub_cancel, hn]
        exact hc.place post
      · dsimp only
        rw [htake, hdrop, List.append_assoc]
        -- only the query itself is to be split, not the `n` inside its parts
        show (lookupIn n t).1 = _
        rw [hn]
        exact lookupIn_of_completes hc hsmall
    · exact lookupIn_without_keyword hnot (lower_of_subset_normalize (List.Subset.refl _))

/-- A keyword that a group cuts in two, after one inside a group. -/
theorem lookup_decided_cut_keyword :
    lookup (some "") (some "t") = .noMatch (some Outcome.emptyInput) ∧
    lookup (some "select f(where) from t wh(x)ere a=(1)") (some "T") = .clause "where a=(1)" ∧
    lookup (some "select f(where) from t") (some "T") =
      .noMatch (some Outcome.noTopLevelWhere) := by
  refine ⟨(lookup_decided _ _).1 (by decide), ?_, ?_⟩
  · obtain ⟨k, i, hk, hi, hlookup⟩ :=
      ((lookup_decided (some "select f(where) from t wh(x)ere a=(1)") (some "T")).2 _ _ rfl rfl
        (by decide) (by decide)).1 (by decide)
    have hle : k ≤ 21 := hk.2 (show keyword <:+: _ by decide)
    have hge : 21 ≤ k := by
      by_contra hlt
      have hshort : k ≤ 20 := by omega
      exact absurd (hk.1.trans (List.take_prefix_take_left hshort).isInfix) (by decide)
    obtain rfl : k = 21 := by omega
    obtain rfl : 30 = i := Option.some.inj (Eq.trans (by decide) hi)
    rw [hlookup]
    decide
  · have hlookup := ((lookup_decided (some "select f(where) from t") (some "T")).2 _ _ rfl rfl
      (by decide) (by decide)).2 (by decide)
    rw [hlookup]
    decide

end RowGuard
