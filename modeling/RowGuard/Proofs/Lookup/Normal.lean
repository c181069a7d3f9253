import RowGuard.Proofs.Lookup.Decision

/-!
# Fragments are in normal form

A fragment is a query again: its groups ahead of the keyword are gone, what follows the keyword is
left, and it begins with no parenthesis. Normalizing it and looking for its fragment change nothing
any more, so it may be kept and looked up in place of the query it was taken from.
-/

namespace RowGuard

open Query

namespace Query

/-- What is true of every fragment of a query: it is made of the query's characters, begins with no
parenthesis, and is its own fragment. -/
structure IsFragment (query fragment : List Char) : Prop where
  subset : fragment ⊆ query
  head : fragment.head? ≠ some '('
  again : fragment? fragment = some fragment

/-- The place where the keyword is completed is the same once the groups ahead of it are gone. -/
theorem Completes.ungrouped {pre : List Char} {c : Char} (h : Completes pre c) :
    Completes (outside pre) c where
  closed := closed_of_not_mem (not_mem_outside pre)
  stands := h.stands
  before := by
    rw [outside_outside]
    exact h.before
  ends := by
    rw [outside_outside]
    exact h.ends

theorem isFragment_of_completes {pre : List Char} {c : Char} (h : Completes pre c)
    (post : List Char) : IsFragment (pre ++ c :: post) (outside pre ++ c :: post) where
  subset := outside_append_subset pre (c :: post)
  head := by
    have hopen : '(' ∉ outside pre := not_mem_outside pre
    cases hout : outside pre with
    | nil =>
        intro hhead
        exact h.stands (Option.some.inj hhead)
    | cons d rest =>
        intro hhead
        rw [hout] at hopen
        exact hopen (Option.some.inj hhead ▸ List.mem_cons_self)
  again := by
    rw [fragment?_of_completes h.ungrouped, outside_outside]

theorem isFragment_of_fragment? {query fragment : List Char} (h : fragment? query = some fragment) :
    IsFragment query fragment := by
  by_cases hkey : keyword <:+: outside query
  · obtain ⟨pre, c, post, rfl, hc⟩ := exists_completes hkey
    rw [fragment?_of_completes hc] at h
    obtain rfl := Option.some.inj h
    exact isFragment_of_completes hc post
  · -- without the keyword only a query without groups is a fragment, namely its own
    have hwhole := fragment?_without_keyword hkey
    rw [h] at hwhole
    split at hwhole
    · exact absurd hwhole (Option.some_ne_none fragment)
    · rename_i hopen
      obtain rfl := Option.some.inj hwhole
      refine ⟨List.Subset.refl _, fun hhead => hopen ?_, h⟩
      exact List.mem_of_mem_head? hhead

/-- A fragment of a normalized query is normalized. -/
theorem IsFragment.normalize_eq {query fragment : List Char}
    (h : IsFragment (normalize query) fragment) : normalize fragment = fragment := by
  have hsmall : Text.lower fragment = fragment := lower_of_subset_normalize h.subset
  have hhead : (Text.lower fragment).head? ≠ some '(' := by
    rw [hsmall]
    exact h.head
  rw [normalize_of_head hhead, hsmall]

end Query

/--
**Fragments are in normal form.**

The fragment of a query, unless it is empty, is normalized and is its own fragment. Looking a table up
in it has the same outcome as in the query, with its clause, reason or message.
-/
theorem lookup_fragment {query : String} {fragment : List Char}
    (h : fragment? (normalize query.toList) = some fragment) (hne : fragment ≠ []) :
    normalize fragment = fragment ∧ fragment? fragment = some fragment ∧
      ∀ table, lookup (some (String.ofList fragment)) table = lookup (some query) table := by
  have hfragment : IsFragment (normalize query.toList) fragment := isFragment_of_fragment? h
  have hnormal : normalize fragment = fragment := hfragment.normalize_eq
  refine ⟨hnormal, hfragment.again, fun table => ?_⟩
  have hfilled : String.ofList fragment ≠ "" := by
    intro hnil
    have hchars := congrArg String.toList hnil
    rw [String.toList_ofList] at hchars
    exact hne hchars
  have hquery : query ≠ "" := by
    rintro rfl
    exact hne (Option.some.inj h).symm
  have hempty : String.ofList fragment = "" ↔ query = "" :=
    ⟨fun hnil => absurd hnil hfilled, fun hnil => absurd hnil hquery⟩
  refine lookup_related (R := Eq) rfl hempty Iff.rfl fun t t' ht ht' => ?_
  obtain rfl := Option.some.inj (ht.symm.trans ht')
  -- both are looked up by the same fragment
  have hagain : fragment? (normalize (String.ofList fragment).toList) = some fragment := by
    rw [String.toList_ofList, hnormal]
    exact hfragment.again
  rw [lookupIn, lookupIn, hagain, h]

/-- A query in parentheses, with one group ahead of its keyword and one after it. -/
theorem lookup_fragment_parentheses :
    let query := "(SELECT f(from b) FROM a WHERE x in (select 1))"
    let fragment := "select f from a where x in (select 1)"
    fragment? (normalize query.toList) = some fragment.toList ∧
      normalize fragment.toList = fragment.toList ∧
      fragment? fragment.toList = some fragment.toList ∧
      lookup (some fragment) (some "A") = .clause "where x in (select 1)" ∧
      lookup (some query) (some "A") = .clause "where x in (select 1)" := by
  intro query fragment
  have hfragment : fragment? (normalize query.toList) = some fragment.toList := by decide +kernel
  have hclause : lookup (some query) (some "A") = .clause "where x in (select 1)" := by
    decide +kernel
  obtain ⟨hnormal, hagain, hlookup⟩ := lookup_fragment hfragment (by decide)
  have hsame := hlookup (some "A")
  rw [String.ofList_toList] at hsame
  exact ⟨hfragment, hnormal, hagain, hsame.trans hclause, hclause⟩

end RowGuard
