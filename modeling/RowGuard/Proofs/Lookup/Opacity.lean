import RowGuard.Proofs.Lookup.Decision
import RowGuard.Proofs.Query.Lower

/-!
# Groups ahead of the keyword are opaque

Two queries that differ in what a group before the first keyword holds have the same fragment, and
when they have one, the same outcome. The keyword, `from` and `join` may all stand in the group:
none of them is seen.

The argument has two halves. In a small form nothing leaks over a parenthesis, not even the sigma
rule, so the two normalized queries differ in the group alone. And the scan, having passed a closed
group, is where it was before it.
-/

namespace RowGuard

open Query

namespace Query

/-- A group in a query that does not begin with one is a group of the normalized query. -/
theorem normalize_group {p : List Char} (hp : p ≠ []) (hhead : p.head? ≠ some '(')
    (g s : List Char) :
    normalize (p ++ '(' :: (g ++ ')' :: s)) =
      Text.lower p ++ '(' :: (Text.lower g ++ ')' :: Text.lower s) := by
  have hne : (p ++ '(' :: (g ++ ')' :: s)).head? ≠ some '(' := by
    rw [List.head?_append_of_ne_nil _ hp]
    exact hhead
  rw [normalize_of_head (head?_lower hne), lower_group]

/-- The fragment of a query with a group before its keyword, by what surrounds the group. -/
theorem fragment?_normalize_group {p g : List Char} (hp : p ≠ []) (hhead : p.head? ≠ some '(')
    (hclosed : Closed p) (hkey : ¬ keyword <:+: Text.lower (outside p)) (hg : Balanced g)
    (s : List Char) :
    fragment? (normalize (p ++ '(' :: (g ++ ')' :: s))) =
      scan (outside (Text.lower p)).reverse (Text.lower s) := by
  have hkey' : ¬ keyword <:+: outside (Text.lower p) := by
    rw [infix_outside_lower (by decide)]
    exact hkey
  rw [normalize_group hp hhead]
  refine fragment?_group (closed_lower.mpr hclosed) hkey' ⟨?_, ?_⟩ _
  · rw [Text.lower, depthFrom_lowerAfter]
    exact hg.inside.1
  · exact outsideFrom_lowerAfter_eq_nil hg.inside.2 false

end Query

/-- Queries with the same fragment have the same outcome. -/
theorem lookupIn_of_fragment_eq {n m fragment : List Char} (hn : fragment? n = some fragment)
    (hm : fragment? m = some fragment) (table : String) : lookupIn n table = lookupIn m table := by
  rw [lookupIn, lookupIn, hn, hm]

/--
**Groups ahead of the keyword are opaque.**

Whatever balanced text stands in a group that follows `p`, the fragment is the same, and if there is
one, so is the outcome for every table, with its clause, reason or message.
-/
theorem lookup_eq_of_group (p g h s : String) (hp : p ≠ "") (hhead : p.toList.head? ≠ some '(')
    (hclosed : Closed p.toList) (hkey : ¬ keyword <:+: Text.lower (outside p.toList))
    (hg : Balanced g.toList) (hh : Balanced h.toList) :
    fragment? (normalize (p ++ "(" ++ g ++ ")" ++ s).toList) =
        fragment? (normalize (p ++ "(" ++ h ++ ")" ++ s).toList) ∧
      (fragment? (normalize (p ++ "(" ++ g ++ ")" ++ s).toList) ≠ none →
        ∀ table, lookup (some (p ++ "(" ++ g ++ ")" ++ s)) table =
          lookup (some (p ++ "(" ++ h ++ ")" ++ s)) table) := by
  have hp' : p.toList ≠ [] := fun hnil => hp (String.toList_inj.mp (by rw [hnil]; rfl))
  have hchars : ∀ x : String,
      (p ++ "(" ++ x ++ ")" ++ s).toList = p.toList ++ '(' :: (x.toList ++ ')' :: s.toList) := by
    intro x
    simp
  -- the right side does not mention what the group holds
  have hfrag : ∀ x : String, Balanced x.toList →
      fragment? (normalize (p ++ "(" ++ x ++ ")" ++ s).toList) =
        scan (outside (Text.lower p.toList)).reverse (Text.lower s.toList) := by
    intro x hx
    rw [hchars]
    exact fragment?_normalize_group hp' hhead hclosed hkey hx _
  have hne : ∀ x : String, p ++ "(" ++ x ++ ")" ++ s ≠ "" := by
    intro x hnil
    have := congrArg String.toList hnil
    rw [hchars] at this
    exact hp' (List.append_eq_nil_iff.mp this).1
  refine ⟨(hfrag g hg).trans (hfrag h hh).symm, fun hsome table => ?_⟩
  obtain ⟨fragment, hf⟩ := Option.ne_none_iff_exists'.mp hsome
  have hf' := ((hfrag h hh).trans (hfrag g hg).symm).trans hf
  cases table with
  | none => rw [lookup_of_missing (Or.inr rfl), lookup_of_missing (Or.inr rfl)]
  | some t =>
      by_cases ht : t = ""
      · rw [lookup_of_missing (Or.inr (by rw [ht]; rfl)),
          lookup_of_missing (Or.inr (by rw [ht]; rfl))]
      · rw [lookup_of_ne (hne g) ht, lookup_of_ne (hne h) ht, lookupIn_of_fragment_eq hf hf']

/-- A whole query in the group changes nothing. -/
theorem lookup_eq_of_group_with_query :
    lookup (some "select f(a from b where (c) join d) from t where x=1") (some "t") =
      lookup (some "select f() from t where x=1") (some "t") := by
  have hfragment : fragment? (normalize
      ("select f" ++ "(" ++ "a from b where (c) join d" ++ ")" ++ " from t where x=1").toList) ≠
        none := by
    decide +kernel
  exact (lookup_eq_of_group "select f" "a from b where (c) join d" "" " from t where x=1"
    (by decide) (by decide) rfl (by decide) (by decide) (by decide)).2 hfragment (some "t")

end RowGuard
