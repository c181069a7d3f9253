import RowGuard.Proofs.Lookup.Decision

/-!
# The shortcut for queries without groups

A query without an opening parenthesis is not scanned but taken as its own fragment, even if it has
no filter. The scan would have stopped at the same keyword, and without one it would have come to the
end; so all that the shortcut decides is by which reason a query without a filter is told from one
that has its filters in groups.
-/

namespace RowGuard

open Query

/-- The outcome for a query whose fragment, if any, has been found. -/
def lookupInFound (found : Option (List Char)) (query : List Char) (table : String) :
    Outcome × List Diagnostic :=
  match found with
  | none =>
    (.noMatch (if reads query table.toList then Outcome.noTopLevelWhere
      else Outcome.tableMismatch), [.noTopLevelWhere])
  | some fragment =>
    match check fragment table with
    | .error e => (.invalid e.message, [.notAttributable table])
    | .ok false => (.noMatch Outcome.tableMismatch, [])
    | .ok true =>
      match clause? fragment with
      | none => (.noMatch Outcome.noWhere, [])
      | some clause => (.clause (String.ofList clause), [.clauseFound table clause.length])

/-- The outcome of a lookup that finds the fragment in a given way, and what it reports. -/
def traceBy (find : List Char → Option (List Char)) (query table : Option String) :
    Outcome × List Diagnostic :=
  match query.filter (· ≠ ""), table.filter (· ≠ "") with
  | some query, some table =>
    let normal := normalize query.toList
    let (outcome, reports) := lookupInFound (find normal) normal table
    match unwrap? (Text.lower query.toList) with
    | some inner => (outcome, .unwrapped inner.length :: reports)
    | none => (outcome, reports)
  | _, _ => (.noMatch Outcome.emptyInput, [])

theorem lookupInFound_fragment? (query : List Char) (table : String) :
    lookupInFound (fragment? query) query table = lookupIn query table := rfl

/-- A lookup finds the fragment with the shortcut. -/
theorem traceBy_fragment? : traceBy fragment? = trace := rfl

/-- The lookup that scans every query. -/
abbrev scanningTrace : Option String → Option String → Outcome × List Diagnostic :=
  traceBy (scan [])

/-- What an outcome is without the shortcut: of the two reasons for having no filter only one is
left. -/
def Outcome.scanned (outcome : Outcome) : Outcome :=
  if outcome = .noMatch (some noWhere) then .noMatch (some noTopLevelWhere) else outcome

theorem Outcome.scanned_noMatch {reason : String} (h : reason ≠ noWhere) :
    (Outcome.noMatch (some reason)).scanned = .noMatch (some reason) := by
  rw [scanned, if_neg]
  intro heq
  exact h (Option.some.inj (Outcome.noMatch.inj heq))

/-- An outcome is left as it is, or the one reason stands for the other. -/
theorem Outcome.scanned_cases (outcome : Outcome) : outcome.scanned = outcome ∨
    outcome = .noMatch (some noWhere) ∧ outcome.scanned = .noMatch (some noTopLevelWhere) := by
  by_cases h : outcome = .noMatch (some noWhere)
  · exact Or.inr ⟨h, if_pos h⟩
  · exact Or.inl (if_neg h)

/-- The scan finds what the shortcut does, and nothing where there is no keyword to be found. -/
theorem lookupInFound_scan {query : List Char} (hsmall : Text.lower query = query)
    (table : String) :
    (lookupInFound (scan [] query) query table).1 = ((lookupIn query table).1).scanned := by
  by_cases hkey : keyword <:+: outside query
  · obtain ⟨pre, c, post, rfl, hc⟩ := exists_completes hkey
    have hsame : lookupInFound (scan [] (pre ++ c :: post)) (pre ++ c :: post) table =
        lookupIn (pre ++ c :: post) table := by
      rw [scan_of_completes hc, ← fragment?_of_completes hc, lookupInFound_fragment?]
    rw [hsame, lookupIn_of_completes hc (lower_outside_append hsmall)]
    split
    · rfl
    · rfl
  · have hend : scan [] query = none := scan_eq_none hkey
    rw [hend, lookupIn_without_keyword hkey hsmall, lookupInFound]
    simp only [reads_iff]
    by_cases hnames : (targets query).Names (Text.lower table.toList)
    · rw [if_pos hnames, if_pos hnames]
      split
      · exact (Outcome.scanned_noMatch (by decide)).symm
      · rfl
    · rw [if_neg hnames, if_neg hnames]
      exact (Outcome.scanned_noMatch (by decide)).symm

/-- Without the shortcut a lookup comes to the same, but for the reason of a query without a
filter. -/
theorem scanningTrace_eq (query table : Option String) :
    (scanningTrace query table).1 = (lookup query table).scanned := by
  by_cases hmissing : query.filter (· ≠ "") = none ∨ table.filter (· ≠ "") = none
  · rw [lookup_of_missing hmissing, Outcome.scanned_noMatch (by decide), scanningTrace, traceBy]
    rcases hmissing with h | h
    · rw [h]
    · rw [h]
      cases query.filter (· ≠ "") with
      | none => rfl
      | some _ => rfl
  · rw [not_or] at hmissing
    obtain ⟨q, hq⟩ := Option.ne_none_iff_exists'.mp hmissing.1
    obtain ⟨t, ht⟩ := Option.ne_none_iff_exists'.mp hmissing.2
    have hscan := lookupInFound_scan (lower_normalize q.toList) t
    rw [lookup, trace, scanningTrace, traceBy, hq, ht]
    dsimp only
    cases unwrap? (Text.lower q.toList) with
    | none => exact hscan
    | some inner => exact hscan

example : lookup (some "select * from t") (some "t") = .noMatch (some Outcome.noWhere) ∧
    (scanningTrace (some "select * from t") (some "t")).1 =
      .noMatch (some Outcome.noTopLevelWhere) := by
  decide +kernel

end RowGuard
