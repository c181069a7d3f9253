import RowGuard.Proofs.Lookup.Decision
import RowGuard.Proofs.Query.Spacing

/-!
# Which blanks separate words does not matter

A query may be broken into lines, indented or set with any of the blanks that Unicode has: what a
lookup finds is the same for every table. A reason and a message are the same texts; a clause keeps
the blanks of its query, so two clauses are the same by their words.
-/

namespace RowGuard

open Query

/-- The same outcome, but for how the words of a clause are spaced. -/
def Outcome.SameButSpacing : Outcome → Outcome → Prop
  | .clause text, .clause other => Text.words text.toList = Text.words other.toList
  | outcome, other => outcome = other

theorem lookupIn_of_respaced {n m : List Char} (h : Text.Respaced n m) (hn : Text.lower n = n)
    (hm : Text.lower m = m) (table : String) :
    ((lookupIn n table).1).SameButSpacing (lookupIn m table).1 := by
  have hout : Text.Respaced (outside n) (outside m) := respaced_outside h
  by_cases hkey : keyword <:+: outside n
  · -- the keyword splits both at the same character, and what follows is spaced alike again
    obtain ⟨pre, c, post, rfl, hc⟩ := exists_completes hkey
    have hsolid : Text.isBlank c = false := by
      rw [hc.eq_e]
      decide
    obtain ⟨pre', post', rfl, hpre, hpost⟩ := h.exists_split hsolid
    have hc' : Completes pre' c := hc.of_respaced hpre
    have hfragment : Text.Respaced (outside pre ++ c :: post) (outside pre' ++ c :: post') :=
      (respaced_outside hpre).append (.keep c hpost)
    have hclause : Text.Respaced (keyword ++ post) (keyword ++ post') :=
      (Text.Respaced.refl keyword).append hpost
    rw [lookupIn_of_completes hc (lower_outside_append hn),
      lookupIn_of_completes hc' (lower_outside_append hm), unattributed, unattributed,
      targets_eq_of_respaced hfragment]
    split
    · show Text.words _ = Text.words _
      rw [String.toList_ofList, String.toList_ofList]
      exact hclause.words_eq
    · rfl
  · have hkey' : ¬ keyword <:+: outside m := fun hin =>
      hkey ((hout.infix_iff keyword_solid).mpr hin)
    have hopen : '(' ∈ n ↔ '(' ∈ m := by
      have hparen : Text.Solid ['('] := by decide
      rw [← List.singleton_infix_iff, ← List.singleton_infix_iff]
      exact h.infix_iff hparen
    rw [lookupIn_without_keyword hkey hn, lookupIn_without_keyword hkey' hm,
      targets_eq_of_respaced h]
    simp only [hopen]
    rfl

/--
**Which blanks separate words does not matter.**

Two queries with the same words, and with blanks at their ends in both or in neither, have the same
outcome for every table: the same reason, the same message, or clauses with the same words.
-/
theorem lookup_sameButSpacing {query other : String}
    (h : Text.SameWords query.toList other.toList) (table : Option String) :
    (lookup (some query) table).SameButSpacing (lookup (some other) table) := by
  have hspaced : Text.Respaced query.toList other.toList := h.respaced
  have hempty : query = "" ↔ other = "" := by
    rw [← String.toList_eq_nil_iff, ← String.toList_eq_nil_iff]
    exact ⟨hspaced.eq_nil, hspaced.symm.eq_nil⟩
  refine lookup_related (R := Outcome.SameButSpacing) rfl hempty Iff.rfl fun t t' ht ht' => ?_
  obtain rfl := Option.some.inj (ht.symm.trans ht')
  exact lookupIn_of_respaced (respaced_normalize hspaced)
    (lower_of_subset_normalize (List.Subset.refl _))
    (lower_of_subset_normalize (List.Subset.refl _)) t

/-- Line breaks and wide blanks for spaces, and a group whose blanks come together. -/
theorem lookup_sameButSpacing_lines :
    let query := "(SELECT f( x ) FROM a  JOIN b WHERE\ty = (1 ) )"
    let other := "(SELECT\nf(\u2003x\n) FROM a JOIN\r\nb WHERE y\u3000 = (1\n) )"
    Text.SameWords query.toList other.toList ∧
    lookup (some query) (some "B") = .clause "where\ty = (1 ) " ∧
    ∃ text, lookup (some other) (some "B") = .clause text ∧
      Text.words text.toList = ["where".toList, "y".toList, "=".toList, "(1".toList, ")".toList] := by
  intro query other
  have hwords : Text.SameWords query.toList other.toList := by decide +kernel
  have hclause : lookup (some query) (some "B") = .clause "where\ty = (1 ) " := by decide +kernel
  have hsame := lookup_sameButSpacing hwords (some "B")
  rw [hclause] at hsame
  refine ⟨hwords, hclause, ?_⟩
  cases hother : lookup (some other) (some "B") with
  | clause text =>
      rw [hother] at hsame
      exact ⟨text, rfl, hsame.symm.trans (by decide +kernel)⟩
  | noMatch reason =>
      rw [hother] at hsame
      exact absurd hsame (by simp [Outcome.SameButSpacing])
  | invalid message =>
      rw [hother] at hsame
      exact absurd hsame (by simp [Outcome.SameButSpacing])
  | unknown =>
      rw [hother] at hsame
      exact absurd hsame (by simp [Outcome.SameButSpacing])

end RowGuard
