import RowGuard.Proofs.Lookup.Decision

/-!
# Clauses that are text of their query

The fragment is what stands outside groups up to the keyword, and then the query as it stands. What
follows the keyword is therefore literal text of the query, its end. The keyword itself need not be:
the scan sees no groups, so letters on both sides of one come together, and a query may have a
clause and no keyword at all.

Here it is said where the letters stand. From the first to the last they are a stretch of the query
that leaves the keyword when its groups are taken out, and the clause is text of the query exactly
when there are none to be taken out.
-/

namespace RowGuard

open Query

/-- Only a query in which the keyword is completed outside groups has a clause: the keyword and
what follows it there. -/
theorem exists_completes_of_clause {query table : Option String} {clause : String}
    (h : lookup query table = .clause clause) :
    ∃ q pre c post, query = some q ∧ normalize q.toList = pre ++ c :: post ∧ Completes pre c ∧
      clause.toList = keyword ++ post := by
  by_cases hmissing : query.filter (· ≠ "") = none ∨ table.filter (· ≠ "") = none
  · rw [lookup_of_missing hmissing] at h
    exact Outcome.noConfusion h
  · rw [not_or] at hmissing
    obtain ⟨q, hfilled⟩ := Option.ne_none_iff_exists'.mp hmissing.1
    obtain ⟨t, htable⟩ := Option.ne_none_iff_exists'.mp hmissing.2
    obtain ⟨rfl, hq⟩ := Option.filter_eq_some_iff.mp hfilled
    obtain ⟨rfl, ht⟩ := Option.filter_eq_some_iff.mp htable
    rw [lookup_of_ne (of_decide_eq_true hq) (of_decide_eq_true ht)] at h
    have hsmall : Text.lower (normalize q.toList) = normalize q.toList := lower_normalize q.toList
    by_cases hkey : keyword <:+: outside (normalize q.toList)
    · obtain ⟨pre, c, post, hsplit, hc⟩ := exists_completes hkey
      rw [hsplit] at h hsmall
      rw [lookupIn_of_completes hc (lower_outside_append hsmall)] at h
      split at h
      · refine ⟨q, pre, c, post, rfl, hsplit, hc, ?_⟩
        rw [← Outcome.clause.inj h, String.toList_ofList]
      · exact Outcome.noConfusion h
    · rw [lookupIn_without_keyword hkey hsmall] at h
      exact Outcome.noConfusion h

namespace Query

/-- Before the last letter of the keyword stand the others, with groups between them or without. -/
theorem Completes.exists_letters {pre : List Char} {c : Char} (h : Completes pre c) :
    ∃ before inner, pre = before ++ 'w' :: inner ∧ Closed before ∧ Closed inner ∧
      outside inner = "her".toList := by
  obtain rfl := h.eq_e
  obtain ⟨before, hends⟩ := h.ends
  have hout : outside pre = before ++ 'w' :: "her".toList := by
    have hletters : before ++ keyword = (before ++ 'w' :: "her".toList) ++ ['e'] := by
      rw [List.append_assoc]
      rfl
    exact (List.append_cancel_right (hletters.symm.trans hends)).symm
  obtain ⟨before, inner, rfl, hbefore, -, hinner⟩ := exists_split_of_outsideFrom hout
  have hclosed : Closed inner := by
    have hpre := h.closed
    rw [Closed, depthFrom_append, hbefore, depthFrom_cons, nest_zero (by decide)] at hpre
    exact hpre
  exact ⟨before, inner, rfl, hbefore, hclosed, hinner⟩

/-- No group stands between the letters if the text through the last one ends in the keyword. -/
theorem eq_her_of_suffix {before inner : List Char} (hclosed : Closed inner)
    (hinner : outside inner = "her".toList) (h : keyword <:+ before ++ 'w' :: (inner ++ ['e'])) :
    inner = "her".toList := by
  have hlong : 3 ≤ inner.length := by
    have hle := (outsideFrom_sublist 0 inner).length_le
    rwa [show outsideFrom 0 inner = "her".toList from hinner] at hle
  have hends : keyword <:+ 'w' :: (inner ++ ['e']) := by
    refine List.suffix_of_suffix_length_le h (List.suffix_append _ _) ?_
    rw [List.length_cons, List.length_append]
    exact Nat.add_le_add_right (Nat.add_le_add_right hlong 1) 1
  obtain ⟨ahead, hahead⟩ := hends
  cases ahead with
  | nil => exact List.append_cancel_right (List.cons.inj hahead).2.symm
  | cons d ahead =>
      -- a second keyword behind the first letter would leave more than three letters between
      have hlast : inner = ahead ++ "wher".toList := by
        refine (List.append_left_inj ['e']).mp ?_
        rw [← (List.cons.inj hahead).2, List.append_assoc]
        rfl
      have hplain : Plain "wher".toList := ⟨by decide, by decide⟩
      have hdepth : depthFrom 0 ahead = 0 := by
        rw [hlast, Closed, depthFrom_append, depthFrom_of_plain hplain] at hclosed
        exact hclosed
      rw [hlast, outside_append hdepth, outside_eq_self hplain.1] at hinner
      have hlength := congrArg List.length hinner
      rw [List.length_append] at hlength
      exact absurd hlength (by simp)

end Query

/--
**A clause is text of its query where no group parts the keyword.**

A query with a clause has the letters of a keyword, the first that comes together outside groups,
and the clause is that keyword and what follows its last letter, as it stands to the end of the
query. The clause is itself the end of the query exactly when nothing but the other letters stands
between the first of them and the last.
-/
theorem lookup_clause_literal_iff {query table : Option String} {clause : String}
    (h : lookup query table = .clause clause) :
    ∃ q before inner post, query = some q ∧
      normalize q.toList = before ++ 'w' :: (inner ++ 'e' :: post) ∧ Closed before ∧
      outside inner = "her".toList ∧ Completes (before ++ 'w' :: inner) 'e' ∧
      clause.toList = keyword ++ post ∧
      (clause.toList <:+ normalize q.toList ↔ inner = "her".toList) := by
  obtain ⟨q, pre, c, post, rfl, hsplit, hc, hclause⟩ := exists_completes_of_clause h
  obtain rfl := hc.eq_e
  obtain ⟨before, inner, rfl, hbefore, hclosed, hinner⟩ := hc.exists_letters
  have hnormal : normalize q.toList = before ++ 'w' :: (inner ++ 'e' :: post) := by
    rw [hsplit, List.append_assoc]
    rfl
  refine ⟨q, before, inner, post, rfl, hnormal, hbefore, hinner, hc, hclause, ?_⟩
  rw [hclause, hnormal]
  constructor
  · rintro ⟨ahead, hahead⟩
    have hends : ahead ++ keyword = before ++ 'w' :: (inner ++ ['e']) := by
      refine (List.append_left_inj post).mp ?_
      rw [List.append_assoc, hahead]
      simp
    exact eq_her_of_suffix hclosed hinner ⟨ahead, hends⟩
  · rintro rfl
    exact ⟨before, rfl⟩

/-- A function and the name of its column: the group of the one stands between the letters. -/
theorem lookup_clause_literal_iff_column :
    lookup (some "select wh(1)ere from t") (some "t") = .clause "where from t" ∧
      ∃ before inner post,
        normalize "select wh(1)ere from t".toList = before ++ 'w' :: (inner ++ 'e' :: post) ∧
        outside inner = "her".toList ∧ inner ≠ "her".toList := by
  have hclause : lookup (some "select wh(1)ere from t") (some "t") = .clause "where from t" := by
    decide +kernel
  obtain ⟨q, before, inner, post, hq, hnormal, -, hinner, -, -, hliteral⟩ :=
    lookup_clause_literal_iff hclause
  obtain rfl := Option.some.inj hq
  have hparted : ¬ "where from t".toList <:+ normalize "select wh(1)ere from t".toList := by
    decide +kernel
  exact ⟨hclause, before, inner, post, hnormal, hinner, fun heq => hparted (hliteral.mpr heq)⟩

/-- **A clause need not be text of its query.** The keyword does not stand in this one at all. -/
theorem lookup_clause_parted :
    lookup (some "select wh(1)ere from t") (some "t") = .clause "where from t" ∧
      ¬ "where from t".toList <:+ normalize "select wh(1)ere from t".toList ∧
      ¬ keyword <:+: normalize "select wh(1)ere from t".toList := by
  decide +kernel

end RowGuard
