import RowGuard.Proofs.Query.Fragment
import RowGuard.Proofs.Query.Target
import RowGuard.Proofs.Text.Spacing

/-!
# Queries spaced alike

No blank is a parenthesis and no keyword has a blank, so queries that are spaced alike are read alike.
They are unwrapped both or neither, the same groups are open after corresponding characters, what
stands outside groups is spaced alike, and the keyword is completed at the same character. The
fragments are therefore spaced alike too, and name the same tables.

Where a group is taken out, the blanks before and after it come together. That changes how many blanks
stand there and nothing else.
-/

namespace RowGuard.Query

open Text (Respaced)

variable {u v : List Char}

/-! ## Groups -/

theorem ne_parenthesis_of_blank {b : Char} (hb : Text.isBlank b = true) : b ≠ '(' ∧ b ≠ ')' := by
  constructor
  · rintro rfl
    exact absurd hb (by decide)
  · rintro rfl
    exact absurd hb (by decide)

theorem nest_of_blank {b : Char} (hb : Text.isBlank b = true) (depth : Nat) :
    nest depth b = depth :=
  nest_of_ne (ne_parenthesis_of_blank hb).1 (ne_parenthesis_of_blank hb).2

theorem outsideFrom_of_blank {b : Char} (hb : Text.isBlank b = true) (depth : Nat)
    (rest : List Char) : outsideFrom depth (b :: rest) =
      if depth = 0 then b :: outsideFrom depth rest else outsideFrom depth rest := by
  have hopen : b ≠ '(' := (ne_parenthesis_of_blank hb).1
  rw [outsideFrom, nest_of_blank hb]
  simp only [hopen, ne_eq, not_false_eq_true, and_true]

theorem depthFrom_eq_of_respaced (h : Respaced u v) (depth : Nat) :
    depthFrom depth u = depthFrom depth v := by
  induction h generalizing depth with
  | nil => rfl
  | keep c _ ih => rw [depthFrom_cons, depthFrom_cons, ih]
  | swap hb hd _ ih =>
      rw [depthFrom_cons, depthFrom_cons, nest_of_blank hb, nest_of_blank hd, ih]
  | left hb hd _ ih =>
      rw [← ih, depthFrom_cons, depthFrom_cons, depthFrom_cons, nest_of_blank hb, nest_of_blank hd]
  | right hb hd _ ih =>
      rw [ih, depthFrom_cons, depthFrom_cons, depthFrom_cons, nest_of_blank hb, nest_of_blank hd]

theorem closed_of_respaced (h : Respaced u v) (hu : Closed u) : Closed v :=
  (depthFrom_eq_of_respaced h 0).symm.trans hu

theorem respaced_outsideFrom (h : Respaced u v) (depth : Nat) :
    Respaced (outsideFrom depth u) (outsideFrom depth v) := by
  induction h generalizing depth with
  | nil => exact .nil
  | keep c _ ih =>
      rw [outsideFrom, outsideFrom]
      split
      · exact .keep c (ih _)
      · exact ih _
  | swap hb hd _ ih =>
      rw [outsideFrom_of_blank hb, outsideFrom_of_blank hd]
      split
      · exact .swap hb hd (ih _)
      · exact ih _
  | left hb hd _ ih =>
      have hrest := ih depth
      rw [outsideFrom_of_blank hb] at hrest ⊢
      rw [outsideFrom_of_blank hd]
      split
      · rename_i hzero
        rw [if_pos hzero] at hrest
        exact .left hb hd hrest
      · rename_i hdeep
        rwa [if_neg hdeep] at hrest
  | right hb hd _ ih =>
      have hrest := ih depth
      rw [outsideFrom_of_blank hb] at hrest ⊢
      rw [outsideFrom_of_blank hd]
      split
      · rename_i hzero
        rw [if_pos hzero] at hrest
        exact .right hb hd hrest
      · rename_i hdeep
        rwa [if_neg hdeep] at hrest

/-- What stands outside groups is spaced alike. -/
theorem respaced_outside (h : Respaced u v) : Respaced (outside u) (outside v) :=
  respaced_outsideFrom h 0

/-! ## The normalized query -/

/-- A last character that is no blank is the last one of both. -/
theorem respaced_dropLast {c : Char} (hc : Text.isBlank c = false) (h : Respaced u v)
    (hu : u.getLast? = some c) : v.getLast? = some c ∧ Respaced u.dropLast v.dropLast := by
  have hsplit : u = u.dropLast ++ c :: [] := (List.dropLast_append_getLast? c hu).symm
  rw [hsplit] at h
  obtain ⟨before, after, rfl, hbefore, hafter⟩ := h.exists_split hc
  have hnil : after = [] := hafter.eq_nil rfl
  subst hnil
  rw [List.getLast?_concat, List.dropLast_concat]
  exact ⟨rfl, hbefore⟩

theorem exists_of_respaced_open {rest : List Char} (h : Respaced ('(' :: rest) v) :
    ∃ rest', v = '(' :: rest' ∧ Respaced rest rest' := by
  have hfirst : Respaced ([] ++ '(' :: rest) v := h
  obtain ⟨before, after, rfl, hbefore, hafter⟩ := hfirst.exists_split (by decide)
  have hnil : before = [] := hbefore.eq_nil rfl
  subst hnil
  exact ⟨after, rfl, hafter⟩

/-- Both lose their outer parentheses, or neither does. -/
theorem respaced_unwrap (h : Respaced u v) :
    Respaced ((unwrap? u).getD u) ((unwrap? v).getD v) := by
  have hclose : Text.isBlank ')' = false := by decide
  by_cases hopen : ∃ rest, u = '(' :: rest
  · obtain ⟨rest, rfl⟩ := hopen
    obtain ⟨rest', rfl, hrest⟩ := exists_of_respaced_open h
    show Respaced (if rest.getLast? = some ')' then rest.dropLast else rest)
      (if rest'.getLast? = some ')' then rest'.dropLast else rest')
    by_cases hlast : rest.getLast? = some ')'
    · obtain ⟨hlast', hinner⟩ := respaced_dropLast hclose hrest hlast
      rw [if_pos hlast, if_pos hlast']
      exact hinner
    · have hlast' : ¬ rest'.getLast? = some ')' := fun hlast' =>
        hlast (respaced_dropLast hclose hrest.symm hlast').1
      rw [if_neg hlast, if_neg hlast']
      exact hrest
  · have hopen' : ∀ rest, v ≠ '(' :: rest := by
      rintro rest rfl
      obtain ⟨rest', hu, -⟩ := exists_of_respaced_open h.symm
      exact hopen ⟨rest', hu⟩
    rw [unwrap?.eq_2 u fun rest hu => hopen ⟨rest, hu⟩, unwrap?.eq_2 v hopen']
    exact h

/-- Queries spaced alike are spaced alike once they are normalized. -/
theorem respaced_normalize (h : Respaced u v) : Respaced (normalize u) (normalize v) :=
  respaced_unwrap h.lower

/-! ## The fragment and its targets -/

theorem keyword_solid : Text.Solid keyword := by decide

/-- The keyword is completed at the same character. -/
theorem Completes.of_respaced {pre pre' : List Char} {c : Char} (h : Completes pre c)
    (hpre : Respaced pre pre') : Completes pre' c where
  closed := closed_of_respaced hpre h.closed
  stands := h.stands
  before := fun hin =>
    h.before (((respaced_outside hpre).infix_iff keyword_solid).mpr hin)
  ends := by
    have hout : Respaced (outside pre ++ [c]) (outside pre' ++ [c]) :=
      (respaced_outside hpre).append (Respaced.refl [c])
    have hin : keyword <:+: outside pre' ++ [c] := hout.infix_imp keyword_solid h.ends.isInfix
    refine (List.infix_concat_iff.mp hin).resolve_right fun hbefore => ?_
    exact h.before (((respaced_outside hpre).infix_iff keyword_solid).mpr hbefore)

theorem mentionsJoin_eq_of_respaced (h : Respaced u v) : mentionsJoin u = mentionsJoin v := by
  have hsolid : Text.Solid "join".toList := by decide
  rw [mentionsJoin, mentionsJoin, Bool.eq_iff_iff, Text.occursIn_iff, Text.occursIn_iff]
  exact h.infix_iff hsolid

/-- Fragments spaced alike name the same tables. -/
theorem targets_eq_of_respaced (h : Respaced u v) : targets u = targets v := by
  rw [targets, targets, mentionsJoin_eq_of_respaced h, h.words_eq]

end RowGuard.Query
