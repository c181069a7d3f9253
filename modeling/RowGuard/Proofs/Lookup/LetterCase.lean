import RowGuard.Proofs.Lookup.Decision
import RowGuard.Proofs.Query.Lower
import RowGuard.Proofs.Text.Template

/-!
# Letter case in a lookup

A lookup takes the small form of the query and of the table before it looks at either. Queries of
one small form are the same query to it, and tables of one small form the same table, but for the
message of a refusal, which names the table as it was given.
-/

namespace RowGuard

/-- The same outcome, but for the name that the message of a refusal gives the table. -/
def Outcome.SameButName (name name' : String) : Outcome → Outcome → Prop
  | .invalid message, .invalid message' => Text.SameButName name name' message message'
  | outcome, outcome' => outcome = outcome'

namespace Outcome.SameButName

variable {name name' : String}

theorem refl (outcome : Outcome) : outcome.SameButName name name' outcome := by
  cases outcome with
  | clause text => rfl
  | noMatch reason => rfl
  | invalid message => exact Text.SameButName.refl message
  | unknown => rfl

/-- Such outcomes are two refusals, or one outcome. -/
theorem cases {outcome outcome' : Outcome} (h : outcome.SameButName name name' outcome') :
    outcome' = outcome ∨ ∃ message message', outcome = .invalid message ∧
      outcome' = .invalid message' ∧ Text.SameButName name name' message message' := by
  cases outcome with
  | clause text => exact Or.inl (Eq.symm h)
  | noMatch reason => exact Or.inl (Eq.symm h)
  | unknown => exact Or.inl (Eq.symm h)
  | invalid message =>
      cases outcome' with
      | invalid message' => exact Or.inr ⟨message, message', rfl, rfl, h⟩
      | clause text => cases h
      | noMatch reason => cases h
      | unknown => cases h

end Outcome.SameButName

namespace Text

theorem lower_eq_of_lowered {name name' : String} (h : lowered name = lowered name') :
    lower name.toList = lower name'.toList :=
  String.ofList_injective h

theorem lower_eq_nil {text : List Char} (h : lower text = []) : text = [] := by
  cases text with
  | nil => rfl
  | cons c rest =>
      exfalso
      obtain ⟨image, next, heq, himage⟩ := lowerAfter_cons false c rest
      rw [lower, heq] at h
      rcases himage with rfl | ⟨-, rfl⟩
      · exact Query.lowerChar_ne_nil c (List.append_eq_nil_iff.mp h).1
      · exact absurd h (by simp)

/-- Of two texts of one small form, one is empty only if the other is. -/
theorem eq_empty_of_lowered {name name' : String} (h : lowered name = lowered name')
    (hempty : name = "") : name' = "" := by
  have hsmall : lower name'.toList = [] := by
    rw [← lower_eq_of_lowered h, hempty]
    rfl
  exact String.toList_eq_nil_iff.mp (lower_eq_nil hsmall)

end Text

namespace Query

theorem normalize_eq_of_lower {query query' : List Char}
    (h : Text.lower query = Text.lower query') : normalize query = normalize query' := by
  rw [normalize, h, normalize]

theorem reads_eq_of_lower {table table' : List Char} (h : Text.lower table = Text.lower table')
    (fragment : List Char) : reads fragment table = reads fragment table' := by
  rw [reads, h, reads]

end Query

open Query

theorem lookupIn_sameButName {table table' : String}
    (h : Text.lower table.toList = Text.lower table'.toList) (query : List Char) :
    ((lookupIn query table).1).SameButName table table' (lookupIn query table').1 := by
  have hreads : ∀ fragment, reads fragment table.toList = reads fragment table'.toList :=
    reads_eq_of_lower h
  unfold lookupIn
  cases fragment? query with
  | none =>
      dsimp only
      rw [hreads]
      exact Outcome.SameButName.refl _
  | some fragment =>
      dsimp only
      unfold check
      rw [← hreads]
      by_cases hread : reads fragment table.toList = true
      · rw [if_pos hread, if_pos hread]
        dsimp only
        cases clause? fragment with
        | none => exact Outcome.SameButName.refl _
        | some clause => exact Outcome.SameButName.refl _
      · rw [if_neg hread, if_neg hread]
        by_cases hkey : Text.occursIn keyword fragment = true
        · -- the only place where the table's name comes into an outcome
          rw [if_pos hkey, if_pos hkey]
          exact Message.invalidQuery_sameButName _ _ _ _
        · rw [if_neg hkey, if_neg hkey]
          exact Outcome.SameButName.refl _

/-- Letter case changes no lookup, but for the table's name in the message of a refusal. -/
theorem lookup_sameButName {query query' table table' : String}
    (hquery : Text.lowered query = Text.lowered query')
    (htable : Text.lowered table = Text.lowered table') :
    (lookup (some query) (some table)).SameButName table table'
      (lookup (some query') (some table')) := by
  have hempty : query = "" ↔ query' = "" :=
    ⟨Text.eq_empty_of_lowered hquery, Text.eq_empty_of_lowered hquery.symm⟩
  have hnameless : (some table).filter (· ≠ "") = none ↔ (some table').filter (· ≠ "") = none := by
    simp only [Option.filter_eq_none_iff, Option.some.injEq, forall_eq', decide_eq_true_eq, not_not]
    exact ⟨Text.eq_empty_of_lowered htable, Text.eq_empty_of_lowered htable.symm⟩
  refine lookup_related (R := Outcome.SameButName table table') rfl hempty hnameless
    fun t t' ht ht' => ?_
  obtain rfl := Option.some.inj ht
  obtain rfl := Option.some.inj ht'
  rw [normalize_eq_of_lower (Text.lower_eq_of_lowered hquery)]
  exact lookupIn_sameButName (Text.lower_eq_of_lowered htable) _

end RowGuard
