import Mathlib.Data.List.Infix
import RowGuard.Text.Search

/-!
# What a search finds

`occursIn` decides whether a text is a contiguous part of another, and `indexOf?` finds the place
of its first occurrence: it looks at one beginning after the other, so a pattern that comes to an end
for the first time on a known character is found where it begins.
-/

namespace RowGuard.Text

theorem occursIn_iff {pattern text : List Char} :
    occursIn pattern text = true ↔ pattern <:+: text := by
  unfold occursIn
  induction text with
  | nil =>
      cases pattern with
      | nil => simp [indexOf?]
      | cons c rest => simp [indexOf?]
  | cons c rest ih =>
      rw [List.infix_cons_iff, indexOf?]
      by_cases h : pattern <+: c :: rest
      · rw [if_pos (List.isPrefixOf_iff_prefix.mpr h)]
        exact ⟨fun _ => Or.inl h, fun _ => rfl⟩
      · rw [if_neg (fun hp => h (List.isPrefixOf_iff_prefix.mp hp)), Option.isSome_map, ih]
        exact ⟨Or.inr, fun hor => hor.resolve_left h⟩

theorem occursIn_eq_false {pattern text : List Char} (h : ¬ pattern <:+: text) :
    occursIn pattern text = false := by
  rw [← Bool.not_eq_true, occursIn_iff]
  exact h

/-- A pattern with which a text begins is found at once. -/
theorem indexOf?_of_prefix {pattern text : List Char} (h : pattern <+: text) :
    indexOf? pattern text = some 0 := by
  cases text with
  | nil => rw [indexOf?, List.prefix_nil.mp h]; rfl
  | cons c rest => rw [indexOf?, if_pos (List.isPrefixOf_iff_prefix.mpr h)]

/-- Any other text is searched from its second character on. -/
theorem indexOf?_cons {pattern rest : List Char} {c : Char} (h : ¬ pattern <+: c :: rest) :
    indexOf? pattern (c :: rest) = (indexOf? pattern rest).map (· + 1) := by
  rw [indexOf?, if_neg (fun hp => h (List.isPrefixOf_iff_prefix.mp hp))]

/-- What does not occur in `u` and ends on the character after it is found where it begins. -/
theorem indexOf?_of_ends {pattern before u after : List Char} {c : Char}
    (hends : before ++ pattern = u ++ [c]) (hu : ¬ pattern <:+: u) :
    indexOf? pattern (u ++ c :: after) = some before.length := by
  induction before generalizing u with
  | nil =>
      have hp : pattern <+: u ++ c :: after := by
        rw [List.nil_append] at hends
        rw [hends]
        exact ⟨after, by simp⟩
      exact indexOf?_of_prefix hp
  | cons b before ih =>
      cases u with
      | nil =>
          -- the pattern would be empty, and so occur in `u`
          have hlen := congrArg List.length hends
          simp only [List.cons_append, List.length_cons, List.length_append, List.nil_append,
            List.length_nil] at hlen
          have hnil : pattern = [] := List.eq_nil_of_length_eq_zero (by omega)
          exact absurd (hnil ▸ List.nil_infix) hu
      | cons d u =>
          rw [List.cons_append, List.cons_append, List.cons.injEq] at hends
          obtain ⟨hb, hends⟩ := hends
          have hlen := congrArg List.length hends
          simp only [List.length_append, List.length_cons, List.length_nil] at hlen
          have hnot : ¬ pattern <+: d :: (u ++ c :: after) := by
            intro hp
            have hpre : d :: u <+: d :: (u ++ c :: after) := ⟨c :: after, rfl⟩
            have := List.prefix_of_prefix_length_le hp hpre (by rw [List.length_cons]; omega)
            exact hu this.isInfix
          rw [List.cons_append, indexOf?_cons hnot, ih hends (fun h => hu (List.infix_cons h))]
          rfl

end RowGuard.Text
