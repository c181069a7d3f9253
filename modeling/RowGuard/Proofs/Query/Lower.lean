import RowGuard.Proofs.Query.Outside
import RowGuard.Proofs.Text.Case

/-!
# Groups in small letters

Taking the small form of a text opens and closes no group: parentheses stay, and nothing else
becomes one. So the depth is the same in both, and the characters outside groups are, but for the
choice of small sigma, the small forms of those that stood there.
-/

namespace RowGuard.Query

theorem plain_lowerChar {c : Char} (h1 : c ≠ '(') (h2 : c ≠ ')') : Plain (Text.lowerChar c) := by
  refine ⟨fun hmem => ?_, fun hmem => ?_⟩
  · rcases (Text.of_mem_lowerChar hmem).2 with he | hlow
    · exact h1 he.symm
    · exact absurd hlow (by decide)
  · rcases (Text.of_mem_lowerChar hmem).2 with he | hlow
    · exact h2 he.symm
    · exact absurd hlow (by decide)

/-- The small form of a text with a group in it, part by part. -/
theorem lower_group (p g s : List Char) : Text.lower (p ++ '(' :: (g ++ ')' :: s)) =
    Text.lower p ++ '(' :: (Text.lower g ++ ')' :: Text.lower s) := by
  have hopen : Text.isBarrier '(' = true ∧ Text.lowerChar '(' = ['('] := by decide
  have hclose : Text.isBarrier ')' = true ∧ Text.lowerChar ')' = [')'] := by decide
  rw [Text.lower_append hopen.1, hopen.2, Text.lower_append hclose.1, hclose.2]
  rfl

/-- What a character becomes moves the depth as the character does, and stands where it stood. -/
theorem image_depth {c : Char} {image : List Char}
    (h : image = Text.lowerChar c ∨ (c = 'Σ' ∧ image = ['ς'])) (depth : Nat) :
    depthFrom depth image = nest depth c ∧
      outsideFrom depth image = if depth = 0 ∧ c ≠ '(' then image else [] := by
  by_cases hopen : c = '('
  · subst hopen
    have himage : image = ['('] := by
      rcases h with rfl | ⟨habs, -⟩
      · decide
      · exact absurd habs (by decide)
    rw [himage]
    refine ⟨rfl, ?_⟩
    rw [outsideFrom, if_neg (fun hand => hand.2 rfl), if_neg (fun hand => hand.2 rfl)]
    rfl
  · -- any other character becomes characters that are no parentheses
    by_cases hclose : c = ')'
    · subst hclose
      have himage : image = [')'] := by
        rcases h with rfl | ⟨habs, -⟩
        · decide
        · exact absurd habs (by decide)
      rw [himage]
      exact ⟨rfl, rfl⟩
    · have hplain : Plain image := by
        rcases h with rfl | ⟨-, rfl⟩
        · exact plain_lowerChar hopen hclose
        · exact ⟨by decide, by decide⟩
      refine ⟨(depthFrom_of_plain hplain depth).trans (nest_of_ne hopen hclose).symm, ?_⟩
      rw [outsideFrom_of_plain hplain]
      by_cases hd : depth = 0
      · rw [if_pos hd, if_pos ⟨hd, hopen⟩]
      · rw [if_neg hd, if_neg (fun hand => hd hand.1)]

theorem depthFrom_lowerAfter (depth : Nat) (cased : Bool) (text : List Char) :
    depthFrom depth (Text.lowerAfter cased text) = depthFrom depth text := by
  induction text generalizing depth cased with
  | nil => rfl
  | cons c rest ih =>
      obtain ⟨image, next, heq, himage⟩ := Text.lowerAfter_cons cased c rest
      rw [heq, depthFrom_append, (image_depth himage depth).1, ih, depthFrom_cons]

theorem lowerChar_ne_nil (c : Char) : Text.lowerChar c ≠ [] := by
  unfold Text.lowerChar
  split
  · exact List.cons_ne_nil _ _
  · split
    · exact List.cons_ne_nil _ _
    · exact List.cons_ne_nil _ _

/-- The small form begins with an opening parenthesis only where the text does. -/
theorem head?_lower {text : List Char} (h : text.head? ≠ some '(') :
    (Text.lower text).head? ≠ some '(' := by
  cases text with
  | nil => exact h
  | cons c rest =>
      obtain ⟨image, next, heq, himage⟩ := Text.lowerAfter_cons false c rest
      rw [Text.lower, heq]
      rcases himage with rfl | ⟨-, rfl⟩
      · obtain ⟨d, more, hd⟩ := List.exists_cons_of_ne_nil (lowerChar_ne_nil c)
        rw [hd, List.cons_append, List.head?_cons]
        intro hopen
        have hmem : '(' ∈ Text.lowerChar c := by
          rw [hd, Option.some.inj hopen]
          exact List.mem_cons_self
        rcases (Text.of_mem_lowerChar hmem).2 with he | hlow
        · exact h (by rw [← he]; rfl)
        · exact absurd hlow (by decide)
      · exact fun hopen => absurd (Option.some.inj hopen) (by decide)

theorem closed_lower {text : List Char} : Closed (Text.lower text) ↔ Closed text := by
  rw [Closed, Closed, Text.lower, depthFrom_lowerAfter]

theorem map_oneSigma_outsideFrom (depth : Nat) (cased : Bool) (text : List Char) :
    (outsideFrom depth (Text.lowerAfter cased text)).map Text.oneSigma =
      (outsideFrom depth text).flatMap fun c => (Text.lowerChar c).map Text.oneSigma := by
  induction text generalizing depth cased with
  | nil => rfl
  | cons c rest ih =>
      obtain ⟨image, next, heq, himage⟩ := Text.lowerAfter_cons cased c rest
      obtain ⟨hdepth, hout⟩ := image_depth himage depth
      rw [heq, outsideFrom_append, List.map_append, hdepth, ih, hout, outsideFrom]
      split
      · rw [Text.map_oneSigma_image himage, List.flatMap_cons]
      · rfl

/-- What holds nothing outside still does in small letters. -/
theorem outsideFrom_lowerAfter_eq_nil {depth : Nat} {text : List Char}
    (h : outsideFrom depth text = []) (cased : Bool) :
    outsideFrom depth (Text.lowerAfter cased text) = [] := by
  have := map_oneSigma_outsideFrom depth cased text
  rw [h, List.flatMap_nil] at this
  exact List.map_eq_nil_iff.mp this

/-- Whether a pattern without sigmas occurs outside groups may be asked before or after the small
form is taken. -/
theorem infix_outside_lower {pattern text : List Char} (h : 'σ' ∉ pattern ∧ 'ς' ∉ pattern) :
    pattern <:+: outside (Text.lower text) ↔ pattern <:+: Text.lower (outside text) := by
  rw [← Text.infix_map_oneSigma h, ← Text.infix_map_oneSigma h (Text.lower (outside text)),
    outside, Text.lower, map_oneSigma_outsideFrom, Text.lower, Text.map_oneSigma_lowerAfter]
  rfl

end RowGuard.Query
