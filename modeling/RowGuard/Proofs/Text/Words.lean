import Mathlib.Data.List.Infix
import RowGuard.Text.Blank

/-!
# Words stand in their text

A word is a stretch of the text it is read from, and never empty. Reading goes from the end, so a
text that begins with no blank has its first word made longer by each character put in front.
-/

namespace RowGuard.Text

theorem words_of_blank {c : Char} (hc : isBlank c = true) (rest : List Char) :
    words (c :: rest) = words rest := by
  rw [words.eq_def]
  exact if_pos hc

/-- A character joins the first word of what follows, unless a blank does. -/
theorem words_of_not_blank {c : Char} (hc : isBlank c = false) (rest : List Char) :
    words (c :: rest) = [c] :: words rest ∨
      ∃ d tail word more, rest = d :: tail ∧ isBlank d = false ∧ words rest = word :: more ∧
        words (c :: rest) = (c :: word) :: more := by
  rw [words.eq_def]
  dsimp only
  rw [if_neg (by rw [hc]; exact Bool.false_ne_true)]
  split
  · rename_i d tail word more hrest
    cases hd : isBlank d with
    | true => exact Or.inl (by rw [hrest]; rfl)
    | false => exact Or.inr ⟨d, tail, word, more, rfl, hd, hrest, rfl⟩
  · exact Or.inl rfl

/-- A text that begins with no blank begins with its first word. -/
theorem head_words {c : Char} (hc : isBlank c = false) (rest : List Char) {word : List Char}
    {more : List (List Char)} (h : words (c :: rest) = word :: more) : word <+: c :: rest := by
  induction rest generalizing c word more with
  | nil =>
      rcases words_of_not_blank hc [] with hone | ⟨d, tail, _, _, hnil, -⟩
      · obtain ⟨rfl, -⟩ := List.cons.inj (hone.symm.trans h)
        exact List.prefix_rfl
      · exact absurd hnil (List.cons_ne_nil d tail).symm
  | cons d rest ih =>
      rcases words_of_not_blank hc (d :: rest) with
        hone | ⟨e, tail, first, _, hcons, he, hrest, hall⟩
      · obtain ⟨rfl, -⟩ := List.cons.inj (hone.symm.trans h)
        exact ⟨d :: rest, rfl⟩
      · obtain ⟨rfl, rfl⟩ := List.cons.inj hcons
        obtain ⟨rfl, -⟩ := List.cons.inj (hall.symm.trans h)
        exact List.cons_prefix_cons.mpr ⟨rfl, ih he hrest⟩

/-- A word is a stretch of its text, and not empty. -/
theorem of_mem_words {word text : List Char} (h : word ∈ words text) :
    word ≠ [] ∧ word <:+: text := by
  induction text with
  | nil => exact absurd h List.not_mem_nil
  | cons c rest ih =>
      have hlater : word ∈ words rest → word ≠ [] ∧ word <:+: c :: rest := fun hrest =>
        ⟨(ih hrest).1, (ih hrest).2.trans (List.suffix_cons c rest).isInfix⟩
      cases hc : isBlank c with
      | true =>
          rw [words_of_blank hc] at h
          exact hlater h
      | false =>
          have hhead : ∀ first more, words (c :: rest) = first :: more → word = first →
              word <:+: c :: rest := fun first more hall heq =>
            heq ▸ (head_words hc rest hall).isInfix
          rcases words_of_not_blank hc rest with hone | ⟨_, _, first, more, -, -, hrest, hall⟩
          · rw [hone] at h
            rcases List.mem_cons.mp h with heq | hin
            · exact ⟨heq ▸ List.cons_ne_nil _ _, hhead _ _ hone heq⟩
            · exact hlater hin
          · rw [hall] at h
            rcases List.mem_cons.mp h with heq | hin
            · exact ⟨heq ▸ List.cons_ne_nil _ _, hhead _ _ hall heq⟩
            · exact hlater (hrest ▸ List.mem_cons_of_mem _ hin)

end RowGuard.Text
