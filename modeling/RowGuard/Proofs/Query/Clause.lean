import RowGuard.Lookup
import RowGuard.Proofs.Text.Case
import RowGuard.Proofs.Text.Search

/-!
# Where a clause is cut

The keyword is sought in the small form of a fragment, and the place where it is found is used on the
fragment as it stands. The two texts have the same places as long as every character has one character
for its small form. `İ` is the one that has two, so each `İ` ahead of the keyword moves the cut one
character too far, and the clause loses as many of its first letters. A fragment in small letters has
no `İ`, and is cut where it should be.
-/

namespace RowGuard.Query

/-- The text begins with the keyword, in letters of any case. -/
def Begins (text : List Char) : Prop := keyword <+: Text.lower text

instance (text : List Char) : Decidable (Begins text) := inferInstanceAs (Decidable (_ <+: _))

/-- The longest end of a text that begins with the keyword. -/
structure IsTail (text tail : List Char) : Prop where
  suffix : tail <:+ text
  begins : Begins tail
  longest : ∀ other, other <:+ text → Begins other → other.length ≤ tail.length

instance (text tail : List Char) : Decidable (IsTail text tail) :=
  decidable_of_iff
    (tail <:+ text ∧ Begins tail ∧ ∀ other ∈ text.tails, Begins other → other.length ≤ tail.length)
    ⟨fun ⟨hsuffix, hbegins, hlongest⟩ =>
      ⟨hsuffix, hbegins, fun other hother => hlongest other ((List.mem_tails _ _).mpr hother)⟩,
      fun h => ⟨h.suffix, h.begins,
        fun other hother => h.longest other ((List.mem_tails _ _).mp hother)⟩⟩

/-! ## The search, character by character -/

/-- A letter before the text does not matter for whether it begins with the keyword. -/
theorem prefix_lowerAfter_iff {cased : Bool} {text : List Char} :
    keyword <+: Text.lowerAfter cased text ↔ Begins text :=
  Text.prefix_lowerAfter (by decide) cased text

/-- Any character but `İ` becomes a single one. -/
theorem lowerAfter_cons_of_ne {c : Char} (h : c ≠ 'İ') (cased : Bool) (rest : List Char) :
    ∃ d next, Text.lowerAfter cased (c :: rest) = d :: Text.lowerAfter next rest := by
  obtain ⟨image, next, heq, himage⟩ := Text.lowerAfter_cons cased c rest
  have hone : ∃ d, image = [d] := by
    rcases himage with rfl | ⟨-, rfl⟩
    · by_cases hascii : c.toNat < 128
      · exact ⟨_, by rw [Text.lowerChar, if_pos hascii]⟩
      · exact ⟨_, Text.lowerChar_of_beyond (by omega) h⟩
    · exact ⟨_, rfl⟩
  obtain ⟨d, rfl⟩ := hone
  exact ⟨d, next, heq⟩

/-- A text that does not begin with the keyword is searched from its second character on, whose place
in the small form is one further, or two after an `İ`. -/
theorem indexOf?_lowerAfter_cons {c : Char} {rest : List Char} (h : ¬ Begins (c :: rest))
    (cased : Bool) : ∃ next, Text.indexOf? keyword (Text.lowerAfter cased (c :: rest)) =
      (Text.indexOf? keyword (Text.lowerAfter next rest)).map (· + ([c].count 'İ' + 1)) := by
  by_cases hdot : c = 'İ'
  · -- neither of the two characters is the keyword's first
    have hpass : ∀ d ∈ Text.lowerChar 'İ', ∀ text, ¬ keyword <+: d :: text := by
      intro d hd text hp
      have hhead : 'w' ∉ Text.lowerChar 'İ' := by decide
      exact hhead ((List.cons_prefix_cons.mp hp).1 ▸ hd)
    subst hdot
    obtain ⟨next, heq⟩ : ∃ next, Text.lowerAfter cased ('İ' :: rest) =
        'i' :: '\u0307' :: Text.lowerAfter next rest := ⟨_, rfl⟩
    refine ⟨next, ?_⟩
    rw [heq, Text.indexOf?_cons (hpass 'i' (by decide) _),
      Text.indexOf?_cons (hpass '\u0307' (by decide) _), Option.map_map]
    rfl
  · obtain ⟨d, next, heq⟩ := lowerAfter_cons_of_ne hdot cased rest
    have hstart : ¬ keyword <+: d :: Text.lowerAfter next rest := by
      rw [← heq, prefix_lowerAfter_iff]
      exact h
    refine ⟨next, ?_⟩
    rw [heq, Text.indexOf?_cons hstart, List.count_singleton, if_neg (by simpa using hdot)]

/-! ## The place that is found -/

theorem isTail_self {text : List Char} (h : Begins text) : IsTail text text :=
  ⟨List.suffix_rfl, h, fun _ hother _ => hother.length_le⟩

/-- A text has one longest end. -/
theorem IsTail.unique {text tail other : List Char} (h : IsTail text tail)
    (hother : IsTail text other) : tail = other := by
  have hle := hother.longest tail h.suffix h.begins
  have hge := h.longest other hother.suffix hother.begins
  exact (List.suffix_of_suffix_length_le h.suffix hother.suffix hle).eq_of_length_le hge

/-- Where a text does not begin with the keyword, its longest end that does is that of the rest. -/
theorem IsTail.cons {c : Char} {rest tail : List Char} (h : IsTail rest tail)
    (hnot : ¬ Begins (c :: rest)) : IsTail (c :: rest) tail where
  suffix := h.suffix.trans (List.suffix_cons c rest)
  begins := h.begins
  longest := by
    intro other hother hbegins
    rcases List.suffix_cons_iff.mp hother with rfl | hrest
    · exact absurd hbegins hnot
    · exact h.longest other hrest hbegins

/-- The keyword is found in the small form at the place of the longest end that begins with it, counted
with every `İ` ahead of it as two, and is not found where no end begins with it. -/
theorem indexOf?_lowerAfter (cased : Bool) (text : List Char) :
    Text.indexOf? keyword (Text.lowerAfter cased text) = none ∨
      ∃ before tail, text = before ++ tail ∧ IsTail text tail ∧
        Text.indexOf? keyword (Text.lowerAfter cased text) =
          some (before.length + before.count 'İ') := by
  induction text generalizing cased with
  | nil => exact Or.inl rfl
  | cons c rest ih =>
      -- the longest end is the whole text, or that of the rest
      by_cases hbegins : Begins (c :: rest)
      · refine Or.inr ⟨[], c :: rest, rfl, isTail_self hbegins, ?_⟩
        exact Text.indexOf?_of_prefix (prefix_lowerAfter_iff.mpr hbegins)
      · obtain ⟨next, hnext⟩ := indexOf?_lowerAfter_cons hbegins cased
        rw [hnext]
        rcases ih next with hnone | ⟨before, tail, rfl, htail, hplace⟩
        · exact Or.inl (by rw [hnone]; rfl)
        · have hcount : (c :: before).count 'İ' = [c].count 'İ' + before.count 'İ' := by
            rw [← List.count_append]
            rfl
          refine Or.inr ⟨c :: before, tail, rfl, htail.cons hbegins, ?_⟩
          rw [hplace, Option.map_some, List.length_cons, hcount, Option.some.injEq]
          omega

/--
**A clause is cut at the keyword where no `İ` stands ahead of it.**

A fragment has no clause exactly if its small form does not hold the keyword. If it does, the
fragment has a longest end that begins with the keyword in letters of any case, and the clause is that
end without as many of its first characters as there are `İ`s ahead of it.
-/
theorem clause?_eq_tail (fragment : List Char) :
    (clause? fragment = none ↔ ¬ keyword <:+: Text.lower fragment) ∧
    (keyword <:+: Text.lower fragment → ∃ before tail, fragment = before ++ tail ∧
      IsTail fragment tail ∧ clause? fragment = some (tail.drop (before.count 'İ')) ∧
      (clause? fragment = some tail ↔ 'İ' ∉ before)) := by
  have hfound : (Text.indexOf? keyword (Text.lower fragment)).isSome = true ↔
      keyword <:+: Text.lower fragment := Text.occursIn_iff
  refine ⟨?_, fun hin => ?_⟩
  · rw [clause?, Option.map_eq_none_iff, ← hfound, Bool.not_eq_true, Option.isSome_eq_false_iff,
      Option.isNone_iff_eq_none]
  · rcases indexOf?_lowerAfter false fragment with hnone | ⟨before, tail, rfl, htail, hplace⟩
    · rw [Text.lower, hnone] at hfound
      exact absurd (hfound.mpr hin) Bool.false_ne_true
    · have hclause : clause? (before ++ tail) = some (tail.drop (before.count 'İ')) := by
        rw [clause?, Text.lower, hplace, Option.map_some, List.drop_length_add_append]
      refine ⟨before, tail, rfl, htail, hclause, ?_⟩
      have hne : tail ≠ [] := by
        rintro rfl
        exact absurd htail.begins (by decide)
      rw [hclause, Option.some.injEq, ← List.count_eq_zero]
      constructor
      · intro hdrop
        have hlength := congrArg List.length hdrop
        have hpos := List.length_pos_iff.mpr hne
        rw [List.length_drop] at hlength
        omega
      · intro hzero
        rw [hzero, List.drop_zero]

/-- A dotted letter ahead of the keyword, and one behind it, where it does no harm. -/
theorem clause?_eq_tail_dotted :
    (∃ before tail, "select İ from t WHERE x=1".toList = before ++ tail ∧
      IsTail "select İ from t WHERE x=1".toList tail ∧ 'İ' ∈ before ∧
      clause? "select İ from t WHERE x=1".toList = some tail.tail) ∧
    clause? "select x from t Where y='İ'".toList = some "Where y='İ'".toList := by
  refine ⟨?_, ?_⟩
  · obtain ⟨before, tail, hsplit, htail, hclause, -⟩ :=
      (clause?_eq_tail "select İ from t WHERE x=1".toList).2 (by decide +kernel)
    have hknown : IsTail "select İ from t WHERE x=1".toList "WHERE x=1".toList := by
      decide +kernel
    obtain rfl := htail.unique hknown
    obtain rfl : "select İ from t ".toList = before := List.append_cancel_right hsplit
    exact ⟨_, _, hsplit, htail, by decide, hclause⟩
  · obtain ⟨before, tail, hsplit, htail, -, hwhole⟩ :=
      (clause?_eq_tail "select x from t Where y='İ'".toList).2 (by decide +kernel)
    have hknown : IsTail "select x from t Where y='İ'".toList "Where y='İ'".toList := by
      decide +kernel
    obtain rfl := htail.unique hknown
    obtain rfl : "select x from t ".toList = before := List.append_cancel_right hsplit
    exact hwhole.mpr (by decide)

/-- **A clause may lose the first letter of its keyword.** -/
theorem clause?_short_of_tail :
    keyword <:+: Text.lower "İ where x=1".toList ∧
      IsTail "İ where x=1".toList "where x=1".toList ∧
      clause? "İ where x=1".toList = some "here x=1".toList := by
  decide +kernel

end RowGuard.Query
