import RowGuard.Proofs.Text.Case
import RowGuard.Proofs.Text.Search
import RowGuard.Proofs.Text.Words

/-!
# Texts by parts

A text that begins with a blank stands apart from what is put before it: its words are its own, a
pattern without blanks does not reach over from one part to the other, and the small form of the
whole is made of the small forms of the parts. The last of these needs the table, since a blank must
be nothing that the sigma rule looks through.
-/

namespace RowGuard.Text

/-- The text does not go on with a word before it: it is empty or begins with a blank. -/
def Apart (text : List Char) : Prop := ∀ c ∈ text.head?, isBlank c = true

instance (text : List Char) : Decidable (Apart text) :=
  match text with
  | [] => .isTrue fun _ h => absurd h.symm (Option.some_ne_none _)
  | c :: _ => decidable_of_iff (isBlank c = true)
      ⟨fun h _ hd => Option.some.inj hd ▸ h, fun h => h c rfl⟩

theorem apart_cons {b : Char} (hb : isBlank b = true) (rest : List Char) : Apart (b :: rest) :=
  fun _ hc => Option.some.inj hc ▸ hb

/-- A text without blanks. -/
def Solid (text : List Char) : Prop := ∀ c ∈ text, isBlank c = false

instance (text : List Char) : Decidable (Solid text) :=
  decidable_of_iff (text.all (fun c => !isBlank c) = true) (by simp [Solid])

/-- A text of blanks alone. -/
def Vacant (text : List Char) : Prop := ∀ c ∈ text, isBlank c = true

instance (text : List Char) : Decidable (Vacant text) :=
  decidable_of_iff (text.all isBlank = true) (by simp [Vacant])

theorem Vacant.not_mem {text : List Char} (h : Vacant text) {c : Char} (hc : isBlank c = false) :
    c ∉ text :=
  fun hin => absurd (h c hin) (by rw [hc]; exact Bool.false_ne_true)

theorem Vacant.apart {text : List Char} (h : Vacant text) : Apart text :=
  fun c hc => h c (List.mem_of_mem_head? hc)

/-! ## Words -/

theorem Vacant.words_eq_nil {text : List Char} (h : Vacant text) : words text = [] := by
  induction text with
  | nil => rfl
  | cons b rest ih =>
      rw [words_of_blank (h b List.mem_cons_self)]
      exact ih fun c hc => h c (List.mem_cons_of_mem b hc)

/-- A character joins the word that begins just after it. -/
theorem words_cons_cons {c d : Char} (hc : isBlank c = false) (hd : isBlank d = false)
    (rest : List Char) {word : List Char} {more : List (List Char)}
    (h : words (d :: rest) = word :: more) : words (c :: d :: rest) = (c :: word) :: more := by
  rw [words.eq_def]
  dsimp only
  rw [if_neg (by rw [hc]; exact Bool.false_ne_true), h]
  exact if_neg (by rw [hd]; exact Bool.false_ne_true)

/-- Where no word begins just after it, it is a word of its own. -/
theorem words_cons_of_apart {c : Char} (hc : isBlank c = false) {rest : List Char}
    (h : Apart rest) : words (c :: rest) = [c] :: words rest := by
  rcases words_of_not_blank hc rest with hone | ⟨d, tail, _, _, rfl, hd, -⟩
  · exact hone
  · exact absurd (h d rfl) (by rw [hd]; exact Bool.false_ne_true)

/-- A text that begins with no blank has a first word. -/
theorem exists_words {c : Char} (hc : isBlank c = false) (rest : List Char) :
    ∃ word more, words (c :: rest) = word :: more := by
  rcases words_of_not_blank hc rest with hone | ⟨_, _, _, _, _, _, _, hall⟩
  · exact ⟨_, _, hone⟩
  · exact ⟨_, _, hall⟩

/-- The words of two parts. -/
theorem words_append {rest : List Char} (hrest : Apart rest) (text : List Char) :
    words (text ++ rest) = words text ++ words rest := by
  induction text with
  | nil => rfl
  | cons c text ih =>
      rw [List.cons_append]
      cases hc : isBlank c with
      | true => rw [words_of_blank hc, words_of_blank hc, ih]
      | false =>
          -- what the first character joins is decided by the second one
          cases text with
          | nil =>
              have hone : words [c] = [[c]] := words_cons_of_apart hc (by decide)
              rw [List.nil_append, words_cons_of_apart hc hrest, hone]
              rfl
          | cons d text =>
              rw [List.cons_append] at ih ⊢
              cases hd : isBlank d with
              | true =>
                  rw [words_cons_of_apart hc (apart_cons hd _),
                    words_cons_of_apart hc (apart_cons hd _), ih]
                  rfl
              | false =>
                  obtain ⟨word, more, hword⟩ := exists_words hd text
                  rw [hword, List.cons_append] at ih
                  rw [words_cons_cons hc hd _ ih, words_cons_cons hc hd _ hword]
                  rfl

/-- A character put after a text is a word of its own, or joins the last word of the text. -/
theorem words_concat_or {c : Char} (hc : isBlank c = false) (text : List Char) :
    words (text ++ [c]) = words text ++ [[c]] ∨
      ∃ before word, words text = before ++ [word] ∧
        words (text ++ [c]) = before ++ [word ++ [c]] := by
  induction text with
  | nil => exact Or.inl (words_cons_of_apart hc (by decide))
  | cons d text ih =>
      rw [List.cons_append]
      cases hd : isBlank d with
      | true => rwa [words_of_blank hd, words_of_blank hd]
      | false =>
          -- the first word may be the last one too
          cases text with
          | nil =>
              have hone : words [d] = [[d]] := words_cons_of_apart hd (by decide)
              have hlast : words [c] = [[c]] := words_cons_of_apart hc (by decide)
              exact Or.inr ⟨[], [d], hone, words_cons_cons hd hc [] hlast⟩
          | cons e text =>
              rw [List.cons_append] at ih ⊢
              cases he : isBlank e with
              | true =>
                  rw [words_cons_of_apart hd (apart_cons he _),
                    words_cons_of_apart hd (apart_cons he _)]
                  rcases ih with hown | ⟨before, word, htext, hjoined⟩
                  · exact Or.inl (by rw [hown]; rfl)
                  · exact Or.inr ⟨[d] :: before, word, by rw [htext]; rfl, by rw [hjoined]; rfl⟩
              | false =>
                  obtain ⟨first, more, hfirst⟩ := exists_words he text
                  rw [words_cons_cons hd he _ hfirst]
                  rw [hfirst] at ih
                  rcases ih with hown | ⟨before, word, htext, hjoined⟩
                  · exact Or.inl (words_cons_cons hd he _ hown)
                  · cases before with
                    | nil =>
                        obtain ⟨rfl, rfl⟩ := List.cons.inj htext
                        exact Or.inr ⟨[], d :: first, rfl, words_cons_cons hd he _ hjoined⟩
                    | cons other before =>
                        obtain ⟨rfl, rfl⟩ := List.cons.inj htext
                        exact Or.inr ⟨(d :: first) :: before, word, rfl,
                          words_cons_cons hd he _ hjoined⟩

/-- The last word of a text that ends in no blank ends as the text does. -/
theorem words_concat {c : Char} (hc : isBlank c = false) (text : List Char) :
    ∃ before word, words (text ++ [c]) = before ++ [word ++ [c]] := by
  rcases words_concat_or hc text with hown | ⟨before, word, -, hjoined⟩
  · exact ⟨words text, [], hown⟩
  · exact ⟨before, word, hjoined⟩

/-- A run without blanks is one word. -/
theorem words_eq_singleton {word : List Char} (hne : word ≠ [])
    (h : Solid word) : words word = [word] := by
  induction word with
  | nil => exact absurd rfl hne
  | cons c rest ih =>
      have hc := h c List.mem_cons_self
      cases rest with
      | nil => exact words_cons_of_apart hc (by decide)
      | cons d rest =>
          have hd := h d (List.mem_cons_of_mem _ List.mem_cons_self)
          exact words_cons_cons hc hd rest
            (ih (List.cons_ne_nil d rest) fun e he => h e (List.mem_cons_of_mem _ he))

/-- A word has no blank in it. -/
theorem solid_of_mem_words {word text : List Char} (h : word ∈ words text) : Solid word := by
  induction text generalizing word with
  | nil => exact absurd h List.not_mem_nil
  | cons c rest ih =>
      cases hc : isBlank c with
      | true =>
          rw [words_of_blank hc] at h
          exact ih h
      | false =>
          have hjoined : ∀ {tail : List Char}, Solid tail → Solid (c :: tail) := by
            intro tail htail d hd
            rcases List.mem_cons.mp hd with rfl | hd
            · exact hc
            · exact htail d hd
          rcases words_of_not_blank hc rest with hone | ⟨_, _, first, more, -, -, hrest, hall⟩
          · rw [hone] at h
            rcases List.mem_cons.mp h with rfl | hin
            · exact hjoined fun d hd => absurd hd List.not_mem_nil
            · exact ih hin
          · rw [hall] at h
            rcases List.mem_cons.mp h with rfl | hin
            · exact hjoined (ih (hrest ▸ List.mem_cons_self))
            · exact ih (hrest ▸ List.mem_cons_of_mem _ hin)

/-! ## Searches -/

/-- A pattern does not reach over a character that it does not have. -/
theorem infix_append_cons {pattern text rest : List Char} {b : Char} (hb : b ∉ pattern) :
    pattern <:+: text ++ b :: rest ↔ pattern <:+: text ∨ pattern <:+: rest := by
  constructor
  · induction text with
    | nil =>
        rw [List.nil_append, List.infix_cons_iff]
        rintro (hpre | hin)
        · cases pattern with
          | nil => exact Or.inl List.nil_infix
          | cons d pattern =>
              have hd : d = b := (List.cons_prefix_cons.mp hpre).1
              exact absurd (hd ▸ List.mem_cons_self) hb
        · exact Or.inr hin
    | cons d text ih =>
        rw [List.cons_append, List.infix_cons_iff, List.infix_cons_iff]
        rintro (hpre | hin)
        · have hmark : d :: text ++ [b] <+: d :: (text ++ b :: rest) := ⟨rest, by simp⟩
          rcases List.prefix_or_prefix_of_prefix hpre hmark with h | h
          · rcases List.prefix_concat_iff.mp h with heq | h
            · exact absurd (heq ▸ List.mem_concat_self) hb
            · exact Or.inl (Or.inl h)
          · exact absurd (h.subset List.mem_concat_self) hb
        · exact (ih hin).imp_left Or.inr
  · rintro (h | h)
    · exact h.trans (List.prefix_append text _).isInfix
    · exact h.trans ((List.suffix_cons b rest).trans (List.suffix_append text _)).isInfix

/-- Characters that a pattern does not have add no place where it occurs. -/
theorem infix_append_of_none {pattern more : List Char} (hne : pattern ≠ [])
    (hmore : ∀ c ∈ more, c ∉ pattern) (text : List Char) :
    pattern <:+: text ++ more ↔ pattern <:+: text := by
  cases more with
  | nil => rw [List.append_nil]
  | cons b rest =>
      rw [infix_append_cons (hmore b List.mem_cons_self)]
      refine or_iff_left fun h => ?_
      obtain ⟨c, hc⟩ := List.exists_mem_of_ne_nil pattern hne
      exact hmore c (List.mem_cons_of_mem b (h.subset hc)) hc

theorem prefix_cons_of_blank {pattern rest : List Char} {b : Char} (hb : isBlank b = true)
    (hpattern : Solid pattern) : pattern <+: b :: rest ↔ pattern = [] := by
  constructor
  · intro h
    cases pattern with
    | nil => rfl
    | cons c pattern =>
        have hc : c = b := (List.cons_prefix_cons.mp h).1
        have hsolid := hpattern c List.mem_cons_self
        rw [hc, hb] at hsolid
        exact absurd hsolid (by simp)
  · rintro rfl
    exact List.nil_prefix

theorem infix_cons_of_blank {pattern rest : List Char} {b : Char} (hb : isBlank b = true)
    (hpattern : Solid pattern) : pattern <:+: b :: rest ↔ pattern <:+: rest := by
  rw [List.infix_cons_iff, prefix_cons_of_blank hb hpattern]
  constructor
  · rintro (rfl | h)
    · exact List.nil_infix
    · exact h
  · exact Or.inr

theorem Vacant.infix_append_iff {blanks : List Char} (h : Vacant blanks) {pattern : List Char}
    (hpattern : Solid pattern) (text : List Char) :
    pattern <:+: blanks ++ text ↔ pattern <:+: text := by
  induction blanks with
  | nil => rfl
  | cons b blanks ih =>
      rw [List.cons_append, infix_cons_of_blank (h b List.mem_cons_self) hpattern]
      exact ih fun c hc => h c (List.mem_cons_of_mem b hc)

/-- A pattern without blanks occurs in one of the parts or nowhere. -/
theorem occursIn_append {pattern rest : List Char} (hpattern : Solid pattern)
    (hrest : Apart rest) (text : List Char) :
    occursIn pattern (text ++ rest) = (occursIn pattern text || occursIn pattern rest) := by
  rw [Bool.eq_iff_iff, Bool.or_eq_true, occursIn_iff, occursIn_iff, occursIn_iff]
  cases rest with
  | nil =>
      rw [List.append_nil]
      exact ⟨Or.inl, fun h => h.elim id fun hnil => hnil.trans List.nil_infix⟩
  | cons b rest =>
      have hb : b ∉ pattern := fun hmem =>
        absurd (hrest b rfl) (by rw [hpattern b hmem]; exact Bool.false_ne_true)
      rw [infix_append_cons hb, infix_cons_of_blank (hrest b rfl) hpattern]

/-! ## Small forms -/

/-- What lies in a table lies in one of its ranges. -/
theorem exists_of_inRanges {n : Nat} {ranges : List (Nat × Nat)} (h : inRanges n ranges = true) :
    ∃ r ∈ ranges, r.1 ≤ n ∧ n ≤ r.2 := by
  induction ranges with
  | nil => exact absurd h Bool.false_ne_true
  | cons r rest ih =>
      obtain ⟨first, last⟩ := r
      rw [inRanges] at h
      split at h
      · exact absurd h Bool.false_ne_true
      · rename_i hfirst
        rw [Bool.or_eq_true, decide_eq_true_eq] at h
        rcases h with hlast | hrest
        · exact ⟨_, List.mem_cons_self, Nat.le_of_not_lt hfirst, hlast⟩
        · obtain ⟨s, hs, hn⟩ := ih hrest
          exact ⟨s, List.mem_cons_of_mem _ hs, hn⟩

theorem blankRanges_barrier : ∀ r ∈ blankRanges, ∀ n ∈ List.range' r.1 (r.2 + 1 - r.1),
    isBarrier (Char.ofNat n) = true ∧ lowerChar (Char.ofNat n) = [Char.ofNat n] := by
  decide +kernel

/-- A blank is its own small form, and a text may be cut there. -/
theorem barrier_of_isBlank {c : Char} (h : isBlank c = true) :
    isBarrier c = true ∧ lowerChar c = [c] := by
  obtain ⟨r, hr, hfirst, hlast⟩ := exists_of_inRanges h
  have hc := blankRanges_barrier r hr c.toNat (List.mem_range'_1.mpr ⟨hfirst, by omega⟩)
  rwa [Char.ofNat_toNat] at hc

/-- After a blank the small form is taken afresh. -/
theorem lowerAfter_of_blank {b : Char} (hb : isBlank b = true) (cased : Bool) (rest : List Char) :
    lowerAfter cased (b :: rest) = b :: lower rest := by
  obtain ⟨hbarrier, hsmall⟩ := barrier_of_isBlank hb
  have h := lowerAfter_append hbarrier cased [] rest
  rwa [hsmall] at h

theorem lower_cons_of_blank {b : Char} (hb : isBlank b = true) (rest : List Char) :
    lower (b :: rest) = b :: lower rest :=
  lowerAfter_of_blank hb false rest

/-- Blanks ahead of a text stay as they are. -/
theorem Vacant.lower_append {blanks : List Char} (h : Vacant blanks) (text : List Char) :
    Text.lower (blanks ++ text) = blanks ++ Text.lower text := by
  induction blanks with
  | nil => rfl
  | cons b blanks ih =>
      rw [List.cons_append, lower_cons_of_blank (h b List.mem_cons_self),
        ih fun c hc => h c (List.mem_cons_of_mem b hc)]
      rfl

theorem Vacant.lower_eq {text : List Char} (h : Vacant text) : lower text = text := by
  have hnil := h.lower_append []
  rwa [List.append_nil, show lower [] = [] from rfl, List.append_nil] at hnil

/-- The small form of a text that stands apart does so too. -/
theorem Apart.lower {text : List Char} (h : Apart text) : Apart (lower text) := by
  cases text with
  | nil => exact h
  | cons b rest =>
      rw [lower_cons_of_blank (h b rfl)]
      exact apart_cons (h b rfl) _

/-- The small forms of two parts. -/
theorem Apart.lower_append {rest : List Char} (h : Apart rest) (text : List Char) :
    Text.lower (text ++ rest) = Text.lower text ++ Text.lower rest := by
  cases rest with
  | nil =>
      rw [List.append_nil]
      exact (List.append_nil _).symm
  | cons b rest =>
      obtain ⟨hbarrier, hsmall⟩ := barrier_of_isBlank (h b rfl)
      rw [Text.lower_append hbarrier, hsmall, lower_cons_of_blank (h b rfl)]
      rfl

end RowGuard.Text
