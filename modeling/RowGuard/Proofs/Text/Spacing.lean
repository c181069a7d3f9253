import RowGuard.Proofs.Text.Parts

/-!
# Texts spaced alike

Two texts are spaced alike when they are the same but for which blanks, and how many of them, stand
where there are any. The relation is given by steps, so that a function of texts is followed through
it by one case for each step. The words are the same, what occurs in the one without blanks occurs in
the other, a character that is no blank splits both alike, and their small forms are spaced alike
again. The last holds because the sigma rule looks past no blank.

A reader does not see steps but words and blanks at the two ends. That these are enough is
`SameWords.respaced`.
-/

namespace RowGuard.Text

/-- The texts differ only in which blanks, and how many, stand where there are any. -/
inductive Respaced : List Char → List Char → Prop where
  | nil : Respaced [] []
  | keep (c : Char) {u v : List Char} (h : Respaced u v) : Respaced (c :: u) (c :: v)
  | swap {b d : Char} {u v : List Char} (hb : isBlank b = true) (hd : isBlank d = true)
      (h : Respaced u v) : Respaced (b :: u) (d :: v)
  /-- A blank after another adds nothing. -/
  | left {b d : Char} {u v : List Char} (hb : isBlank b = true) (hd : isBlank d = true)
      (h : Respaced (b :: u) v) : Respaced (b :: d :: u) v
  | right {b d : Char} {u v : List Char} (hb : isBlank b = true) (hd : isBlank d = true)
      (h : Respaced u (b :: v)) : Respaced u (b :: d :: v)

/-- Whether a text begins with a blank. -/
def leads (text : List Char) : Bool := text.head?.any isBlank

/-- Whether it ends in one. -/
def trails (text : List Char) : Bool := text.getLast?.any isBlank

/-- The texts have the same words, and blanks at their beginnings and at their ends in both or in
neither. -/
structure SameWords (u v : List Char) : Prop where
  words : words u = words v
  leads : leads u = leads v
  trails : trails u = trails v

instance (u v : List Char) : Decidable (SameWords u v) :=
  decidable_of_iff (words u = words v ∧ leads u = leads v ∧ trails u = trails v)
    ⟨fun ⟨hwords, hleads, htrails⟩ => ⟨hwords, hleads, htrails⟩,
      fun h => ⟨h.words, h.leads, h.trails⟩⟩

/-! ## Blanks in front -/

/-- What does not stand apart goes on with a word. -/
theorem exists_cons_of_not_apart {text : List Char} (h : ¬ Apart text) :
    ∃ c rest, text = c :: rest ∧ isBlank c = false := by
  cases text with
  | nil => exact absurd (show Apart [] by decide) h
  | cons c rest =>
      cases hc : isBlank c with
      | true => exact absurd (apart_cons hc rest) h
      | false => exact ⟨c, rest, rfl, hc⟩

theorem startsCased_of_blank {b : Char} (hb : isBlank b = true) (rest : List Char) :
    startsCased (b :: rest) = false :=
  startsCased_append (barrier_of_isBlank hb).1 [] rest

/-! ## The relation -/

namespace Respaced

variable {u v : List Char}

theorem refl (text : List Char) : Respaced text text := by
  induction text with
  | nil => exact nil
  | cons c text ih => exact keep c ih

theorem symm (h : Respaced u v) : Respaced v u := by
  induction h with
  | nil => exact nil
  | keep c _ ih => exact keep c ih
  | swap hb hd _ ih => exact swap hd hb ih
  | left hb hd _ ih => exact right hb hd ih
  | right hb hd _ ih => exact left hb hd ih

theorem append {x y : List Char} (h : Respaced u v) (h' : Respaced x y) :
    Respaced (u ++ x) (v ++ y) := by
  induction h with
  | nil => exact h'
  | keep c _ ih => exact keep c ih
  | swap hb hd _ ih => exact swap hb hd ih
  | left hb hd _ ih => exact left hb hd ih
  | right hb hd _ ih => exact right hb hd ih

theorem eq_nil (h : Respaced u v) (hu : u = []) : v = [] := by
  induction h with
  | nil => rfl
  | keep c _ ih => exact absurd hu (by simp)
  | swap hb hd _ ih => exact absurd hu (by simp)
  | left hb hd _ ih => exact absurd hu (by simp)
  | right hb hd _ ih => exact absurd (ih hu) (by simp)

theorem apart (h : Respaced u v) (hu : Apart u) : Apart v := by
  induction h with
  | nil => exact hu
  | keep c _ ih =>
      intro d hd
      exact hu d hd
  | swap hb hd _ ih => exact apart_cons hd _
  | left hb hd _ ih => exact ih (apart_cons hb _)
  | right hb hd _ ih => exact apart_cons hb _

/-- Texts spaced alike have the same words. -/
theorem words_eq (h : Respaced u v) : words u = words v := by
  induction h with
  | nil => rfl
  | @keep c u v h ih =>
      cases hc : isBlank c with
      | true => rw [words_of_blank hc, words_of_blank hc, ih]
      | false =>
          -- whether the character is a word of its own is told by what comes next, in both alike
          by_cases hu : Apart u
          · have hv : Apart v := h.apart hu
            rw [words_cons_of_apart hc hu, words_cons_of_apart hc hv, ih]
          · have hv : ¬ Apart v := fun hv => hu (h.symm.apart hv)
            obtain ⟨d, u, rfl, hd⟩ := exists_cons_of_not_apart hu
            obtain ⟨e, v, rfl, he⟩ := exists_cons_of_not_apart hv
            obtain ⟨word, more, hword⟩ := exists_words hd u
            have hword' : words (e :: v) = word :: more := ih.symm.trans hword
            rw [words_cons_cons hc hd u hword, words_cons_cons hc he v hword']
  | swap hb hd _ ih => rw [words_of_blank hb, words_of_blank hd, ih]
  | left hb hd _ ih => rw [words_of_blank hb, words_of_blank hd, ← ih, words_of_blank hb]
  | right hb hd _ ih => rw [words_of_blank hb, words_of_blank hd, ih, words_of_blank hb]

/-- A pattern without blanks begins both or neither. -/
theorem prefix_imp {pattern : List Char} (hpattern : Solid pattern)
    (h : Respaced u v) (hu : pattern <+: u) : pattern <+: v := by
  induction h generalizing pattern with
  | nil => exact hu
  | keep c _ ih =>
      cases pattern with
      | nil => exact List.nil_prefix
      | cons d pattern =>
          obtain ⟨rfl, hrest⟩ := List.cons_prefix_cons.mp hu
          have hsolid : Solid pattern :=
            fun e he => hpattern e (List.mem_cons_of_mem _ he)
          exact List.cons_prefix_cons.mpr ⟨rfl, ih hsolid hrest⟩
  | swap hb hd _ ih =>
      rw [prefix_cons_of_blank hb hpattern] at hu
      rw [prefix_cons_of_blank hd hpattern]
      exact hu
  | left hb hd _ ih =>
      rw [prefix_cons_of_blank hb hpattern] at hu
      rw [hu]
      exact List.nil_prefix
  | right hb hd _ ih =>
      have hnil := ih hpattern hu
      rw [prefix_cons_of_blank hb hpattern] at hnil
      rw [hnil]
      exact List.nil_prefix

theorem infix_imp {pattern : List Char} (hpattern : Solid pattern)
    (h : Respaced u v) (hu : pattern <:+: u) : pattern <:+: v := by
  induction h with
  | nil => exact hu
  | keep c h ih =>
      rcases List.infix_cons_iff.mp hu with hpre | hin
      · exact (prefix_imp hpattern (keep c h) hpre).isInfix
      · exact List.infix_cons (ih hin)
  | swap hb hd _ ih =>
      rw [infix_cons_of_blank hb hpattern] at hu
      rw [infix_cons_of_blank hd hpattern]
      exact ih hu
  | left hb hd _ ih =>
      rw [infix_cons_of_blank hb hpattern, infix_cons_of_blank hd hpattern] at hu
      exact ih (List.infix_cons hu)
  | right hb hd _ ih =>
      have hin := ih hu
      rw [infix_cons_of_blank hb hpattern] at hin
      exact List.infix_cons (List.infix_cons hin)

/-- A pattern without blanks occurs in both or in neither. -/
theorem infix_iff {pattern : List Char} (hpattern : Solid pattern)
    (h : Respaced u v) : pattern <:+: u ↔ pattern <:+: v :=
  ⟨h.infix_imp hpattern, h.symm.infix_imp hpattern⟩

/-- A character that is no blank splits both texts alike. -/
theorem exists_split {before after : List Char} {c : Char} (hc : isBlank c = false)
    (h : Respaced (before ++ c :: after) v) :
    ∃ before' after', v = before' ++ c :: after' ∧ Respaced before before' ∧
      Respaced after after' := by
  -- the character may come first, but never where a step has a blank
  have hne : ∀ {b : Char}, isBlank b = true → b ≠ c := by
    rintro b hb rfl
    exact absurd (hb.symm.trans hc) (by simp)
  generalize htext : before ++ c :: after = text at h
  induction h generalizing before with
  | nil => exact absurd htext (by simp)
  | @keep d u v h ih =>
      cases before with
      | nil =>
          obtain ⟨rfl, rfl⟩ := List.cons.inj htext
          exact ⟨[], v, rfl, nil, h⟩
      | cons e before =>
          obtain ⟨rfl, hrest⟩ := List.cons.inj htext
          obtain ⟨before', after', rfl, hbefore, hafter⟩ := ih hrest
          exact ⟨e :: before', after', rfl, keep e hbefore, hafter⟩
  | @swap b d u v hb hd h ih =>
      cases before with
      | nil => exact absurd (List.cons.inj htext).1.symm (hne hb)
      | cons e before =>
          obtain ⟨rfl, hrest⟩ := List.cons.inj htext
          obtain ⟨before', after', rfl, hbefore, hafter⟩ := ih hrest
          exact ⟨d :: before', after', rfl, swap hb hd hbefore, hafter⟩
  | @left b d u v hb hd h ih =>
      cases before with
      | nil => exact absurd (List.cons.inj htext).1.symm (hne hb)
      | cons e before =>
          obtain ⟨rfl, hrest⟩ := List.cons.inj htext
          cases before with
          | nil => exact absurd (List.cons.inj hrest).1.symm (hne hd)
          | cons f before =>
              obtain ⟨rfl, rfl⟩ := List.cons.inj hrest
              have hone : e :: before ++ c :: after = e :: (before ++ c :: after) := rfl
              obtain ⟨before', after', rfl, hbefore, hafter⟩ := ih hone
              exact ⟨before', after', rfl, left hb hd hbefore, hafter⟩
  | @right b d u v hb hd h ih =>
      obtain ⟨before', after', hv, hbefore, hafter⟩ := ih htext
      cases before' with
      | nil => exact absurd (List.cons.inj hv).1 (hne hb)
      | cons e before' =>
          obtain ⟨rfl, rfl⟩ := List.cons.inj hv
          exact ⟨b :: d :: before', after', rfl, right hb hd hbefore, hafter⟩

/-! ## Small forms -/

theorem startsCased_eq (h : Respaced u v) : startsCased u = startsCased v := by
  induction h with
  | nil => rfl
  | keep c _ ih => rw [startsCased, startsCased, ih]
  | swap hb hd _ ih => rw [startsCased_of_blank hb, startsCased_of_blank hd]
  | left hb hd _ ih => rw [← ih, startsCased_of_blank hb, startsCased_of_blank hb]
  | right hb hd _ ih => rw [ih, startsCased_of_blank hb, startsCased_of_blank hb]

theorem lowerAfter (h : Respaced u v) (cased : Bool) :
    Respaced (Text.lowerAfter cased u) (Text.lowerAfter cased v) := by
  induction h generalizing cased with
  | nil => exact nil
  | keep c h ih =>
      -- the character becomes the same in both, since what follows it starts alike
      rw [Text.lowerAfter, Text.lowerAfter, h.startsCased_eq]
      exact (refl _).append (ih _)
  | swap hb hd _ ih =>
      rw [lowerAfter_of_blank hb, lowerAfter_of_blank hd]
      exact swap hb hd (ih false)
  | left hb hd _ ih =>
      have hrest := ih cased
      rw [lowerAfter_of_blank hb] at hrest
      rw [lowerAfter_of_blank hb, Text.lower, lowerAfter_of_blank hd]
      exact left hb hd hrest
  | right hb hd _ ih =>
      have hrest := ih cased
      rw [lowerAfter_of_blank hb] at hrest
      rw [lowerAfter_of_blank hb, Text.lower, lowerAfter_of_blank hd]
      exact right hb hd hrest

/-- The small forms of texts spaced alike are spaced alike. -/
theorem lower (h : Respaced u v) : Respaced (Text.lower u) (Text.lower v) := h.lowerAfter false

end Respaced

/-! ## Words and ends are enough -/

theorem trails_cons {rest : List Char} (h : rest ≠ []) (c : Char) :
    trails (c :: rest) = trails rest := by
  cases rest with
  | nil => exact absurd rfl h
  | cons d rest => rw [trails, trails, List.getLast?_cons_cons]

/-- Only a text of blanks has no words, and it has one in front. -/
theorem eq_nil_of_words {text : List Char} (hwords : words text = []) (h : leads text = false) :
    text = [] := by
  cases text with
  | nil => rfl
  | cons c rest =>
      obtain ⟨word, more, hword⟩ := exists_words (c := c) h rest
      exact absurd (hword.symm.trans hwords) (by simp)

/-- And one at the end. -/
theorem trails_of_words {text : List Char} (hwords : words text = []) (hne : text ≠ []) :
    trails text = true := by
  have hsplit := List.dropLast_concat_getLast hne
  cases hc : isBlank (text.getLast hne) with
  | true =>
      rw [trails, List.getLast?_eq_some_getLast hne]
      exact hc
  | false =>
      obtain ⟨before, word, hword⟩ := words_concat hc text.dropLast
      rw [hsplit, hwords] at hword
      exact absurd hword (by simp)

/-- The first word begins with the first character. -/
theorem exists_words_cons {c : Char} (hc : isBlank c = false) (rest : List Char) :
    ∃ tail more, words (c :: rest) = (c :: tail) :: more := by
  obtain ⟨word, more, hword⟩ := exists_words hc rest
  have hmem : word ∈ words (c :: rest) := by
    rw [hword]
    exact List.mem_cons_self
  obtain ⟨d, tail, rfl⟩ := List.exists_cons_of_ne_nil (of_mem_words hmem).1
  obtain ⟨rfl, -⟩ := List.cons_prefix_cons.mp (head_words hc rest hword)
  exact ⟨tail, more, hword⟩

/-- The words after a character and those with it tell the same. -/
theorem words_of_words_cons {c : Char} (hc : isBlank c = false) {u v : List Char}
    (h : words (c :: u) = words (c :: v)) : words u = words v ∧ (Apart u → Apart v) := by
  -- a character alone is a shorter word than one with something after it
  have hlonger : ∀ {x y : List Char}, Apart x → ¬ Apart y → words (c :: x) ≠ words (c :: y) := by
    intro x y hx hy heq
    obtain ⟨d, y, rfl, hd⟩ := exists_cons_of_not_apart hy
    obtain ⟨tail, more, hword⟩ := exists_words_cons hd y
    rw [words_cons_of_apart hc hx, words_cons_cons hc hd y hword] at heq
    exact absurd (List.cons.inj heq).1 (by simp)
  by_cases hu : Apart u
  · have hv : Apart v := by
      by_contra hv
      exact hlonger hu hv h
    rw [words_cons_of_apart hc hu, words_cons_of_apart hc hv] at h
    exact ⟨(List.cons.inj h).2, fun _ => hv⟩
  · have hv : ¬ Apart v := fun hv => hlonger hv hu h.symm
    obtain ⟨d, u, rfl, hd⟩ := exists_cons_of_not_apart hu
    obtain ⟨e, v, rfl, he⟩ := exists_cons_of_not_apart hv
    obtain ⟨word, more, hword⟩ := exists_words hd u
    obtain ⟨word', more', hword'⟩ := exists_words he v
    rw [words_cons_cons hc hd u hword, words_cons_cons hc he v hword'] at h
    obtain ⟨hfirst, rfl⟩ := List.cons.inj h
    obtain ⟨-, rfl⟩ := List.cons.inj hfirst
    exact ⟨hword.trans hword'.symm, fun habs => absurd habs hu⟩

theorem exists_cons_of_leads {text : List Char} (h : leads text = true) :
    ∃ b rest, text = b :: rest ∧ isBlank b = true := by
  cases text with
  | nil => exact absurd h (by decide)
  | cons b rest => exact ⟨b, rest, rfl, h⟩

namespace SameWords

variable {u v : List Char}

theorem symm (h : SameWords u v) : SameWords v u := ⟨h.words.symm, h.leads.symm, h.trails.symm⟩

theorem eq_nil (h : SameWords [] v) : v = [] := eq_nil_of_words h.words.symm h.leads.symm

/-- What follows a first character has the same words and ends if it begins alike. -/
theorem of_cons {c d : Char} (hwords : Text.words u = Text.words v)
    (hleads : Text.leads u = Text.leads v) (htrails : Text.trails (c :: u) = Text.trails (d :: v)) :
    SameWords u v := by
  by_cases hu : u = []
  · subst hu
    have hv : v = [] := eq_nil_of_words hwords.symm hleads.symm
    subst hv
    exact ⟨rfl, rfl, rfl⟩
  · have hv : v ≠ [] := by
      rintro rfl
      exact hu (eq_nil_of_words hwords hleads)
    rw [trails_cons hu, trails_cons hv] at htrails
    exact ⟨hwords, hleads, htrails⟩

/-- After a character of a word, a blank comes in both or in neither. -/
theorem leads_of_leads {c : Char} (hc : isBlank c = false)
    (h : SameWords (c :: u) (c :: v)) (hu : Text.leads u = true) : Text.leads v = true := by
  obtain ⟨hwords, hapart⟩ := words_of_words_cons hc h.words
  obtain ⟨b, u, rfl, hb⟩ := exists_cons_of_leads hu
  have hv : Apart v := hapart (apart_cons hb u)
  cases v with
  | cons d v => exact hv d rfl
  | nil =>
      -- then the other text would go on with blanks to its end
      have hend : Text.trails (b :: u) = true := trails_of_words hwords (by simp)
      have htrails := h.trails
      rw [trails_cons (by simp), hend] at htrails
      exact absurd (htrails.trans hc) (by simp)

/-- A character of a word is the same in both. -/
theorem exists_of_solid {c : Char} (hc : isBlank c = false) (h : SameWords (c :: u) v) :
    ∃ rest, v = c :: rest ∧ SameWords u rest := by
  obtain ⟨tail, more, hword⟩ := exists_words_cons hc u
  cases v with
  | nil => exact absurd (h.symm.eq_nil) (by simp)
  | cons d v =>
      have hd : isBlank d = false := h.leads.symm.trans hc
      obtain ⟨tail', more', hword'⟩ := exists_words_cons hd v
      have hwords := h.words
      rw [hword, hword'] at hwords
      obtain ⟨rfl, -⟩ := List.cons.inj (List.cons.inj hwords).1
      have hleads : Text.leads u = Text.leads v :=
        Bool.eq_iff_iff.mpr ⟨leads_of_leads hc h, leads_of_leads hc h.symm⟩
      exact ⟨v, rfl, of_cons (words_of_words_cons hc h.words).1 hleads h.trails⟩

/-- A second blank may be left out. -/
theorem drop_blank {b d : Char} (hb : isBlank b = true) (hd : isBlank d = true)
    (h : SameWords (b :: d :: u) v) : SameWords (b :: u) v := by
  refine ⟨?_, h.leads, ?_⟩
  · rw [words_of_blank hb, ← h.words, words_of_blank hb, words_of_blank hd]
  · rw [← h.trails]
    by_cases hu : u = []
    · subst hu
      exact hb.trans hd.symm
    · rw [trails_cons hu, trails_cons (List.cons_ne_nil d u), trails_cons hu]

/-- **Words and ends are enough.** Texts with the same words, and with blanks at their two ends in
both or in neither, are spaced alike. -/
theorem respaced (h : SameWords u v) : Respaced u v := by
  -- on both lengths, since a blank may be one too many on either side
  induction hn : u.length + v.length using Nat.strongRecOn generalizing u v with
  | ind n ih =>
    cases u with
    | nil =>
        rw [h.eq_nil]
        exact .nil
    | cons c u =>
      cases hc : isBlank c with
      | false =>
          obtain ⟨rest, rfl, hrest⟩ := h.exists_of_solid hc
          exact .keep c (ih _ (by simp at hn; omega) hrest rfl)
      | true =>
          obtain ⟨d, v, rfl, hd⟩ := exists_cons_of_leads (h.leads.symm.trans hc)
          have hwords : Text.words u = Text.words v := by
            have hall := h.words
            rwa [words_of_blank hc, words_of_blank hd] at hall
          by_cases hleads : Text.leads u = Text.leads v
          · have hrest : SameWords u v := of_cons hwords hleads h.trails
            exact .swap hc hd (ih _ (by simp at hn; omega) hrest rfl)
          · cases hu : Text.leads u with
            | true =>
                obtain ⟨e, u, rfl, he⟩ := exists_cons_of_leads hu
                have hrest : SameWords (c :: u) (d :: v) := h.drop_blank hc he
                exact .left hc he (ih _ (by simp at hn ⊢; omega) hrest rfl)
            | false =>
                have hv : Text.leads v = true := by
                  rw [hu] at hleads
                  simpa using hleads
                obtain ⟨e, v, rfl, he⟩ := exists_cons_of_leads hv
                have hrest : SameWords (c :: u) (d :: v) := (h.symm.drop_blank hd he).symm
                exact .right hd he (ih _ (by simp at hn ⊢; omega) hrest rfl)

end SameWords

end RowGuard.Text
