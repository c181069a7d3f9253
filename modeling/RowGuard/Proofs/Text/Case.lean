import Mathlib.Data.List.Infix
import Mathlib.Tactic.Common
import RowGuard.Text.Case

/-!
# Small letters stay small

Three facts about the small form of a text. Taking it twice is taking it once. Parentheses are
their own small form and no other character has one in its small form. And the sigma rule, the only
one that looks at neighbours, never looks past a character that is neither a letter nor looked
through, so a text may be cut there before its small form is taken.

The first rests on the table: what a run of small forms covers, no run takes as a capital. That is
checked run against run, over the letters of ASCII and `İ` as well.
-/

namespace RowGuard.Text

/-! ## The table -/

namespace Shift

/-- Whether a run takes `n` somewhere. -/
def Takes (r : Shift) (n : Nat) : Prop := r.first ≤ n ∧ n ≤ r.last ∧ (n - r.first) % r.step = 0

/-- A sign that nothing to which `s` leads is taken by `r`: the images of `s` lie to one side of
`r`, or both advance by steps that keep them apart. -/
def avoids (s r : Shift) : Bool :=
  Nat.blt (s.image + (s.last - s.first)) r.first || Nat.blt r.last s.image ||
    ((Nat.beq s.first s.last || Nat.beq (s.step % r.step) 0) &&
      !Nat.beq (s.image % r.step) (r.first % r.step))

theorem not_takes_of_avoids {s r : Shift} (h : s.avoids r = true) {n : Nat} (hn : s.Takes n) :
    ¬ r.Takes (s.image + (n - s.first)) := by
  obtain ⟨hlo, hhi, hstep⟩ := hn
  rintro ⟨rlo, rhi, rstep⟩
  simp only [avoids, Bool.or_eq_true, Bool.and_eq_true, Nat.blt_eq, Nat.beq_eq,
    Bool.not_eq_true'] at h
  rcases h with (h | h) | ⟨hsame, hne⟩
  · omega
  · omega
  · -- both residues would be that of the image
    have hd : r.step ∣ n - s.first := by
      rcases hsame with heq | hdvd
      · have : n - s.first = 0 := by omega
        rw [this]; exact Nat.dvd_zero _
      · exact Nat.dvd_trans (Nat.dvd_of_mod_eq_zero hdvd) (Nat.dvd_of_mod_eq_zero hstep)
    have h1 : (s.image + (n - s.first)) % r.step = s.image % r.step := by
      rw [Nat.add_mod, Nat.mod_eq_zero_of_dvd hd, Nat.add_zero, Nat.mod_mod]
    have h2 : (s.image + (n - s.first)) % r.step = r.first % r.step := by
      conv_lhs => rw [← Nat.sub_add_cancel rlo]
      rw [Nat.add_mod, rstep, Nat.zero_add, Nat.mod_mod]
    rw [← h1, h2, Nat.beq_refl] at hne
    exact Bool.noConfusion hne

theorem apply_eq_self {n : Nat} {table : List Shift} (h : ∀ r ∈ table, ¬ r.Takes n) :
    apply n table = n := by
  induction table with
  | nil => rfl
  | cons r rest ih =>
      rw [apply]
      split
      · rfl
      · rename_i hlo
        split
        · rename_i hhi
          rw [Bool.and_eq_true, decide_eq_true_eq, beq_iff_eq] at hhi
          exact absurd ⟨by omega, hhi.1, hhi.2⟩ (h r List.mem_cons_self)
        · exact ih (fun q hq => h q (List.mem_cons_of_mem r hq))

theorem apply_eq_self_or (n : Nat) (table : List Shift) :
    apply n table = n ∨ ∃ s ∈ table, s.Takes n ∧ apply n table = s.image + (n - s.first) := by
  induction table with
  | nil => exact Or.inl rfl
  | cons r rest ih =>
      rw [apply]
      split
      · exact Or.inl rfl
      · rename_i hlo
        split
        · rename_i hhi
          rw [Bool.and_eq_true, decide_eq_true_eq, beq_iff_eq] at hhi
          exact Or.inr ⟨r, List.mem_cons_self, ⟨by omega, hhi.1, hhi.2⟩, rfl⟩
        · rcases ih with h | ⟨s, hs, ht, he⟩
          · exact Or.inl h
          · exact Or.inr ⟨s, List.mem_cons_of_mem r hs, ht, he⟩

end Shift

/-- The runs of all capitals: those of ASCII, the dotted `İ`, and the table. The first two have no
image here, only the place where they stand. -/
def capitals : List Shift := ⟨0x41, 0x5A, 1, 0⟩ :: ⟨0x130, 0x130, 1, 0⟩ :: lowerShifts

/-- Whether a run leads to characters that are above the capitals of ASCII and below the surrogates,
or above those too. -/
def Shift.lands (s : Shift) : Bool :=
  Nat.blt 96 s.image && (Nat.blt (s.image + (s.last - s.first)) 0xD800 ||
    (Nat.blt 0xDFFF s.image && Nat.blt (s.image + (s.last - s.first)) 0x110000))

theorem lowerShifts_avoid : lowerShifts.all (fun s => capitals.all s.avoids) = true := by
  decide +kernel

theorem lowerShifts_land : lowerShifts.all Shift.lands = true := by
  decide +kernel

/-! ## One character -/

/-- The letters of ASCII, one by one. -/
theorem lowerChar_ascii : ∀ n < 128,
    (lowerChar (Char.ofNat n)).all
        (fun d => lowerChar d = [d] ∧ (d = Char.ofNat n ∨ 96 < d.toNat)) = true ∧
      (96 < n → lowerChar (Char.ofNat n) = [Char.ofNat n]) := by
  decide +kernel

theorem toNat_ofNat {n : Nat} (h : n.isValidChar) : (Char.ofNat n).toNat = n := by
  rw [Char.ofNat, dif_pos h]
  rfl

theorem lowerChar_of_beyond {c : Char} (h : 128 ≤ c.toNat) (hne : c ≠ 'İ') :
    lowerChar c = [Char.ofNat (Shift.apply c.toNat lowerShifts)] := by
  rw [lowerChar, if_neg (by omega), if_neg hne]

/-- A character to which a run leads is above the capitals of ASCII and its own small form. -/
theorem lowerChar_image {s : Shift} (hs : s ∈ lowerShifts) {n : Nat} (hn : s.Takes n) :
    96 < (Char.ofNat (s.image + (n - s.first))).toNat ∧
      lowerChar (Char.ofNat (s.image + (n - s.first))) =
        [Char.ofNat (s.image + (n - s.first))] := by
  have hlast : n ≤ s.last := hn.2.1
  have hland := List.all_eq_true.mp lowerShifts_land s hs
  simp only [Shift.lands, Bool.and_eq_true, Bool.or_eq_true, Nat.blt_eq] at hland
  have havoids := List.all_eq_true.mp lowerShifts_avoid s hs
  have hfree : ∀ r ∈ capitals, ¬ r.Takes (s.image + (n - s.first)) := fun r hr =>
    Shift.not_takes_of_avoids (List.all_eq_true.mp havoids r hr) hn
  generalize hm : s.image + (n - s.first) = m at *
  have hvalid : m.isValidChar := by
    rcases hland.2 with h | ⟨h1, h2⟩
    · exact Or.inl (by omega)
    · exact Or.inr ⟨by omega, by omega⟩
  have hval : (Char.ofNat m).toNat = m := toNat_ofNat hvalid
  refine ⟨by omega, ?_⟩
  by_cases hascii : m < 128
  · exact (lowerChar_ascii m hascii).2 (by omega)
  · have hne : Char.ofNat m ≠ 'İ' := by
      intro he
      rw [he] at hval
      exact hfree ⟨0x130, 0x130, 1, 0⟩ (List.mem_cons_of_mem _ List.mem_cons_self)
        (hval ▸ ⟨by decide, by decide, by decide⟩)
    rw [lowerChar_of_beyond (by omega) hne, hval, Shift.apply_eq_self]
    exact fun r hr => hfree r (List.mem_cons_of_mem _ (List.mem_cons_of_mem _ hr))

/-- The small form of a character consists of small characters. Those that are not the character
itself are above the capitals of ASCII. -/
theorem of_mem_lowerChar {c d : Char} (h : d ∈ lowerChar c) :
    lowerChar d = [d] ∧ (d = c ∨ 96 < d.toNat) := by
  by_cases hascii : c.toNat < 128
  · have hall := (lowerChar_ascii c.toNat hascii).1
    rw [Char.ofNat_toNat] at hall
    exact of_decide_eq_true (List.all_eq_true.mp hall d h)
  · by_cases hdot : c = 'İ'
    · have hboth : (lowerChar 'İ').all (fun d => lowerChar d = [d] ∧ 96 < d.toNat) = true := by
        decide +kernel
      rw [hdot] at h
      have hd := of_decide_eq_true (List.all_eq_true.mp hboth d h)
      exact ⟨hd.1, Or.inr hd.2⟩
    · have hlow := lowerChar_of_beyond (by omega) hdot
      rcases Shift.apply_eq_self_or c.toNat lowerShifts with hself | ⟨s, hs, hn, himage⟩
      · rw [hself, Char.ofNat_toNat] at hlow
        rw [hlow, List.mem_singleton] at h
        rw [h]
        exact ⟨hlow, Or.inl rfl⟩
      · rw [himage] at hlow
        rw [hlow, List.mem_singleton] at h
        rw [h]
        exact ⟨(lowerChar_image hs hn).2, Or.inr (lowerChar_image hs hn).1⟩

/-! ## Texts -/

/-- A character that is its own small form. The capital sigma is none, whatever stands around it. -/
def IsSmall (c : Char) : Prop := lowerChar c = [c]

instance (c : Char) : Decidable (IsSmall c) := inferInstanceAs (Decidable (_ = _))

theorem isSmall_of_mem_lowerAfter {cased : Bool} {text : List Char} {d : Char}
    (h : d ∈ lowerAfter cased text) : IsSmall d := by
  induction text generalizing cased with
  | nil => exact absurd h (by simp [lowerAfter])
  | cons c rest ih =>
      rw [lowerAfter, List.mem_append] at h
      rcases h with h | h
      · split at h
        · have hsigma : IsSmall 'ς' ∧ IsSmall 'σ' := by unfold IsSmall; decide
          rw [List.mem_singleton] at h
          rw [h]
          split
          · exact hsigma.1
          · exact hsigma.2
        · exact (of_mem_lowerChar h).1
      · exact ih h

theorem lowerAfter_of_small {cased : Bool} {text : List Char} (h : ∀ c ∈ text, IsSmall c) :
    lowerAfter cased text = text := by
  induction text generalizing cased with
  | nil => rfl
  | cons c rest ih =>
      have hc : lowerChar c = [c] := h c List.mem_cons_self
      have hne : c ≠ 'Σ' := by
        intro he
        rw [he] at hc
        exact absurd hc (by decide)
      rw [lowerAfter, if_neg hne, hc, ih (fun d hd => h d (List.mem_cons_of_mem c hd))]
      rfl

/-- Characters from a small form, put together anyhow, are a small form. -/
theorem lower_of_subset {part text : List Char} (h : part ⊆ lower text) : lower part = part :=
  lowerAfter_of_small fun _ hc => isSmall_of_mem_lowerAfter (h hc)

/-- The small form of a text is its own small form. -/
theorem lower_lower (text : List Char) : lower (lower text) = lower text :=
  lower_of_subset (List.Subset.refl _)

/-! ## The sigmas -/

/-- The first character of a text becomes its small form, or a sigma the one that ends words. -/
theorem lowerAfter_cons (cased : Bool) (c : Char) (rest : List Char) :
    ∃ image next, lowerAfter cased (c :: rest) = image ++ lowerAfter next rest ∧
      (image = lowerChar c ∨ (c = 'Σ' ∧ image = ['ς'])) := by
  refine ⟨_, _, by rw [lowerAfter], ?_⟩
  by_cases hsigma : c = 'Σ'
  · rw [if_pos hsigma]
    split
    · exact Or.inr ⟨hsigma, rfl⟩
    · exact Or.inl (by rw [hsigma]; decide)
  · rw [if_neg hsigma]
    exact Or.inl rfl

/-- The two small sigmas taken as one. -/
def oneSigma (c : Char) : Char := if c = 'ς' then 'σ' else c

/-- But for its sigmas the small form goes character by character. -/
theorem map_oneSigma_image {c : Char} {image : List Char}
    (h : image = lowerChar c ∨ (c = 'Σ' ∧ image = ['ς'])) :
    image.map oneSigma = (lowerChar c).map oneSigma := by
  rcases h with rfl | ⟨rfl, rfl⟩
  · rfl
  · decide

theorem map_oneSigma_lowerAfter (cased : Bool) (text : List Char) :
    (lowerAfter cased text).map oneSigma = text.flatMap fun c => (lowerChar c).map oneSigma := by
  induction text generalizing cased with
  | nil => rfl
  | cons c rest ih =>
      obtain ⟨image, next, heq, himage⟩ := lowerAfter_cons cased c rest
      rw [heq, List.map_append, map_oneSigma_image himage, ih, List.flatMap_cons]

/-- Where no sigma stands the difference is none. -/
theorem map_oneSigma_eq_iff {pattern : List Char} (h : 'σ' ∉ pattern ∧ 'ς' ∉ pattern)
    (part : List Char) : part.map oneSigma = pattern ↔ part = pattern := by
  constructor
  · intro hpart
    rw [← hpart]
    refine (List.map_id' part).symm.trans (List.map_congr_left fun c hc => ?_)
    have hmem : oneSigma c ∈ pattern := hpart ▸ List.mem_map_of_mem hc
    by_cases hs : c = 'ς'
    · rw [oneSigma, if_pos hs] at hmem
      exact absurd hmem h.1
    · rw [oneSigma, if_neg hs]
  · rintro rfl
    refine (List.map_congr_left fun c hc => ?_).trans (List.map_id' part)
    have hne : c ≠ 'ς' := fun hs => h.2 (hs ▸ hc)
    rw [oneSigma, if_neg hne]

/-- A pattern without sigmas does not see the difference. -/
theorem infix_map_oneSigma {pattern : List Char} (h : 'σ' ∉ pattern ∧ 'ς' ∉ pattern)
    (text : List Char) : pattern <:+: text.map oneSigma ↔ pattern <:+: text := by
  constructor
  · rintro ⟨pre, post, heq⟩
    obtain ⟨front, back, rfl, hfront, -⟩ := List.append_eq_map_iff.mp heq
    obtain ⟨before, part, rfl, -, hpart⟩ := List.append_eq_map_iff.mp hfront.symm
    exact ⟨before, back, by rw [← (map_oneSigma_eq_iff h part).mp hpart]⟩
  · rintro ⟨pre, post, rfl⟩
    refine ⟨pre.map oneSigma, post.map oneSigma, ?_⟩
    rw [List.map_append, List.map_append, (map_oneSigma_eq_iff h pattern).mpr rfl]

theorem prefix_map_oneSigma {pattern : List Char} (h : 'σ' ∉ pattern ∧ 'ς' ∉ pattern)
    (text : List Char) : pattern <+: text.map oneSigma ↔ pattern <+: text := by
  rw [List.prefix_iff_eq_take, List.prefix_iff_eq_take, ← List.map_take, eq_comm,
    map_oneSigma_eq_iff h, eq_comm]

/-- Nor does it see whether a letter stands before the text. -/
theorem prefix_lowerAfter {pattern : List Char} (h : 'σ' ∉ pattern ∧ 'ς' ∉ pattern) (cased : Bool)
    (text : List Char) : pattern <+: lowerAfter cased text ↔ pattern <+: lower text := by
  rw [← prefix_map_oneSigma h, map_oneSigma_lowerAfter, ← map_oneSigma_lowerAfter false,
    prefix_map_oneSigma h, lower]

/-! ## Where a text may be cut -/

/-- Whether a character is neither a letter nor looked through by the sigma rule. -/
def isBarrier (c : Char) : Bool := !isCaseIgnorable c && !isCased c

theorem startsCased_append {c : Char} (hc : isBarrier c = true) (text rest : List Char) :
    startsCased (text ++ c :: rest) = startsCased text := by
  rw [isBarrier, Bool.and_eq_true, Bool.not_eq_true', Bool.not_eq_true'] at hc
  induction text with
  | nil =>
      show startsCased (c :: rest) = false
      rw [startsCased, if_neg (by rw [hc.1]; decide), hc.2]
  | cons d text ih => rw [List.cons_append, startsCased, startsCased, ih]

/-- Taking the small form goes by parts, where a barrier parts the text. -/
theorem lowerAfter_append {c : Char} (hc : isBarrier c = true) (cased : Bool)
    (text rest : List Char) :
    lowerAfter cased (text ++ c :: rest) =
      lowerAfter cased text ++ (lowerChar c ++ lower rest) := by
  induction text generalizing cased with
  | nil =>
      have hne : c ≠ 'Σ' := by
        intro he
        rw [he] at hc
        exact absurd hc (by decide)
      rw [isBarrier, Bool.and_eq_true, Bool.not_eq_true', Bool.not_eq_true'] at hc
      rw [List.nil_append, lowerAfter, lowerAfter, if_neg hne, if_neg (by rw [hc.1]; decide), hc.2]
      rfl
  | cons d text ih =>
      rw [List.cons_append, lowerAfter, lowerAfter, ih, startsCased_append hc, List.append_assoc]

theorem lower_append {c : Char} (hc : isBarrier c = true) (text rest : List Char) :
    lower (text ++ c :: rest) = lower text ++ (lowerChar c ++ lower rest) :=
  lowerAfter_append hc false text rest

end RowGuard.Text
