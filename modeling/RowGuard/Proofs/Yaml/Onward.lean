import Mathlib.Logic.Basic
import RowGuard.Yaml.Scan

/-!
# Every token gets further

Whatever reads a document leaves off where it began or further on. A token has at least the
character it begins with, so where `n` characters are left of a text a scan comes to its end within
`n + 1` tokens, and what bounds its steps never cuts it short.
-/

namespace RowGuard.Yaml

/-! ## Places -/

namespace Position

/-- The place `q` is `p`, or comes after it. -/
def Onward (p q : Position) : Prop := q.rest <:+ p.rest

theorem Onward.refl (p : Position) : p.Onward p := List.suffix_refl _

theorem Onward.trans {p q r : Position} (h : p.Onward q) (h' : q.Onward r) : p.Onward r :=
  List.IsSuffix.trans h' h

theorem Onward.length_le {p q : Position} (h : p.Onward q) : q.rest.length ≤ p.rest.length :=
  List.IsSuffix.length_le h

@[simp] theorem rest_next (p : Position) : p.next.rest = p.rest.tail := by
  unfold next
  split
  · rename_i h
    rw [h]
    rfl
  · rename_i c rest h
    rw [h]
    split <;> rfl

@[simp] theorem rest_skip (p : Position) (n : Nat) : (p.skip n).rest = p.rest.drop n := by
  induction n generalizing p with
  | zero => rfl
  | succ n ih => rw [skip, ih, rest_next, List.drop_tail]

variable (p : Position)

theorem onward_next : p.Onward p.next := by
  unfold Onward
  rw [rest_next]
  exact List.tail_suffix _

theorem onward_skip (n : Nat) : p.Onward (p.skip n) := by
  unfold Onward
  rw [rest_skip]
  exact List.drop_suffix _ _

theorem onward_span (test : Char → Bool) : p.Onward (p.span test).2 := onward_skip ..

theorem onward_past (test : Char → Bool) : p.Onward (p.past test) := onward_skip ..

theorem onward_pastComment : p.Onward p.pastComment := by
  unfold pastComment
  split
  · exact onward_past ..
  · exact Onward.refl p

variable {p}

theorem length_lt_of_onward_next {q : Position} (h : p.next.Onward q) (hne : p.rest ≠ []) :
    q.rest.length < p.rest.length := by
  have hle := h.length_le
  have hpos := List.length_pos_iff.mpr hne
  rw [rest_next, List.length_tail] at hle
  omega

/-- A line break is one character or two. -/
theorem exists_skip_of_break? {c : Char} {after : Position} (h : p.break? = some (c, after)) :
    p.rest ≠ [] ∧ ∃ n, after = p.skip (n + 1) := by
  unfold break? at h
  split at h
  · rename_i rest hrest
    rw [hrest]
    exact ⟨List.cons_ne_nil _ _, 1, (Prod.mk.inj (Option.some.inj h)).2.symm⟩
  · rename_i d rest _ hrest
    rw [hrest]
    refine ⟨List.cons_ne_nil _ _, 0, ?_⟩
    split at h
    · exact (Prod.mk.inj (Option.some.inj h)).2.symm
    · split at h
      · exact (Prod.mk.inj (Option.some.inj h)).2.symm
      · cases h
  · cases h

theorem onward_break? {c : Char} {after : Position} (h : p.break? = some (c, after)) :
    p.Onward after := by
  obtain ⟨-, n, rfl⟩ := exists_skip_of_break? h
  exact onward_skip p (n + 1)

theorem length_break?_lt {c : Char} {after : Position} (h : p.break? = some (c, after)) :
    after.rest.length < p.rest.length := by
  obtain ⟨hne, n, rfl⟩ := exists_skip_of_break? h
  exact length_lt_of_onward_next (onward_skip p.next n) hne

end Position

open Position

theorem exists_of_bind_eq_ok {α β : Type} {x : Except Error α} {f : α → Except Error β} {r : β}
    (h : x >>= f = .ok r) : ∃ a, x = .ok a ∧ f a = .ok r := by
  cases x with
  | error e => cases h
  | ok a => exact ⟨a, rfl, h⟩

/-- What counts only if the character behind it passes a test ends there. -/
theorem of_counted {α : Type} {test : Char → Bool} {found x : α} {after q : Position}
    (h : (if after.peek.all test then .ok (found, after) else .error Error.malformed :
      Except Error (α × Position)) = .ok (x, q)) : after = q := by
  split at h
  · cases h
    rfl
  · cases h

/-! ## Scalars -/

theorem onward_emptyLines (fuel : Nat) (p : Position) : p.Onward (emptyLines fuel p).2.1 := by
  induction fuel generalizing p with
  | zero => exact Onward.refl p
  | succ fuel ih =>
      unfold emptyLines
      have hpast := onward_past p (· = ' ')
      cases hbreak : (p.past (· = ' ')).break? with
      | none => simpa only [hbreak] using hpast
      | some b =>
          have hafter := hpast.trans (onward_break? hbreak)
          simp only [hbreak]
          split
          · exact hafter
          · exact hafter.trans (ih b.2)

theorem onward_plainGap (p : Position) : p.Onward (plainGap p).2.1 := by
  unfold plainGap
  have hspan := onward_span p (· = ' ')
  cases hbreak : (p.span (· = ' ')).2.break? with
  | none => simpa only [hbreak] using hspan
  | some b =>
      have hafter := hspan.trans (onward_break? hbreak)
      have hlines := hafter.trans (onward_emptyLines b.2.rest.length b.2)
      simp only [hbreak]
      split
      · exact hafter
      · rcases hread : emptyLines b.2.rest.length b.2 with ⟨more, last, separated⟩
        rw [hread] at hlines
        cases separated <;> exact hlines

theorem onward_plainFrom (inFlow : Bool) (indent : Int) (gap : List Char) (ended : Bool)
    (fuel : Nat) (p : Position) : p.Onward (plainFrom inFlow indent gap ended fuel p).2.1 := by
  induction fuel generalizing gap ended p with
  | zero => exact Onward.refl p
  | succ fuel ih =>
      unfold plainFrom
      generalize (if p.peek = some '#' then 0 else plainLength inFlow p.rest) = n
      have hgap := (onward_skip p n).trans (onward_plainGap (p.skip n))
      dsimp only
      split
      · exact Onward.refl p
      · split
        · exact hgap
        · exact hgap.trans (ih ..)

/-- What may begin a plain text does not end it. -/
theorem endsPlain_of_startsPlain {inFlow : Bool} {c : Char} {ahead : Option Char}
    (h : Scan.startsPlain inFlow c ahead = true) : endsPlain inFlow c ahead = false := by
  unfold Scan.startsPlain at h
  unfold endsPlain
  simp only [Bool.or_eq_true, Bool.and_eq_true, Bool.not_eq_true', Bool.or_eq_false_iff,
    decide_eq_true_eq] at h
  rcases h with ⟨⟨hmark, hspace⟩, hbreak⟩ | ⟨hahead, rfl | ⟨hflow, rfl | rfl⟩⟩
  · simp at hmark
    simp [hspace, hbreak, hmark]
  · simp [isBreak, isSpace]
  · simp [isBreak, isSpace, hflow]
  · simp [isBreak, isSpace, hflow, hahead]

/-- Nor is it a comment. -/
theorem ne_hash_of_startsPlain {inFlow : Bool} {c : Char} {ahead : Option Char}
    (h : Scan.startsPlain inFlow c ahead = true) : c ≠ '#' := by
  rintro rfl
  revert h
  cases inFlow <;> simp [Scan.startsPlain]

/-- A plain text has at least the character it begins with. -/
theorem onward_plain {inFlow : Bool} {indent : Int} {p : Position} {c : Char}
    (hc : p.peek = some c) (h : Scan.startsPlain inFlow c (p.peek 1) = true) :
    p.next.Onward (plain inFlow indent p).2.1 := by
  obtain ⟨rest, hrest⟩ : ∃ rest, p.rest = c :: rest := by
    cases hp : p.rest with
    | nil =>
        rw [peek, hp] at hc
        cases hc
    | cons d rest =>
        rw [peek, hp] at hc
        obtain rfl := Option.some.inj hc
        exact ⟨rest, rfl⟩
  have hahead : p.peek 1 = rest.head? := by
    rw [peek, hrest]
    cases rest <;> rfl
  rw [hahead] at h
  have hlength : plainLength inFlow p.rest = plainLength inFlow rest + 1 := by
    rw [hrest, plainLength, if_neg (ne_true_of_eq_false (endsPlain_of_startsPlain h))]
  have hcomment : ¬p.peek = some '#' := by
    rw [hc]
    exact fun heq => ne_hash_of_startsPlain h (Option.some.inj heq)
  have hgap := (onward_skip p.next (plainLength inFlow rest)).trans
    (onward_plainGap (p.skip (plainLength inFlow rest + 1)))
  have hfuel : p.rest.length = rest.length + 1 := by
    rw [hrest]
    rfl
  unfold plain
  rw [hfuel]
  unfold plainFrom
  rw [if_neg hcomment, hlength]
  dsimp only
  rw [if_neg (Nat.succ_ne_zero _)]
  split
  · exact hgap
  · exact hgap.trans (onward_plainFrom ..)

theorem onward_numbered {n : Nat} {p q : Position} {x : Char}
    (h : numbered n p = .ok (x, q)) : p.Onward q := by
  unfold numbered at h
  split at h
  · cases h
  · split at h
    · cases h
    · split at h
      · split at h
        · split at h
          · split at h
            · obtain ⟨-, rfl⟩ := Prod.mk.inj (Except.ok.inj h)
              exact onward_skip p 6
            · cases h
              exact Onward.refl p
          · cases h
            exact Onward.refl p
        · cases h
          exact Onward.refl p
      · split at h
        · cases h
          exact Onward.refl p
        · cases h
          exact Onward.refl p

theorem onward_quotedBreaks {fuel : Nat} {p q : Position} {x : List Char}
    (h : quotedBreaks fuel p = .ok (x, q)) : p.Onward q := by
  induction fuel generalizing p x q with
  | zero =>
      cases h
      exact Onward.refl p
  | succ fuel ih =>
      unfold quotedBreaks at h
      split at h
      · cases h
      · have hpast := onward_past p isSpace
        cases hbreak : (p.past isSpace).break? with
        | none =>
            simp only [hbreak] at h
            cases h
            exact hpast
        | some b =>
            simp only [hbreak] at h
            obtain ⟨⟨more, last⟩, hmore, h⟩ := exists_of_bind_eq_ok h
            cases h
            exact (hpast.trans (onward_break? hbreak)).trans (ih hmore)

theorem onward_escape {p q : Position} {x : List Char} (h : escape p = .ok (x, q)) :
    p.Onward q := by
  have hnext := onward_next p
  unfold escape at h
  cases hpeek : p.next.peek with
  | none =>
      simp only [hpeek] at h
      cases h
  | some c =>
      simp only [hpeek] at h
      split at h
      · cases h
        exact hnext.trans (onward_next _)
      · split at h
        · cases h
        · obtain ⟨⟨image, last⟩, himage, h⟩ := exists_of_bind_eq_ok h
          cases h
          exact (hnext.trans (onward_skip ..)).trans (onward_numbered himage)
      · cases hbreak : p.next.break? with
        | none =>
            simp only [hbreak] at h
            cases h
        | some b =>
            simp only [hbreak] at h
            exact (hnext.trans (onward_break? hbreak)).trans (onward_quotedBreaks h)

theorem onward_quotedGap {p q : Position} {x : List Char} (h : quotedGap p = .ok (x, q)) :
    p.Onward q := by
  have hspan := onward_span p isSpace
  unfold quotedGap at h
  cases hbreak : (p.span isSpace).2.break? with
  | none =>
      simp only [hbreak] at h
      split at h
      · cases h
      · cases h
        exact hspan
  | some b =>
      simp only [hbreak] at h
      obtain ⟨⟨more, last⟩, hmore, h⟩ := exists_of_bind_eq_ok h
      cases h
      exact (hspan.trans (onward_break? hbreak)).trans (onward_quotedBreaks hmore)

theorem onward_quotedFrom {quote : Char} {fuel : Nat} {p q : Position} {x : List Char}
    (h : quotedFrom quote fuel p = .ok (x, q)) : p.Onward q := by
  induction fuel generalizing p x q with
  | zero => cases h
  | succ fuel ih =>
      unfold quotedFrom at h
      split at h
      · cases h
      · split at h
        · split at h
          · obtain ⟨⟨more, last⟩, hmore, h⟩ := exists_of_bind_eq_ok h
            cases h
            exact (onward_skip p 2).trans (ih hmore)
          · cases h
            exact onward_next p
        · split at h
          · obtain ⟨⟨piece, after⟩, hpiece, h⟩ := exists_of_bind_eq_ok h
            obtain ⟨⟨more, last⟩, hmore, h⟩ := exists_of_bind_eq_ok h
            cases h
            exact (onward_escape hpiece).trans (ih hmore)
          · split at h
            · obtain ⟨⟨piece, after⟩, hpiece, h⟩ := exists_of_bind_eq_ok h
              obtain ⟨⟨more, last⟩, hmore, h⟩ := exists_of_bind_eq_ok h
              cases h
              exact (onward_quotedGap hpiece).trans (ih hmore)
            · obtain ⟨⟨more, last⟩, hmore, h⟩ := exists_of_bind_eq_ok h
              cases h
              exact (onward_next p).trans (ih hmore)

theorem onward_quoted {quote : Char} {p q : Position} {x : List Char}
    (h : quoted quote p = .ok (x, q)) : p.next.Onward q :=
  onward_quotedFrom h

theorem onward_blockHeader {p q : Position} {x : Chomping × Option Nat}
    (h : blockHeader p = .ok (x, q)) : p.Onward q := by
  unfold blockHeader at h
  split at h
  · obtain ⟨digit, -, h⟩ := exists_of_bind_eq_ok h
    obtain rfl := of_counted h
    split
    · exact onward_skip p 2
    · exact onward_next p
  · obtain ⟨digit, -, h⟩ := exists_of_bind_eq_ok h
    split at h
    · split at h
      · obtain rfl := of_counted h
        exact onward_skip p 2
      · obtain rfl := of_counted h
        exact onward_next p
    · obtain rfl := of_counted h
      exact Onward.refl p

theorem onward_endLine {p q : Position} (h : endLine p = .ok q) : p.Onward q := by
  have hcomment := (onward_past p (· = ' ')).trans (onward_pastComment _)
  unfold endLine at h
  cases hbreak : (p.past (· = ' ')).pastComment.break? with
  | none =>
      simp only [hbreak] at h
      split at h
      · cases h
        exact hcomment
      · cases h
  | some b =>
      simp only [hbreak] at h
      cases h
      exact hcomment.trans (onward_break? hbreak)

theorem onward_leadingLines (deepest fuel : Nat) (p : Position) :
    p.Onward (leadingLines deepest fuel p).2.2 := by
  induction fuel generalizing deepest p with
  | zero => exact Onward.refl p
  | succ fuel ih =>
      unfold leadingLines
      have hpast := onward_past p (· = ' ')
      cases hbreak : (p.past (· = ' ')).break? with
      | none => simpa only [hbreak] using hpast
      | some b =>
          simp only [hbreak]
          exact (hpast.trans (onward_break? hbreak)).trans (ih ..)

theorem onward_blockBreaks (indent fuel : Nat) (p : Position) :
    p.Onward (blockBreaks indent fuel p).2 := by
  induction fuel generalizing p with
  | zero => exact Onward.refl p
  | succ fuel ih =>
      unfold blockBreaks
      have hindent : p.Onward (indentTo indent p) := onward_skip ..
      cases hbreak : (indentTo indent p).break? with
      | none => simpa only [hbreak] using hindent
      | some b =>
          simp only [hbreak]
          exact (hindent.trans (onward_break? hbreak)).trans (ih _)

/-- Past a line break if there is one. -/
theorem onward_ending {p q : Position} (h : p.Onward q)
    {f : Char × Position → List Char × Position} (hf : ∀ b, (f b).2 = b.2) :
    p.Onward ((q.break?.map f).getD ([], q)).2 := by
  cases hbreak : q.break? with
  | none => exact h
  | some b =>
      rw [Option.map_some, Option.getD_some, hf]
      exact h.trans (onward_break? hbreak)

theorem onward_blockLines (folded : Bool) (style : Chomping) (indent : Nat) (breaks : List Char)
    (fuel : Nat) (p : Position) :
    p.Onward (blockLines folded style indent breaks fuel p).2 := by
  induction fuel generalizing breaks p with
  | zero => exact Onward.refl p
  | succ fuel ih =>
      unfold blockLines
      have hline := fun f hf => onward_ending (f := f) (onward_span p fun c => !isBreak c) hf
      have hnext := fun f hf fuel => (hline f hf).trans (onward_blockBreaks indent fuel _)
      dsimp only
      split
      · exact (hnext _ (fun _ => rfl) _).trans (ih ..)
      · exact hnext _ (fun _ => rfl) _

theorem onward_block {indent : Int} {p q : Position} {x : List Char}
    (h : block indent p = .ok (x, q)) : p.next.Onward q := by
  unfold block at h
  obtain ⟨⟨⟨style, digit⟩, header⟩, hheader, h⟩ := exists_of_bind_eq_ok h
  obtain ⟨line, hline, h⟩ := exists_of_bind_eq_ok h
  have hstart := (onward_blockHeader hheader).trans (onward_endLine hline)
  dsimp only at h
  cases digit with
  | none =>
      have hlead := hstart.trans (onward_leadingLines 0 (line.rest.length + 1) line)
      dsimp only at h
      split at h
      · obtain rfl : _ = q := congrArg Prod.snd (Except.ok.inj h)
        exact hlead.trans (onward_blockLines ..)
      · obtain rfl : _ = q := congrArg Prod.snd (Except.ok.inj h)
        exact hlead
  | some n =>
      have hlead := fun indent =>
        hstart.trans (onward_blockBreaks indent (line.rest.length + 1) line)
      dsimp only at h
      split at h
      · obtain rfl : _ = q := congrArg Prod.snd (Except.ok.inj h)
        exact (hlead _).trans (onward_blockLines ..)
      · obtain rfl : _ = q := congrArg Prod.snd (Except.ok.inj h)
        exact hlead _

/-! ## Properties -/

theorem onward_word {p q : Position} {x : String} (h : word p = .ok (x, q)) : p.Onward q := by
  have hspan := onward_span p isWord
  unfold word at h
  split at h
  · cases h
  · rename_i name after _ heq
    cases h
    rw [heq] at hspan
    exact hspan

theorem onward_anchorName {p q : Position} {x : String} (h : anchorName p = .ok (x, q)) :
    p.next.Onward q := by
  unfold anchorName at h
  obtain ⟨⟨name, after⟩, hname, h⟩ := exists_of_bind_eq_ok h
  dsimp only at h
  split at h
  · cases h
    exact onward_word hname
  · cases h

theorem onward_percentBytes {fuel : Nat} {p q : Position} {x : List UInt8}
    (h : percentBytes fuel p = .ok (x, q)) : p.Onward q := by
  induction fuel generalizing p q x with
  | zero =>
      cases h
      exact Onward.refl p
  | succ fuel ih =>
      unfold percentBytes at h
      split at h
      · split at h
        · obtain ⟨⟨more, last⟩, hmore, h⟩ := exists_of_bind_eq_ok h
          cases h
          exact (onward_skip p 3).trans (ih hmore)
        · cases h
      · cases h
        exact Onward.refl p

theorem onward_tagChars {fuel : Nat} {p q : Position} {x : List Char}
    (h : tagChars fuel p = .ok (x, q)) : p.Onward q := by
  induction fuel generalizing p q x with
  | zero =>
      cases h
      exact Onward.refl p
  | succ fuel ih =>
      have hspan := onward_span p isTagChar
      unfold tagChars at h
      split at h
      · split at h
        · obtain ⟨⟨bytes, after⟩, hbytes, h⟩ := exists_of_bind_eq_ok h
          obtain ⟨text, -, h⟩ := exists_of_bind_eq_ok h
          obtain ⟨⟨more, last⟩, hmore, h⟩ := exists_of_bind_eq_ok h
          cases h
          exact (onward_percentBytes hbytes).trans (ih hmore)
        · cases h
          exact Onward.refl p
      · rename_i heq
        obtain ⟨⟨more, last⟩, hmore, h⟩ := exists_of_bind_eq_ok h
        cases h
        rw [heq] at hspan
        exact hspan.trans (ih hmore)

theorem onward_tagText {p q : Position} {x : String} (h : tagText p = .ok (x, q)) :
    p.Onward q := by
  unfold tagText at h
  split at h
  · cases h
  · obtain ⟨⟨text, after⟩, htext, h⟩ := exists_of_bind_eq_ok h
    cases h
    exact onward_tagChars htext

theorem onward_tagHandle {p q : Position} {x : String} (h : tagHandle p = .ok (x, q)) :
    p.next.Onward q := by
  unfold tagHandle at h
  split at h
  · cases h
  · split at h
    · cases h
      exact Onward.refl _
    · have hspan := onward_span p.next isWord
      dsimp only at h
      split at h
      · cases h
        exact hspan.trans (onward_next _)
      · cases h

theorem onward_tag {p q : Position} {x : Token} (h : tag p = .ok (x, q)) : p.next.Onward q := by
  have htwo : p.next.Onward (p.skip 2) := onward_next p.next
  unfold tag at h
  split at h
  · obtain ⟨⟨suffix, after⟩, hsuffix, h⟩ := exists_of_bind_eq_ok h
    dsimp only at h
    split at h
    · obtain rfl := of_counted h
      exact (htwo.trans (onward_tagText hsuffix)).trans (onward_next after)
    · cases h
  · split at h
    · obtain rfl := of_counted h
      exact Onward.refl _
    · split at h
      · obtain ⟨⟨handle, mid⟩, hhandle, h⟩ := exists_of_bind_eq_ok h
        obtain ⟨⟨suffix, after⟩, hsuffix, h⟩ := exists_of_bind_eq_ok h
        obtain rfl := of_counted h
        exact (onward_tagHandle hhandle).trans (onward_tagText hsuffix)
      · obtain ⟨⟨handle, mid⟩, hhandle, h⟩ := exists_of_bind_eq_ok h
        cases hhandle
        obtain ⟨⟨suffix, after⟩, hsuffix, h⟩ := exists_of_bind_eq_ok h
        obtain rfl := of_counted h
        exact onward_tagText hsuffix

theorem onward_number {p q : Position} {x : Nat} (h : number p = .ok (x, q)) : p.Onward q := by
  have hspan := onward_span p Char.isDigit
  unfold number at h
  split at h
  · cases h
  · rename_i heq
    cases h
    rw [heq] at hspan
    exact hspan

theorem onward_versionDirective {p q : Position} {x : Directive}
    (h : versionDirective p = .ok (x, q)) : p.Onward q := by
  unfold versionDirective at h
  obtain ⟨⟨major, mid⟩, hmajor, h⟩ := exists_of_bind_eq_ok h
  have hmid := (onward_past p (· = ' ')).trans (onward_number hmajor)
  dsimp only at h
  split at h
  · cases h
  · obtain ⟨⟨minor, last⟩, hminor, h⟩ := exists_of_bind_eq_ok h
    dsimp only at h
    split at h
    · cases h
      exact (hmid.trans (onward_next _)).trans (onward_number hminor)
    · cases h

theorem onward_tagDirective {p q : Position} {x : Directive}
    (h : tagDirective p = .ok (x, q)) : p.Onward q := by
  unfold tagDirective at h
  obtain ⟨⟨handle, mid⟩, hhandle, h⟩ := exists_of_bind_eq_ok h
  have hmid := ((onward_past p (· = ' ')).trans (onward_next _)).trans (onward_tagHandle hhandle)
  dsimp only at h
  split at h
  · cases h
  · obtain ⟨⟨stem, last⟩, hstem, h⟩ := exists_of_bind_eq_ok h
    dsimp only at h
    split at h
    · cases h
      exact (hmid.trans (onward_past ..)).trans (onward_tagText hstem)
    · cases h

theorem onward_directive {p q : Position} {x : Token} (h : directive p = .ok (x, q)) :
    p.next.Onward q := by
  unfold directive at h
  obtain ⟨⟨name, mid⟩, hname, h⟩ := exists_of_bind_eq_ok h
  have hmid := onward_word hname
  dsimp only at h
  split at h
  · cases h
  · split at h
    · obtain ⟨⟨d, last⟩, hd, h⟩ := exists_of_bind_eq_ok h
      obtain ⟨line, hline, h⟩ := exists_of_bind_eq_ok h
      cases h
      exact (hmid.trans (onward_versionDirective hd)).trans (onward_endLine hline)
    · obtain ⟨⟨d, last⟩, hd, h⟩ := exists_of_bind_eq_ok h
      obtain ⟨line, hline, h⟩ := exists_of_bind_eq_ok h
      cases h
      exact (hmid.trans (onward_tagDirective hd)).trans (onward_endLine hline)
    · obtain ⟨⟨d, last⟩, hd, h⟩ := exists_of_bind_eq_ok h
      obtain ⟨line, hline, h⟩ := exists_of_bind_eq_ok h
      cases h
      cases hd
      exact (hmid.trans (onward_past ..)).trans (onward_endLine hline)

/-! ## Scans -/

namespace Scan

variable {s next : Scan}

theorem onward_toNext (s : Scan) (fuel : Nat) : s.pos.Onward (s.toNext fuel).pos := by
  induction fuel generalizing s with
  | zero => exact Onward.refl s.pos
  | succ fuel ih =>
      have hcomment := (onward_past s.pos (· = ' ')).trans (onward_pastComment _)
      unfold toNext
      cases hbreak : (s.pos.past (· = ' ')).pastComment.break? with
      | none => simpa only [hbreak] using hcomment
      | some b =>
          simp only [hbreak]
          exact (hcomment.trans (onward_break? hbreak)).trans
            (ih { s with pos := b.2, keyAllowed := s.keyAllowed || !s.inFlow })

theorem pos_dropStale (h : s.dropStale = .ok next) : next.pos = s.pos := by
  unfold dropStale at h
  dsimp only at h
  split at h
  · cases h
  · cases h
    rfl

theorem eq_of_dropKey (h : s.dropKey = .ok next) : next = { s with key := none } := by
  unfold dropKey at h
  split at h
  · cases h
  · cases h
    rfl

theorem eq_of_noteKey (h : s.noteKey = .ok next) : next = { s with key := next.key } := by
  unfold noteKey at h
  split at h
  · obtain ⟨dropped, hdropped, h⟩ := exists_of_bind_eq_ok h
    obtain rfl := eq_of_dropKey hdropped
    cases h
    rfl
  · cases h
    rfl

theorem pos_unwind (s : Scan) (column : Int) : (s.unwind column).pos = s.pos := by
  unfold unwind
  split <;> rfl

theorem pos_openBlock (s : Scan) (column n : Nat) (t : Token) :
    (s.openBlock column n t).pos = s.pos := by
  unfold openBlock
  split <;> rfl

/-- What is read from its own first character on. -/
def Reads (read : Position → Except Error (Token × Position)) : Prop :=
  ∀ {p q : Position} {t : Token}, read p = .ok (t, q) → p.next.Onward q

theorem onward_node {read : Position → Except Error (Token × Position)} (hread : Reads read)
    (h : s.node read = .ok next) : s.pos.next.Onward next.pos := by
  unfold node at h
  obtain ⟨noted, hnoted, h⟩ := exists_of_bind_eq_ok h
  obtain ⟨⟨t, after⟩, hafter, h⟩ := exists_of_bind_eq_ok h
  rw [eq_of_noteKey hnoted] at hafter
  cases h
  exact hread hafter

theorem onward_separator {read : Position → Except Error (Token × Position)} (hread : Reads read)
    (h : s.separator read = .ok next) : s.pos.next.Onward next.pos := by
  unfold separator at h
  obtain ⟨dropped, hdropped, h⟩ := exists_of_bind_eq_ok h
  obtain ⟨⟨t, after⟩, hafter, h⟩ := exists_of_bind_eq_ok h
  obtain rfl := eq_of_dropKey hdropped
  cases h
  rw [← pos_unwind s]
  exact hread hafter

theorem onward_take {opened : Scan} (hpos : opened.pos = s.pos) (t : Token) :
    s.pos.next.Onward (opened.take 1 t).pos := by
  rw [← hpos]
  exact Onward.refl _

theorem onward_openFlow {t : Token} (h : s.openFlow t = .ok next) :
    s.pos.next.Onward next.pos := by
  unfold openFlow at h
  obtain ⟨noted, hnoted, h⟩ := exists_of_bind_eq_ok h
  cases h
  exact onward_take (congrArg pos (eq_of_noteKey hnoted)) t

theorem onward_closeFlow {t : Token} (h : s.closeFlow t = .ok next) :
    s.pos.next.Onward next.pos := by
  unfold closeFlow at h
  obtain ⟨dropped, hdropped, h⟩ := exists_of_bind_eq_ok h
  split at h
  · cases h
  · cases h
    exact onward_take (congrArg pos (eq_of_dropKey hdropped)) t

/-- An indicator of one character, before which a possible key is given up. -/
theorem onward_indicator {opened : Scan} {allowed : Bool} {t : Token} (hpos : opened.pos = s.pos)
    (h : ({ opened with keyAllowed := allowed }.dropKey >>= fun u => pure (u.take 1 t)) =
      .ok next) : s.pos.next.Onward next.pos := by
  obtain ⟨dropped, hdropped, h⟩ := exists_of_bind_eq_ok h
  cases h
  exact onward_take ((congrArg pos (eq_of_dropKey hdropped)).trans hpos) t

theorem onward_flowEntry (h : s.flowEntry = .ok next) : s.pos.next.Onward next.pos :=
  onward_indicator rfl h

/-- Inside brackets no block is opened. -/
theorem pos_opened (s : Scan) (column n : Nat) (t : Token) :
    (if s.inFlow then s else s.openBlock column n t).pos = s.pos := by
  split
  · rfl
  · exact pos_openBlock ..

theorem onward_blockEntry (h : s.blockEntry = .ok next) : s.pos.next.Onward next.pos := by
  unfold blockEntry at h
  by_cases hrefused : (!s.inFlow && !s.keyAllowed) = true
  · rw [if_pos hrefused] at h
    cases h
  · rw [if_neg hrefused] at h
    exact onward_indicator (pos_opened ..) h

theorem onward_explicitKey (h : s.explicitKey = .ok next) : s.pos.next.Onward next.pos := by
  unfold explicitKey at h
  by_cases hrefused : (!s.inFlow && !s.keyAllowed) = true
  · rw [if_pos hrefused] at h
    cases h
  · rw [if_neg hrefused] at h
    exact onward_indicator (pos_opened ..) h

theorem onward_value (h : s.value = .ok next) : s.pos.next.Onward next.pos := by
  unfold value at h
  cases hkey : s.key with
  | some k =>
      simp only [hkey] at h
      obtain rfl := Except.ok.inj h
      exact onward_take (pos_opened _ k.column k.token .blockMappingStart) .value
  | none =>
      simp only [hkey] at h
      by_cases hrefused : (!s.inFlow && !s.keyAllowed) = true
      · rw [if_pos hrefused] at h
        cases h
      · rw [if_neg hrefused] at h
        exact onward_indicator (pos_opened ..) h

theorem onward_blockText (h : s.blockText = .ok next) : s.pos.next.Onward next.pos := by
  unfold blockText at h
  obtain ⟨dropped, hdropped, h⟩ := exists_of_bind_eq_ok h
  obtain ⟨⟨text, after⟩, hafter, h⟩ := exists_of_bind_eq_ok h
  obtain rfl := eq_of_dropKey hdropped
  cases h
  exact onward_block hafter

theorem onward_plainText {c : Char} (hc : s.pos.peek = some c)
    (hstart : startsPlain s.inFlow c (s.pos.peek 1) = true) (h : s.plainText = .ok next) :
    s.pos.next.Onward next.pos := by
  unfold plainText at h
  obtain ⟨noted, hnoted, h⟩ := exists_of_bind_eq_ok h
  rw [eq_of_noteKey hnoted] at h
  cases h
  exact onward_plain hc hstart

theorem reads_named (t : String → Token) : Reads (named t) := by
  intro p q token h
  unfold named at h
  obtain ⟨⟨name, after⟩, hname, h⟩ := exists_of_bind_eq_ok h
  cases h
  exact onward_anchorName hname

theorem reads_quotedText (quote : Char) : Reads (quotedText quote) := by
  intro p q token h
  unfold quotedText at h
  obtain ⟨⟨text, after⟩, htext, h⟩ := exists_of_bind_eq_ok h
  cases h
  exact onward_quoted htext

theorem reads_mark (t : Token) : Reads fun p => .ok (t, p.skip 3) := by
  intro p q token h
  cases h
  exact onward_skip p.next 2

/-- A token has at least the character it begins with. -/
theorem onward_token {c : Char} (hc : s.pos.peek = some c) (h : s.token c = .ok next) :
    s.pos.next.Onward next.pos := by
  unfold token at h
  dsimp only at h
  rcases ite_eq_iff.mp h with ⟨-, h⟩ | ⟨-, h⟩
  · exact onward_separator onward_directive h
  rcases ite_eq_iff.mp h with ⟨-, h⟩ | ⟨-, h⟩
  · exact onward_separator (reads_mark _) h
  rcases ite_eq_iff.mp h with ⟨-, h⟩ | ⟨-, h⟩
  · exact onward_separator (reads_mark _) h
  rcases ite_eq_iff.mp h with ⟨-, h⟩ | ⟨-, h⟩
  · exact onward_openFlow h
  rcases ite_eq_iff.mp h with ⟨-, h⟩ | ⟨-, h⟩
  · exact onward_openFlow h
  rcases ite_eq_iff.mp h with ⟨-, h⟩ | ⟨-, h⟩
  · exact onward_closeFlow h
  rcases ite_eq_iff.mp h with ⟨-, h⟩ | ⟨-, h⟩
  · exact onward_closeFlow h
  rcases ite_eq_iff.mp h with ⟨-, h⟩ | ⟨-, h⟩
  · exact onward_flowEntry h
  rcases ite_eq_iff.mp h with ⟨-, h⟩ | ⟨-, h⟩
  · exact onward_blockEntry h
  rcases ite_eq_iff.mp h with ⟨-, h⟩ | ⟨-, h⟩
  · exact onward_explicitKey h
  rcases ite_eq_iff.mp h with ⟨-, h⟩ | ⟨-, h⟩
  · exact onward_value h
  rcases ite_eq_iff.mp h with ⟨-, h⟩ | ⟨-, h⟩
  · exact onward_node (reads_named _) h
  rcases ite_eq_iff.mp h with ⟨-, h⟩ | ⟨-, h⟩
  · exact onward_node (reads_named _) h
  rcases ite_eq_iff.mp h with ⟨-, h⟩ | ⟨-, h⟩
  · exact onward_node onward_tag h
  rcases ite_eq_iff.mp h with ⟨-, h⟩ | ⟨-, h⟩
  · exact onward_blockText h
  rcases ite_eq_iff.mp h with ⟨-, h⟩ | ⟨-, h⟩
  · exact onward_node (reads_quotedText c) h
  rcases ite_eq_iff.mp h with ⟨hstart, h⟩ | ⟨-, h⟩
  · exact onward_plainText hc hstart h
  · cases h

theorem back_finish (h : s.finish = .ok next) : next.tokens.back? = some .streamEnd := by
  unfold finish at h
  obtain ⟨dropped, -, h⟩ := exists_of_bind_eq_ok h
  cases h
  exact Array.back?_push

/-- **Every step but the last gets further.** -/
theorem step_advances (h : s.step = .ok next) :
    next.tokens.back? = some .streamEnd ∨ next.pos.rest.length < s.pos.rest.length := by
  unfold step at h
  obtain ⟨kept, hkept, h⟩ := exists_of_bind_eq_ok h
  have hpos : (kept.unwind kept.pos.column).pos = (s.toNext (s.pos.rest.length + 1)).pos :=
    (pos_unwind ..).trans (pos_dropStale hkept)
  have htoNext := (onward_toNext s (s.pos.rest.length + 1)).length_le
  rw [← hpos] at htoNext
  dsimp only at h
  split at h
  · exact Or.inl (back_finish h)
  · rename_i c hc
    have hne : (kept.unwind kept.pos.column).pos.rest ≠ [] := by
      intro hnil
      rw [peek, hnil] at hc
      cases hc
    have hlt := length_lt_of_onward_next (onward_token hc h) hne
    exact Or.inr (Nat.lt_of_lt_of_le hlt htoNext)

/-- Past the last comment and line break, further fuel is not used. -/
theorem toNext_of_length_lt {fuel more : Nat} (h : s.pos.rest.length < fuel)
    (hmore : s.pos.rest.length < more) : s.toNext fuel = s.toNext more := by
  induction fuel generalizing s more with
  | zero => exact absurd h (Nat.not_lt_zero _)
  | succ fuel ih =>
      obtain ⟨more, rfl⟩ := Nat.exists_eq_add_one_of_ne_zero (Nat.ne_zero_of_lt hmore)
      unfold toNext
      cases hbreak : (s.pos.past (· = ' ')).pastComment.break? with
      | none => simp only [hbreak]
      | some b =>
          have hcomment := (onward_past s.pos (· = ' ')).trans (onward_pastComment _)
          have hlt := Nat.lt_of_lt_of_le (length_break?_lt hbreak) hcomment.length_le
          simp only [hbreak]
          exact ih (Nat.lt_of_lt_of_le hlt (Nat.le_of_lt_succ h))
            (Nat.lt_of_lt_of_le hlt (Nat.le_of_lt_succ hmore))

/-- **The fuel never runs out**: any that is more than what is left of the text gives the same
tokens. -/
theorem run_of_length_lt {fuel more : Nat} (h : s.pos.rest.length < fuel)
    (hmore : s.pos.rest.length < more) : s.run fuel = s.run more := by
  induction fuel generalizing s more with
  | zero => exact absurd h (Nat.not_lt_zero _)
  | succ fuel ih =>
      obtain ⟨more, rfl⟩ := Nat.exists_eq_add_one_of_ne_zero (Nat.ne_zero_of_lt hmore)
      unfold run
      cases hstep : s.step with
      | error e => rfl
      | ok next =>
          dsimp only
          rcases step_advances hstep with hend | hlt
          · rw [if_pos hend, if_pos hend]
          · rw [ih (Nat.lt_of_lt_of_le hlt (Nat.le_of_lt_succ h))
              (Nat.lt_of_lt_of_le hlt (Nat.le_of_lt_succ hmore))]

end Scan

end RowGuard.Yaml
