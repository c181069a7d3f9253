import RowGuard.Yaml.Scan

/-!
# Reading a document from further on

A place knows how many characters and lines are before it, but only how far a possible key lies back
is ever asked for. So everything that reads a document reads the same from a place that is further
from the start of the text, and leaves off as much further on.
-/

namespace RowGuard.Yaml

/-! ## Places -/

namespace Position

/-- The same place, `i` characters and `l` lines further from the start of the text. -/
def shift (i l : Nat) (p : Position) : Position :=
  { p with index := p.index + i, line := p.line + l }

variable (i l : Nat) (p : Position)

@[simp] theorem rest_shift : (p.shift i l).rest = p.rest := rfl

@[simp] theorem column_shift : (p.shift i l).column = p.column := rfl

@[simp] theorem peek_shift (n : Nat) : (p.shift i l).peek n = p.peek n := rfl

@[simp] theorem atMark_shift (c : Char) : (p.shift i l).atMark c = p.atMark c := rfl

@[simp] theorem atSeparator_shift : (p.shift i l).atSeparator = p.atSeparator := rfl

@[simp] theorem next_shift : (p.shift i l).next = p.next.shift i l := by
  rw [next, next, rest_shift]
  cases p.rest with
  | nil => rfl
  | cons c rest =>
      dsimp only
      split
      · rw [shift, shift, Nat.add_right_comm p.index, Nat.add_right_comm p.line]
      · rw [shift, shift, Nat.add_right_comm p.index]

@[simp] theorem skip_shift (n : Nat) : (p.shift i l).skip n = (p.skip n).shift i l := by
  induction n generalizing p with
  | zero => rfl
  | succ n ih => rw [skip, skip, next_shift, ih]

@[simp] theorem span_shift (test : Char → Bool) :
    (p.shift i l).span test = ((p.span test).1, (p.span test).2.shift i l) := by
  rw [span, span, skip_shift, rest_shift]

@[simp] theorem past_shift (test : Char → Bool) :
    (p.shift i l).past test = (p.past test).shift i l := by
  rw [past, past, span_shift]

@[simp] theorem break?_shift :
    (p.shift i l).break? = p.break?.map (Prod.map id (shift i l)) := by
  unfold break?
  simp only [rest_shift, next_shift, skip_shift]
  split
  · rfl
  · split
    · rfl
    · split <;> rfl
  · rfl

@[simp] theorem pastComment_shift :
    (p.shift i l).pastComment = p.pastComment.shift i l := by
  rw [pastComment, pastComment, peek_shift, past_shift]
  split <;> rfl

end Position

/-! ## Scalars -/

section

variable (i l : Nat)

/-- What was read, with the place behind it shifted. -/
abbrev shifted {α : Type} (r : α × Position) : α × Position := (r.1, r.2.shift i l)

/-- What was read and a flag, with the place behind it shifted. -/
abbrev shiftedFlag {α : Type} (r : α × Position × Bool) : α × Position × Bool :=
  (r.1, r.2.1.shift i l, r.2.2)

/-- Where the next thing is read from a shifted place, it is read as from the place itself. -/
theorem bind_shifted {α β : Type} (r : Except Error (α × Position))
    {next next' : α × Position → Except Error (β × Position)}
    (h : ∀ a q, next' (a, q.shift i l) = (next (a, q)).map (shifted i l)) :
    (r.map (shifted i l) >>= next') = (r >>= next).map (shifted i l) := by
  rcases r with e | ⟨a, q⟩
  · rfl
  · exact h a q

/-- What was read counts only if the character behind it passes a test. -/
theorem counted_shift {α : Type} (test : Char → Bool) (found : α) (q : Position) :
    (if (q.shift i l).peek.all test then Except.ok (found, q.shift i l)
      else .error Error.malformed) =
    (if q.peek.all test then Except.ok (found, q) else .error Error.malformed).map
      (shifted i l) := by
  rw [Position.peek_shift]
  cases q.peek.all test <;> rfl

theorem emptyLines_shift (fuel : Nat) (p : Position) :
    emptyLines fuel (p.shift i l) = shiftedFlag i l (emptyLines fuel p) := by
  induction fuel generalizing p with
  | zero => rfl
  | succ fuel ih =>
      unfold emptyLines
      cases h : (p.past (· = ' ')).break? with
      | none => simp [h]
      | some b =>
          simp only [Position.past_shift, Position.break?_shift, h, Option.map_some, Prod.map,
            id_eq, Position.atSeparator_shift, ih]
          split <;> rfl

theorem plainGap_shift (p : Position) :
    plainGap (p.shift i l) = shiftedFlag i l (plainGap p) := by
  unfold plainGap
  cases h : (p.span (· = ' ')).2.break? with
  | none => simp [h]
  | some b =>
      simp only [Position.span_shift, Position.break?_shift, h, Option.map_some, Prod.map, id_eq,
        Position.atSeparator_shift, Position.rest_shift, emptyLines_shift]
      rcases emptyLines b.2.rest.length b.2 with ⟨more, last, separated⟩
      split
      · rfl
      · cases separated <;> rfl

theorem plainFrom_shift (inFlow : Bool) (indent : Int) (gap : List Char) (ended : Bool) (fuel : Nat)
    (p : Position) :
    plainFrom inFlow indent gap ended fuel (p.shift i l) =
      shiftedFlag i l (plainFrom inFlow indent gap ended fuel p) := by
  induction fuel generalizing gap ended p with
  | zero => rfl
  | succ fuel ih =>
      unfold plainFrom
      -- the length of the piece is the same, for the characters from here on are
      generalize hn : (if p.peek = some '#' then 0 else plainLength inFlow p.rest) = n
      have hshift : (if (p.shift i l).peek = some '#' then 0
          else plainLength inFlow (p.shift i l).rest) = n := hn
      rw [hshift]
      simp only [Position.peek_shift, Position.rest_shift, Position.skip_shift, plainGap_shift, ih,
        Position.column_shift]
      split
      · rfl
      · split <;> rfl

theorem plain_shift (inFlow : Bool) (indent : Int) (p : Position) :
    plain inFlow indent (p.shift i l) = shiftedFlag i l (plain inFlow indent p) :=
  plainFrom_shift i l inFlow indent [] false p.rest.length p

theorem numbered_shift (n : Nat) (p : Position) :
    numbered n (p.shift i l) = (numbered n p).map (shifted i l) := by
  unfold numbered
  simp only [Position.rest_shift, Position.skip_shift]
  split
  · rfl
  · split
    · rfl
    · split
      · split
        · split
          · split <;> simp only [Except.map]
          · rfl
        · rfl
      · split <;> rfl

theorem quotedBreaks_shift (fuel : Nat) (p : Position) :
    quotedBreaks fuel (p.shift i l) = (quotedBreaks fuel p).map (shifted i l) := by
  induction fuel generalizing p with
  | zero => rfl
  | succ fuel ih =>
      unfold quotedBreaks
      simp only [Position.atSeparator_shift, Position.past_shift, Position.break?_shift]
      split
      · rfl
      · rcases (p.past isSpace).break? with _ | b
        · rfl
        · simp only [Option.map_some, Prod.map, ih]
          exact bind_shifted i l _ fun more last => rfl

theorem escape_shift (p : Position) : escape (p.shift i l) = (escape p).map (shifted i l) := by
  unfold escape
  simp only [Position.next_shift, Position.peek_shift, Position.rest_shift, Position.skip_shift,
    Position.break?_shift, numbered_shift]
  cases p.next.peek with
  | none => rfl
  | some c =>
    dsimp only
    split
    · rfl
    · rename_i n _ _
      cases hexNumber? n p.next.next.rest with
      | none => rfl
      | some code => exact bind_shifted i l _ fun image last => rfl
    · rcases p.next.break? with _ | b
      · rfl
      · exact quotedBreaks_shift i l _ b.2

theorem quotedGap_shift (p : Position) :
    quotedGap (p.shift i l) = (quotedGap p).map (shifted i l) := by
  unfold quotedGap
  simp only [Position.span_shift, Position.break?_shift, Position.rest_shift]
  rcases (p.span isSpace).2.break? with _ | b
  · simp only [Option.map_none]
    split <;> rfl
  · simp only [Option.map_some, Prod.map, quotedBreaks_shift, Position.rest_shift]
    exact bind_shifted i l _ fun more last => rfl

theorem quotedFrom_shift (quote : Char) (fuel : Nat) (p : Position) :
    quotedFrom quote fuel (p.shift i l) = (quotedFrom quote fuel p).map (shifted i l) := by
  induction fuel generalizing p with
  | zero => rfl
  | succ fuel ih =>
      unfold quotedFrom
      simp only [Position.rest_shift, Position.skip_shift, Position.next_shift, ih, escape_shift,
        quotedGap_shift]
      cases p.rest with
      | nil => rfl
      | cons c rest =>
        dsimp only
        split
        · split
          · exact bind_shifted i l _ fun more last => rfl
          · rfl
        · split
          · refine bind_shifted i l _ fun piece after => ?_
            rw [ih]
            exact bind_shifted i l _ fun more last => rfl
          · split
            · refine bind_shifted i l _ fun piece after => ?_
              rw [ih]
              exact bind_shifted i l _ fun more last => rfl
            · exact bind_shifted i l _ fun more last => rfl

theorem quoted_shift (quote : Char) (p : Position) :
    quoted quote (p.shift i l) = (quoted quote p).map (shifted i l) := by
  unfold quoted
  rw [Position.next_shift, quotedFrom_shift, Position.rest_shift]

theorem blockHeader_shift (p : Position) :
    blockHeader (p.shift i l) = (blockHeader p).map (shifted i l) := by
  have hstyle : ∀ q : Position, chomping? (q.shift i l) = chomping? q := fun q => rfl
  have hdigit : ∀ q : Position, increment? (q.shift i l) = increment? q := fun q => rfl
  unfold blockHeader
  simp only [hstyle, hdigit, Position.next_shift, Position.skip_shift]
  rcases chomping? p with _ | style
  · rcases increment? p with _ | _ | n
    · rfl
    · exact counted_shift i l _ (Chomping.clip, @none Nat) p
    · rcases chomping? p.next with _ | style
      · exact counted_shift i l _ (Chomping.clip, some n) p.next
      · exact counted_shift i l _ (style, some n) (p.skip 2)
  · rcases increment? p.next with _ | _ | n
    · rfl
    · exact counted_shift i l _ (style, @none Nat) p.next
    · exact counted_shift i l _ (style, some n) (p.skip 2)

theorem endLine_shift (p : Position) :
    endLine (p.shift i l) = (endLine p).map (Position.shift i l) := by
  unfold endLine
  simp only [Position.past_shift, Position.pastComment_shift, Position.break?_shift,
    Position.rest_shift]
  rcases (p.past (· = ' ')).pastComment.break? with _ | b
  · simp only [Option.map_none]
    split <;> rfl
  · rfl

theorem leadingLines_shift (deepest fuel : Nat) (p : Position) :
    leadingLines deepest fuel (p.shift i l) =
      ((leadingLines deepest fuel p).1, shifted i l (leadingLines deepest fuel p).2) := by
  induction fuel generalizing deepest p with
  | zero => rfl
  | succ fuel ih =>
      unfold leadingLines
      simp only [Position.past_shift, Position.break?_shift, Position.column_shift]
      rcases (p.past (· = ' ')).break? with _ | b
      · rfl
      · simp only [Option.map_some, Prod.map, ih]
        rfl

theorem indentTo_shift (column : Nat) (p : Position) :
    indentTo column (p.shift i l) = (indentTo column p).shift i l := by
  unfold indentTo
  simp only [Position.skip_shift, Position.column_shift, Position.rest_shift]

theorem blockBreaks_shift (indent fuel : Nat) (p : Position) :
    blockBreaks indent fuel (p.shift i l) = shifted i l (blockBreaks indent fuel p) := by
  induction fuel generalizing p with
  | zero => rfl
  | succ fuel ih =>
      unfold blockBreaks
      simp only [indentTo_shift, Position.break?_shift]
      rcases (indentTo indent p).break? with _ | b
      · rfl
      · simp only [Option.map_some, Prod.map, ih]
        rfl

theorem blockLines_shift (folded : Bool) (style : Chomping) (indent : Nat) (breaks : List Char)
    (fuel : Nat) (p : Position) :
    blockLines folded style indent breaks fuel (p.shift i l) =
      shifted i l (blockLines folded style indent breaks fuel p) := by
  induction fuel generalizing breaks p with
  | zero => rfl
  | succ fuel ih =>
      unfold blockLines
      simp only [Position.span_shift, Position.break?_shift, Position.peek_shift]
      rcases (p.span fun c => !isBreak c).2.break? with _ | ⟨c, after⟩
      all_goals
        simp only [Option.map_none, Option.map_some, Option.getD_none, Option.getD_some, Prod.map,
          blockBreaks_shift, Position.rest_shift, Position.column_shift, Position.peek_shift, ih]
        split <;> rfl

theorem block_shift (indent : Int) (p : Position) :
    block indent (p.shift i l) = (block indent p).map (shifted i l) := by
  unfold block
  simp only [Position.peek_shift, Position.next_shift, blockHeader_shift]
  rcases blockHeader p.next with _ | ⟨⟨style, digit⟩, header⟩
  · rfl
  · simp only [Except.map, bind, Except.bind, endLine_shift]
    rcases endLine header with _ | line
    · rfl
    · cases digit with
      | none =>
        simp only [leadingLines_shift, Position.rest_shift, Position.column_shift, blockLines_shift]
        split <;> rfl
      | some n =>
        simp only [blockBreaks_shift, Position.rest_shift, Position.column_shift, blockLines_shift]
        split <;> rfl

/-! ## Properties -/

theorem word_shift (p : Position) : word (p.shift i l) = (word p).map (shifted i l) := by
  unfold word
  rw [Position.span_shift]
  rcases p.span isWord with ⟨_ | ⟨c, name⟩, after⟩ <;> rfl

theorem anchorName_shift (p : Position) :
    anchorName (p.shift i l) = (anchorName p).map (shifted i l) := by
  unfold anchorName
  rw [Position.next_shift, word_shift]
  exact bind_shifted i l _ fun name after => counted_shift i l _ name after

theorem percentBytes_shift (fuel : Nat) (p : Position) :
    percentBytes fuel (p.shift i l) = (percentBytes fuel p).map (shifted i l) := by
  induction fuel generalizing p with
  | zero => rfl
  | succ fuel ih =>
      unfold percentBytes
      by_cases hpercent : p.peek = some '%'
      · simp only [Position.peek_shift, hpercent, if_true, Position.next_shift, Position.rest_shift,
          Position.skip_shift, ih]
        rcases hexNumber? 2 p.next.rest with _ | n
        · rfl
        · exact bind_shifted i l _ fun more last => rfl
      · simp only [Position.peek_shift, hpercent, if_false]
        rfl

theorem tagChars_shift (fuel : Nat) (p : Position) :
    tagChars fuel (p.shift i l) = (tagChars fuel p).map (shifted i l) := by
  induction fuel generalizing p with
  | zero => rfl
  | succ fuel ih =>
      unfold tagChars
      rw [Position.span_shift]
      rcases p.span isTagChar with ⟨_ | ⟨c, text⟩, after⟩
      · by_cases hpercent : p.peek = some '%'
        · simp only [Position.peek_shift, hpercent, if_true, Position.rest_shift,
            percentBytes_shift]
          refine bind_shifted i l _ fun bytes after => ?_
          rcases decoded bytes with _ | text
          · rfl
          · simp only [bind, Except.bind, ih]
            exact bind_shifted i l (tagChars fuel after) fun more last => rfl
        · simp only [Position.peek_shift, hpercent, if_false]
          rfl
      · simp only [ih]
        exact bind_shifted i l _ fun more last => rfl

theorem tagText_shift (p : Position) : tagText (p.shift i l) = (tagText p).map (shifted i l) := by
  unfold tagText
  rw [Position.peek_shift, Position.rest_shift, tagChars_shift]
  split
  · rfl
  · exact bind_shifted i l _ fun text after => rfl

theorem tagHandle_shift (p : Position) :
    tagHandle (p.shift i l) = (tagHandle p).map (shifted i l) := by
  unfold tagHandle
  simp only [Position.peek_shift, Position.next_shift, Position.span_shift]
  split
  · rfl
  · split
    · rfl
    · split <;> rfl

theorem tag_shift (p : Position) : tag (p.shift i l) = (tag p).map (shifted i l) := by
  unfold tag
  simp only [Position.next_shift, Position.peek_shift, Position.skip_shift, Position.rest_shift,
    tagText_shift, tagHandle_shift]
  split
  · refine bind_shifted i l _ fun suffix after => ?_
    by_cases hclosed : after.peek = some '>'
    · simp only [Position.peek_shift, hclosed, if_true, Position.next_shift]
      exact counted_shift i l _ (Token.tag none suffix) after.next
    · simp only [Position.peek_shift, hclosed, if_false]
      rfl
  · split
    · exact counted_shift i l _ (Token.tag none "!") p.next
    · split
      · refine bind_shifted i l _ fun handle after => ?_
        simp only [tagText_shift]
        exact bind_shifted i l _ fun suffix after =>
          counted_shift i l _ (Token.tag handle suffix) after
      · simp only [pure, Except.pure, bind, Except.bind, tagText_shift]
        exact bind_shifted i l (tagText p.next) fun suffix after =>
          counted_shift i l _ (Token.tag "!" suffix) after

theorem number_shift (p : Position) : number (p.shift i l) = (number p).map (shifted i l) := by
  unfold number
  rw [Position.span_shift]
  rcases p.span Char.isDigit with ⟨_ | ⟨c, digits⟩, after⟩ <;> rfl

theorem versionDirective_shift (p : Position) :
    versionDirective (p.shift i l) = (versionDirective p).map (shifted i l) := by
  unfold versionDirective
  rw [Position.past_shift, number_shift]
  refine bind_shifted i l _ fun major p => ?_
  simp only [Position.peek_shift, Position.next_shift, number_shift]
  split
  · rfl
  · exact bind_shifted i l _ fun minor p => counted_shift i l _ (Directive.version major minor) p

theorem tagDirective_shift (p : Position) :
    tagDirective (p.shift i l) = (tagDirective p).map (shifted i l) := by
  unfold tagDirective
  rw [Position.past_shift, tagHandle_shift]
  refine bind_shifted i l _ fun handle p => ?_
  simp only [Position.peek_shift, Position.past_shift, tagText_shift]
  split
  · rfl
  · exact bind_shifted i l _ fun stem p => counted_shift i l _ (Directive.tag handle stem) p

theorem directive_shift (p : Position) :
    directive (p.shift i l) = (directive p).map (shifted i l) := by
  unfold directive
  rw [Position.next_shift, word_shift]
  refine bind_shifted i l _ fun name p => ?_
  have hend : ∀ (d : Directive) (q : Position), (endLine (q.shift i l) >>= fun last =>
      Except.ok (Token.directive d, last)) =
        (endLine q >>= fun last => Except.ok (Token.directive d, last)).map (shifted i l) := by
    intro d q
    rw [endLine_shift]
    cases endLine q <;> rfl
  simp only [Position.peek_shift, versionDirective_shift, tagDirective_shift, Position.past_shift]
  split
  · rfl
  · split
    · exact bind_shifted i l _ fun d q => hend d q
    · exact bind_shifted i l _ fun d q => hend d q
    · exact hend .other (p.past fun c => !isBreak c)

end

/-! ## Scans -/

/-- The same possible key, further from the start of the text. -/
def Key.shift (i l : Nat) (k : Key) : Key := { k with index := k.index + i, line := k.line + l }

namespace Scan

/-- The same scan, further from the start of the text. -/
def shift (i l : Nat) (s : Scan) : Scan :=
  { s with
    pos := s.pos.shift i l
    key := s.key.map (Key.shift i l)
    around := s.around.map (·.map (Key.shift i l)) }

variable (i l : Nat) (s : Scan)

@[simp] theorem pos_shift : (s.shift i l).pos = s.pos.shift i l := rfl

@[simp] theorem tokens_shift : (s.shift i l).tokens = s.tokens := rfl

@[simp] theorem indent_shift : (s.shift i l).indent = s.indent := rfl

@[simp] theorem keyAllowed_shift : (s.shift i l).keyAllowed = s.keyAllowed := rfl

@[simp] theorem inFlow_shift : (s.shift i l).inFlow = s.inFlow := by
  unfold inFlow shift
  cases s.around <;> rfl

theorem toNext_shift (fuel : Nat) : (s.shift i l).toNext fuel = (s.toNext fuel).shift i l := by
  induction fuel generalizing s with
  | zero => rfl
  | succ fuel ih =>
      unfold toNext
      simp only [pos_shift, Position.past_shift, Position.pastComment_shift, Position.break?_shift,
        inFlow_shift, keyAllowed_shift]
      rcases (s.pos.past (· = ' ')).pastComment.break? with _ | b
      · rfl
      · exact ih { s with pos := b.2, keyAllowed := s.keyAllowed || !s.inFlow }

/-- How far a possible key lies back does not change. -/
theorem isStale_shift (k : Key) : (s.shift i l).isStale (k.shift i l) = s.isStale k := by
  unfold isStale
  have hline : (k.shift i l).line ≠ (s.shift i l).pos.line ↔ k.line ≠ s.pos.line := by
    simp only [Key.shift, pos_shift, Position.shift]
    omega
  have hindex : (s.shift i l).pos.index - (k.shift i l).index = s.pos.index - k.index := by
    simp only [Key.shift, pos_shift, Position.shift]
    omega
  rw [hindex, decide_eq_decide.mpr hline]

theorem dropStale_shift : (s.shift i l).dropStale = s.dropStale.map (shift i l) := by
  have hstale : ∀ o : Option Key, (o.map (Key.shift i l)).any (fun k =>
      (s.shift i l).isStale k && k.required) = o.any fun k => s.isStale k && k.required := by
    rintro (_ | k)
    · rfl
    · exact congrArg (· && k.required) (isStale_shift i l s k)
  have hkeep : ∀ o : Option Key, (o.map (Key.shift i l)).filter (fun k =>
      !(s.shift i l).isStale k) = (o.filter fun k => !s.isStale k).map (Key.shift i l) := by
    rintro (_ | k)
    · rfl
    · simp only [Option.map_some, Option.filter_some, isStale_shift]
      cases s.isStale k <;> rfl
  have hany : ((s.shift i l).key :: (s.shift i l).around).any (fun o => o.any fun k =>
      (s.shift i l).isStale k && k.required) =
      (s.key :: s.around).any fun o => o.any fun k => s.isStale k && k.required := by
    have hmap : (s.shift i l).key :: (s.shift i l).around =
      (s.key :: s.around).map (Option.map (Key.shift i l)) := rfl
    rw [hmap, List.any_map]
    exact congrArg (List.any _) (funext hstale)
  unfold dropStale
  dsimp only
  rw [hany]
  split
  · rfl
  · have haround : (s.shift i l).around.map (·.filter fun k => !(s.shift i l).isStale k) =
        (s.around.map (·.filter fun k => !s.isStale k)).map (·.map (Key.shift i l)) := by
      rw [List.map_map]
      exact (List.map_map ..).trans (List.map_congr_left fun o _ => hkeep o)
    have hkey : (s.shift i l).key.filter (fun k => !(s.shift i l).isStale k) =
        (s.key.filter fun k => !s.isStale k).map (Key.shift i l) := hkeep s.key
    rw [haround, hkey]
    rfl

theorem dropKey_shift : (s.shift i l).dropKey = s.dropKey.map (shift i l) := by
  unfold dropKey
  rcases s with ⟨pos, tokens, indent, outer, allowed, _ | k, around⟩
  · rfl
  · rcases k with ⟨token, _ | _, index, line, column⟩ <;> rfl

theorem noteKey_shift : (s.shift i l).noteKey = s.noteKey.map (shift i l) := by
  unfold noteKey
  simp only [keyAllowed_shift, inFlow_shift, indent_shift, pos_shift, Position.column_shift,
    dropKey_shift]
  split
  · cases s.dropKey <;> rfl
  · rfl

theorem unwind_shift (column : Int) :
    (s.shift i l).unwind column = (s.unwind column).shift i l := by
  unfold unwind
  rw [inFlow_shift]
  split <;> rfl

theorem openBlock_shift (column n : Nat) (t : Token) :
    (s.shift i l).openBlock column n t = (s.openBlock column n t).shift i l := by
  unfold openBlock
  rw [indent_shift]
  split <;> rfl

theorem take_shift (n : Nat) (t : Token) : (s.shift i l).take n t = (s.take n t).shift i l := by
  unfold take
  rw [pos_shift, Position.skip_shift]
  rfl

theorem finish_shift : (s.shift i l).finish = s.finish.map (shift i l) := by
  unfold finish
  rw [unwind_shift, dropKey_shift]
  cases (s.unwind (-1)).dropKey <;> rfl

/-- Where the next thing is done to a shifted scan, it is done as to the scan itself. -/
theorem bind_shift (r : Except Error Scan) {next next' : Scan → Except Error Scan}
    (h : ∀ s, next' (s.shift i l) = (next s).map (shift i l)) :
    (r.map (shift i l) >>= next') = (r >>= next).map (shift i l) := by
  rcases r with e | s
  · rfl
  · exact h s

/-- Whether a key may follow says nothing of a place. -/
theorem dropKey_allowed_shift (allowed : Bool) :
    { s.shift i l with keyAllowed := allowed }.dropKey =
      { s with keyAllowed := allowed }.dropKey.map (shift i l) :=
  dropKey_shift i l { s with keyAllowed := allowed }

section

variable {read : Position → Except Error (Token × Position)}
  (hread : ∀ p : Position, read (p.shift i l) = (read p).map (shifted i l))

include hread

theorem node_shift : (s.shift i l).node read = (s.node read).map (shift i l) := by
  unfold node
  rw [noteKey_shift]
  refine bind_shift i l _ fun s => ?_
  rw [pos_shift, hread]
  cases read s.pos <;> rfl

theorem separator_shift : (s.shift i l).separator read = (s.separator read).map (shift i l) := by
  unfold separator
  rw [unwind_shift, dropKey_shift]
  refine bind_shift i l _ fun s => ?_
  rw [pos_shift, hread]
  cases read s.pos <;> rfl

end

theorem separator_mark_shift (t : Token) :
    (s.shift i l).separator (fun p => .ok (t, p.skip 3)) =
      (s.separator fun p => .ok (t, p.skip 3)).map (shift i l) := by
  refine separator_shift i l s fun p => ?_
  rw [Position.skip_shift]
  rfl

theorem openFlow_shift (t : Token) : (s.shift i l).openFlow t = (s.openFlow t).map (shift i l) := by
  unfold openFlow
  rw [noteKey_shift]
  refine bind_shift i l _ fun s => ?_
  rw [take_shift]
  rfl

theorem closeFlow_shift (t : Token) :
    (s.shift i l).closeFlow t = (s.closeFlow t).map (shift i l) := by
  unfold closeFlow
  rw [dropKey_shift]
  refine bind_shift i l _ fun s => ?_
  rw [take_shift]
  rcases s with ⟨pos, tokens, indent, outer, allowed, key, _ | ⟨first, around⟩⟩ <;> rfl

theorem flowEntry_shift : (s.shift i l).flowEntry = s.flowEntry.map (shift i l) := by
  unfold flowEntry
  rw [dropKey_allowed_shift]
  refine bind_shift i l _ fun s => ?_
  rw [take_shift]
  rfl

theorem blockEntry_shift : (s.shift i l).blockEntry = s.blockEntry.map (shift i l) := by
  unfold blockEntry
  simp only [inFlow_shift, keyAllowed_shift, pos_shift, Position.column_shift, tokens_shift,
    openBlock_shift]
  split
  · rfl
  · rw [← apply_ite (shift i l)]
    simp only [dropKey_allowed_shift]
    refine bind_shift i l _ fun s => ?_
    rw [take_shift]
    rfl

theorem explicitKey_shift : (s.shift i l).explicitKey = s.explicitKey.map (shift i l) := by
  unfold explicitKey
  simp only [inFlow_shift, keyAllowed_shift, pos_shift, Position.column_shift, tokens_shift,
    openBlock_shift]
  split
  · rfl
  · rw [← apply_ite (shift i l)]
    simp only [dropKey_allowed_shift, inFlow_shift]
    refine bind_shift i l _ fun s => ?_
    rw [take_shift]
    rfl

theorem value_shift : (s.shift i l).value = s.value.map (shift i l) := by
  have hkey : (s.shift i l).key = s.key.map (Key.shift i l) := rfl
  unfold value
  rw [hkey]
  cases s.key with
  | none =>
      simp only [Option.map_none, inFlow_shift, keyAllowed_shift, pos_shift, Position.column_shift,
        tokens_shift, openBlock_shift]
      split
      · rfl
      · rw [← apply_ite (shift i l)]
        simp only [dropKey_allowed_shift, inFlow_shift]
        refine bind_shift i l _ fun s => ?_
        rw [take_shift]
        rfl
  | some k =>
      have hput : { s.shift i l with
          key := none, tokens := s.tokens.insertIdxIfInBounds k.token .key } =
        { s with key := none, tokens := s.tokens.insertIdxIfInBounds k.token .key }.shift i l := rfl
      simp only [Option.map_some, tokens_shift, Key.shift, hput, inFlow_shift, openBlock_shift]
      rw [← apply_ite (shift i l), take_shift]
      rfl

theorem blockText_shift : (s.shift i l).blockText = s.blockText.map (shift i l) := by
  unfold blockText
  rw [dropKey_allowed_shift]
  refine bind_shift i l _ fun s => ?_
  rw [pos_shift, indent_shift, block_shift]
  cases block s.indent s.pos <;> rfl

theorem plainText_shift : (s.shift i l).plainText = s.plainText.map (shift i l) := by
  unfold plainText
  rw [noteKey_shift]
  refine bind_shift i l _ fun s => ?_
  rw [pos_shift, indent_shift, inFlow_shift, plain_shift]
  rfl

theorem named_shift (t : String → Token) (p : Position) :
    named t (p.shift i l) = (named t p).map (shifted i l) := by
  unfold named
  rw [anchorName_shift]
  exact bind_shifted i l _ fun name after => rfl

theorem quotedText_shift (quote : Char) (p : Position) :
    quotedText quote (p.shift i l) = (quotedText quote p).map (shifted i l) := by
  unfold quotedText
  rw [quoted_shift]
  exact bind_shifted i l _ fun text after => rfl

theorem token_shift (c : Char) : (s.shift i l).token c = (s.token c).map (shift i l) := by
  unfold token
  simp only [pos_shift, inFlow_shift, Position.column_shift, Position.peek_shift,
    Position.atMark_shift, separator_shift i l _ (directive_shift i l), separator_mark_shift,
    openFlow_shift, closeFlow_shift, flowEntry_shift, blockEntry_shift, explicitKey_shift,
    value_shift, node_shift i l _ (named_shift i l _), node_shift i l _ (tag_shift i l),
    blockText_shift, node_shift i l _ (quotedText_shift i l c), plainText_shift,
    apply_ite (Except.map (shift i l))]
  rfl

theorem step_shift : (s.shift i l).step = s.step.map (shift i l) := by
  unfold step
  simp only [pos_shift, Position.rest_shift, toNext_shift, dropStale_shift]
  refine bind_shift i l _ fun s => ?_
  simp only [pos_shift, Position.column_shift, unwind_shift, Position.peek_shift]
  cases (s.unwind s.pos.column).pos.peek with
  | none => exact finish_shift i l _
  | some c => exact token_shift i l _ c

/-- The tokens do not tell how far the start of the text is. -/
theorem run_shift (fuel : Nat) : (s.shift i l).run fuel = s.run fuel := by
  induction fuel generalizing s with
  | zero => rfl
  | succ fuel ih =>
      unfold run
      rw [step_shift]
      rcases s.step with e | next
      · rfl
      · simp only [Except.map, tokens_shift, ih]

end Scan

end RowGuard.Yaml
