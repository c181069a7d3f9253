import Mathlib.Data.List.Infix
import RowGuard.Environment.Placeholder

/-!
# Placeholders of a line

The placeholders of a text are found from left to right, so a line in which every one that opens is
closed has its own, whatever follows the line, and is filled in by itself.
-/

namespace RowGuard.Placeholder

/-- Every placeholder that opens in the text is closed in it. -/
def Closed (text : List Char) : Prop :=
  ∀ rest ∈ text.tails, ∀ opened ∈ opening? rest, '}' ∈ opened

instance (text : List Char) : Decidable (Closed text) :=
  inferInstanceAs (Decidable (∀ rest ∈ text.tails, ∀ opened ∈ opening? rest, '}' ∈ opened))

theorem Closed.of_suffix {text rest : List Char} (h : Closed text) (hrest : rest <:+ text) :
    Closed rest :=
  fun tail htail => h tail ((List.mem_tails _ _).mpr (((List.mem_tails _ _).mp htail).trans hrest))

theorem Closed.mem_of_opening? {text opened : List Char} (h : Closed text)
    (hopened : opening? text = some opened) : '}' ∈ opened :=
  h text ((List.mem_tails _ _).mpr (List.suffix_refl text)) opened hopened

/-! ## The pieces of a text -/

theorem opening?_eq_some {text rest : List Char} (h : opening? text = some rest) :
    text = '$' :: '{' :: rest := by
  unfold opening? at h
  split at h
  · rw [Option.some.inj h]
  · cases h

theorem name?_eq_some {text name rest : List Char} (h : name? text = some (name, rest)) :
    ∃ c, text = name ++ c :: rest := by
  have hparts := List.takeWhile_append_dropWhile (p := (· ≠ '}')) (l := text)
  unfold name? at h
  dsimp only at h
  split at h
  · cases h
  · rename_i c tail hdrop
    split at h
    · cases h
    · obtain ⟨rfl, rfl⟩ := Prod.mk.inj (Option.some.inj h)
      rw [hdrop] at hparts
      exact ⟨c, hparts.symm⟩

/-- Up to its first closing brace a text is a name. -/
theorem name?_of_closed {name : List Char} (h : '}' ∉ name) (rest : List Char) :
    name? (name ++ '}' :: rest) = if name.isEmpty then none else some (name, rest) := by
  have hname : ∀ c ∈ name, decide (c ≠ '}') = true := by
    intro c hc
    rw [decide_eq_true_eq]
    rintro rfl
    exact h hc
  unfold name?
  rw [List.takeWhile_append_of_pos hname, List.dropWhile_append_of_pos hname]
  have htake : ('}' :: rest).takeWhile (· ≠ '}') = [] := rfl
  have hdrop : ('}' :: rest).dropWhile (· ≠ '}') = '}' :: rest := rfl
  rw [htake, hdrop, List.append_nil]

/-- A name ends at the first closing brace, whatever follows. -/
theorem name?_append {text : List Char} (h : '}' ∈ text) (more : List Char) :
    name? (text ++ more) = (name? text).map fun r => (r.1, r.2 ++ more) := by
  obtain ⟨name, rest, rfl, hname⟩ := List.eq_append_cons_of_mem h
  rw [List.append_assoc, List.cons_append, name?_of_closed hname, name?_of_closed hname]
  split <;> rfl

/-- What follows a placeholder is shorter. -/
theorem length_lt_of_name? {text : List Char} {r : List Char × List Char}
    (h : (opening? text).bind name? = some r) : r.2 <:+ text ∧ r.2.length < text.length := by
  obtain ⟨opened, hopened, hname⟩ := Option.bind_eq_some_iff.mp h
  obtain ⟨c, hc⟩ := name?_eq_some hname
  rw [opening?_eq_some hopened, hc]
  refine ⟨⟨'$' :: '{' :: r.1 ++ [c], by simp⟩, ?_⟩
  simp
  omega

/-- What looks for no fewer pieces than there are characters finds them all. -/
theorem piecesFrom_of_length_le {fuel more : Nat} {text : List Char} (h : text.length ≤ fuel)
    (hmore : text.length ≤ more) : piecesFrom fuel text = piecesFrom more text := by
  induction fuel generalizing text more with
  | zero =>
      obtain rfl := List.length_eq_zero_iff.mp (Nat.le_zero.mp h)
      cases more <;> rfl
  | succ fuel ih =>
      cases text with
      | nil => cases more <;> rfl
      | cons c rest =>
          obtain ⟨more, rfl⟩ := Nat.exists_eq_add_one_of_ne_zero (Nat.ne_zero_of_lt hmore)
          have hrest : ∀ tail : List Char, tail.length < (c :: rest).length →
              piecesFrom fuel tail = piecesFrom more tail :=
            fun tail htail => ih (Nat.le_of_lt_succ (Nat.lt_of_lt_of_le htail h))
              (Nat.le_of_lt_succ (Nat.lt_of_lt_of_le htail hmore))
          rw [piecesFrom, piecesFrom]
          split
          · rename_i hfound
            rw [hrest _ (length_lt_of_name? hfound).2]
          · rw [hrest rest (Nat.lt_succ_self _)]

theorem pieces_cons (c : Char) (rest : List Char) :
    pieces (c :: rest) = match (opening? (c :: rest)).bind name? with
      | some (name, rest) => .name name :: pieces rest
      | none => .literal c :: pieces rest := by
  rw [pieces, List.length_cons, piecesFrom]
  cases hfound : (opening? (c :: rest)).bind name? with
  | none => rfl
  | some r =>
      have hle := Nat.le_of_lt_succ (length_lt_of_name? hfound).2
      exact congrArg (Piece.name r.1 :: ·) (piecesFrom_of_length_le hle (Nat.le_refl _))

/-- The end of a line opens nothing. -/
theorem opening?_line (line text : List Char) :
    opening? (line ++ '\n' :: text) = (opening? line).map (· ++ '\n' :: text) := by
  cases hopened : opening? line with
  | some rest =>
      rw [opening?_eq_some hopened]
      rfl
  | none =>
      cases hmore : opening? (line ++ '\n' :: text) with
      | none => rfl
      | some rest =>
          have heq := opening?_eq_some hmore
          rcases line with _ | ⟨c, _ | ⟨d, line⟩⟩
          · cases heq
          · cases heq
          · cases heq
            cases hopened

/-- The pieces of a line, and of what follows it. -/
theorem pieces_line {line : List Char} (h : Closed line) (text : List Char) :
    pieces (line ++ '\n' :: text) = pieces line ++ .literal '\n' :: pieces text := by
  -- a placeholder takes many characters at once, so the induction is on the length of the line
  induction hn : line.length using Nat.strongRecOn generalizing line with
  | ind n ih =>
      cases line with
      | nil => exact pieces_cons '\n' text
      | cons c rest =>
          have hfound : (opening? (c :: rest ++ '\n' :: text)).bind name? =
              ((opening? (c :: rest)).bind name?).map fun r => (r.1, r.2 ++ '\n' :: text) := by
            rw [opening?_line]
            cases hopened : opening? (c :: rest) with
            | none => rfl
            | some opened => exact name?_append (h.mem_of_opening? hopened) _
          rw [List.cons_append] at hfound ⊢
          rw [pieces_cons, hfound, pieces_cons]
          cases hname : (opening? (c :: rest)).bind name? with
          | none =>
              have hrest := ih rest.length (hn ▸ Nat.lt_succ_self _)
                (h.of_suffix (List.suffix_cons c rest)) rfl
              exact congrArg (Piece.literal c :: ·) hrest
          | some r =>
              obtain ⟨hsuffix, hlt⟩ := length_lt_of_name? hname
              have hrest := ih r.2.length (hn ▸ hlt) (h.of_suffix hsuffix) rfl
              exact congrArg (Piece.name r.1 :: ·) hrest

/-! ## Filling in -/

theorem fill_append (vars : Variables) (a b : List Piece) :
    fill vars (a ++ b) = do return (← fill vars a) ++ (← fill vars b) := by
  induction a with
  | nil =>
      rw [List.nil_append, fill]
      cases fill vars b <;> rfl
  | cons piece a ih =>
      cases piece with
      | literal c =>
          rw [List.cons_append, fill, fill, ih]
          cases fill vars a with
          | error e => rfl
          | ok x => cases fill vars b <;> rfl
      | name n =>
          rw [List.cons_append, fill, fill, ih]
          cases vars.get? (String.ofList n) with
          | none => rfl
          | some value =>
              cases fill vars a with
              | error e => rfl
              | ok x =>
                  cases fill vars b with
                  | error e => rfl
                  | ok y => exact congrArg Except.ok (List.append_assoc ..).symm

/-- Only a dollar sign can begin a placeholder. -/
theorem head?_substitute {vars : Variables} {text filled : List Char} {c : Char}
    (h : substitute vars text = .ok filled) (hhead : text.head? = some c) (hc : c ≠ '$') :
    filled.head? = some c := by
  cases text with
  | nil => cases hhead
  | cons d rest =>
      obtain rfl := Option.some.inj hhead
      have hopened : opening? (d :: rest) = none := by
        cases hopened : opening? (d :: rest) with
        | none => rfl
        | some opened => exact absurd (List.head_eq_of_cons_eq (opening?_eq_some hopened)) hc
      rw [substitute, pieces_cons, hopened, Option.bind_none, fill] at h
      cases hrest : fill vars (pieces rest) with
      | error name =>
          rw [hrest] at h
          cases h
      | ok tail =>
          rw [hrest] at h
          cases h
          rfl

/-- A line is filled in by itself. -/
theorem substitute_line {line : List Char} (h : Closed line) (vars : Variables)
    (text : List Char) :
    substitute vars (line ++ '\n' :: text) = do
      return (← substitute vars line) ++ '\n' :: (← substitute vars text) := by
  rw [substitute, pieces_line h, fill_append, fill, ← substitute, ← substitute]
  cases substitute vars line with
  | error e => rfl
  | ok x => cases substitute vars text <;> rfl

end RowGuard.Placeholder
