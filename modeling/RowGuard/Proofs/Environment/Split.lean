import RowGuard.Proofs.Environment.Placeholder
import RowGuard.Settings.Load

/-!
# A text cut at its placeholders

Placeholders may look as if they were nested, begin and not end, or have no name; still there is one
way to cut a text at them. A part without a placeholder comes first, then the name up to the next
closing brace, and so on with what follows. Substitution puts the values between the parts and looks
at neither again, so what a value holds is never taken for a placeholder.

The cut is compared with the pieces in which substitution goes over a text: a cut from left to right
has just these pieces, and from the pieces it can be read back, so there is no other.
-/

namespace RowGuard.Placeholder

/-- A text cut at placeholders: a part, and then the name of a placeholder and what follows it. -/
inductive Split where
  | last (part : List Char)
  | hole (part name : List Char) (rest : Split)
  deriving DecidableEq, Repr

/-- No placeholder begins in a part that has `later` behind it: what follows an opening closes at
once or never. -/
def Quiet (part later : List Char) : Prop :=
  ∀ before after, part = before ++ '$' :: '{' :: after →
    (after ++ later).head? = some '}' ∨ '}' ∉ after ++ later

namespace Split

/-- The text that is cut. -/
def text : Split → List Char
  | last part => part
  | hole part name rest => part ++ '$' :: '{' :: (name ++ '}' :: rest.text)

/-- The names of the placeholders, from left to right. -/
def names : Split → List (List Char)
  | last _ => []
  | hole _ name rest => name :: rest.names

/-- The text with a value in the place of each placeholder. -/
def filled (value : List Char → List Char) : Split → List Char
  | last part => part
  | hole part name rest => part ++ value name ++ rest.filled value

/-- No part has a placeholder in it, and a name is not empty and ends at the first closing brace. -/
def Leftmost : Split → Prop
  | last part => Quiet part []
  | hole part name rest =>
    Quiet part ('$' :: '{' :: (name ++ '}' :: rest.text)) ∧ name ≠ [] ∧ '}' ∉ name ∧
      rest.Leftmost

/-- The first name that is not set. -/
def firstUnset? (vars : Variables) (s : Split) : Option (List Char) :=
  s.names.find? fun name => (vars.get? (String.ofList name)).isNone

/-- The value of a variable, and nothing for one that is not set. -/
def valueIn (vars : Variables) (name : List Char) : List Char :=
  ((vars.get? (String.ofList name)).getD "").toList

end Split

instance (part later : List Char) : Decidable (Quiet part later) :=
  decidable_of_iff (∀ tail ∈ part.tails, ∀ after ∈ opening? tail,
    (after ++ later).head? = some '}' ∨ '}' ∉ after ++ later) <| by
    constructor
    · rintro h before after rfl
      exact h _ ((List.mem_tails _ _).mpr (List.suffix_append _ _)) after rfl
    · rintro h tail htail after hafter
      obtain ⟨before, rfl⟩ := (List.mem_tails _ _).mp htail
      obtain rfl := opening?_eq_some hafter
      exact h before after rfl

instance Split.decidableLeftmost : (s : Split) → Decidable s.Leftmost
  | .last part => inferInstanceAs (Decidable (Quiet part []))
  | .hole _ _ rest =>
    have := decidableLeftmost rest
    inferInstanceAs (Decidable (_ ∧ _ ∧ _ ∧ rest.Leftmost))

theorem quiet_cons {c : Char} {part later : List Char} :
    Quiet (c :: part) later ↔ Quiet part later ∧ ∀ after, c :: part = '$' :: '{' :: after →
      (after ++ later).head? = some '}' ∨ '}' ∉ after ++ later := by
  constructor
  · intro h
    refine ⟨fun before after hpart => h (c :: before) after ?_, fun after => h [] after⟩
    rw [hpart, List.cons_append]
  · rintro ⟨hpart, hfirst⟩ before after hsplit
    cases before with
    | nil => exact hfirst after hsplit
    | cons d before => exact hpart before after (List.cons.inj hsplit).2

theorem quiet_nil (later : List Char) : Quiet [] later := by
  intro before after h
  exact absurd h.symm (by simp)

/-! ## Where a placeholder begins -/

theorem name?_of_not_mem {text : List Char} (h : '}' ∉ text) : name? text = none := by
  have hall : ∀ c ∈ text, decide (c ≠ '}') = true := by
    intro c hc
    rw [decide_eq_true_eq]
    rintro rfl
    exact h hc
  have hdrop : text.dropWhile (· ≠ '}') = [] := by
    rw [← List.append_nil text, List.dropWhile_append_of_pos hall]
    rfl
  unfold name?
  rw [hdrop]

/-- There is no name in a text that closes at once or never. -/
theorem name?_eq_none_iff {text : List Char} :
    name? text = none ↔ text.head? = some '}' ∨ '}' ∉ text := by
  by_cases h : '}' ∈ text
  · obtain ⟨name, rest, rfl, hname⟩ := List.eq_append_cons_of_mem h
    rw [name?_of_closed hname]
    cases name with
    | nil => exact ⟨fun _ => Or.inl rfl, fun _ => rfl⟩
    | cons c name =>
        refine ⟨fun hnone => absurd hnone (Option.some_ne_none _), ?_⟩
        rintro (hhead | hnot)
        · exact absurd (Option.some.inj hhead ▸ List.mem_cons_self) hname
        · exact absurd h hnot
  · exact ⟨fun _ => Or.inr h, fun _ => name?_of_not_mem h⟩

/-- In any other it is what stands before the first closing brace. -/
theorem of_name?_eq_some {text name rest : List Char} (h : name? text = some (name, rest)) :
    text = name ++ '}' :: rest ∧ name ≠ [] ∧ '}' ∉ name := by
  by_cases hmem : '}' ∈ text
  · obtain ⟨before, after, rfl, hbefore⟩ := List.eq_append_cons_of_mem hmem
    rw [name?_of_closed hbefore] at h
    split at h
    · exact absurd h.symm (Option.some_ne_none _)
    · rename_i hne
      obtain ⟨rfl, rfl⟩ := Prod.mk.inj (Option.some.inj h)
      exact ⟨rfl, fun hnil => hne (List.isEmpty_iff.mpr hnil), hbefore⟩
  · rw [name?_of_not_mem hmem] at h
    exact absurd h.symm (Option.some_ne_none _)

/-- Where no placeholder begins a character is taken as it is. -/
theorem pieces_literal {c : Char} {rest : List Char}
    (h : ∀ after, c :: rest = '$' :: '{' :: after → after.head? = some '}' ∨ '}' ∉ after) :
    pieces (c :: rest) = .literal c :: pieces rest := by
  have hnone : (opening? (c :: rest)).bind name? = none := by
    cases hopened : opening? (c :: rest) with
    | none => rfl
    | some after => exact name?_eq_none_iff.mpr (h after (opening?_eq_some hopened))
  rw [pieces_cons, hnone]

theorem pieces_placeholder {name : List Char} (hne : name ≠ []) (hname : '}' ∉ name)
    (rest : List Char) :
    pieces ('$' :: '{' :: (name ++ '}' :: rest)) = .name name :: pieces rest := by
  have hopened : opening? ('$' :: '{' :: (name ++ '}' :: rest)) = some (name ++ '}' :: rest) := rfl
  have hfound : name? (name ++ '}' :: rest) = some (name, rest) := by
    rw [name?_of_closed hname, if_neg fun hnil => hne (List.isEmpty_iff.mp hnil)]
  rw [pieces_cons, hopened, Option.bind_some, hfound]

/-- A part without a placeholder is taken as it is, if what follows it is nothing or begins one. -/
theorem pieces_of_quiet {part later : List Char} (h : Quiet part later)
    (hlater : later.head? ≠ some '{') :
    pieces (part ++ later) = part.map .literal ++ pieces later := by
  induction part with
  | nil => rfl
  | cons c part ih =>
      obtain ⟨hpart, hfirst⟩ := quiet_cons.mp h
      rw [List.cons_append, pieces_literal, ih hpart]
      · rfl
      · intro after hsplit
        -- an opening does not reach over the end of the part
        cases part with
        | nil => exact absurd (congrArg List.head? (List.cons.inj hsplit).2) hlater
        | cons d part =>
            obtain ⟨rfl, hrest⟩ := List.cons.inj hsplit
            obtain ⟨rfl, rfl⟩ := List.cons.inj hrest
            exact hfirst part rfl

namespace Split

/-! ## A cut and its pieces -/

/-- The pieces of a cut. -/
def pieces : Split → List Piece
  | last part => part.map .literal
  | hole part name rest => part.map .literal ++ .name name :: rest.pieces

theorem pieces_last (part : List Char) : pieces (last part) = part.map .literal ++ [] :=
  (List.append_nil _).symm

/-- A cut with a character before its first part. -/
def push (c : Char) : Split → Split
  | last part => last (c :: part)
  | hole part name rest => hole (c :: part) name rest

/-- The cut that has the given pieces. -/
def ofPieces : List Piece → Split
  | [] => last []
  | .literal c :: rest => push c (ofPieces rest)
  | .name name :: rest => hole [] name (ofPieces rest)

theorem text_push (c : Char) (s : Split) : (s.push c).text = c :: s.text := by
  cases s with
  | last part => rfl
  | hole part name rest => rfl

theorem leftmost_push {c : Char} {s : Split} (hs : s.Leftmost)
    (h : ∀ after, c :: s.text = '$' :: '{' :: after → after.head? = some '}' ∨ '}' ∉ after) :
    (s.push c).Leftmost := by
  have hquiet : ∀ {part later}, Quiet part later → s.text = part ++ later →
      Quiet (c :: part) later := by
    intro part later hpart htext
    refine quiet_cons.mpr ⟨hpart, fun after hsplit => h (after ++ later) ?_⟩
    rw [htext, ← List.cons_append, hsplit]
    rfl
  cases s with
  | last part => exact hquiet hs (List.append_nil part).symm
  | hole part name rest => exact ⟨hquiet hs.1 rfl, hs.2⟩

theorem ofPieces_literals (part : List Char) (rest : List Piece) :
    ofPieces (part.map .literal ++ rest) = part.foldr push (ofPieces rest) := by
  induction part with
  | nil => rfl
  | cons c part ih => exact congrArg (push c) ih

theorem foldr_push_last (part : List Char) : part.foldr push (last []) = last part := by
  induction part with
  | nil => rfl
  | cons c part ih => rw [List.foldr_cons, ih]; rfl

theorem foldr_push_hole (part name : List Char) (rest : Split) :
    part.foldr push (hole [] name rest) = hole part name rest := by
  induction part with
  | nil => rfl
  | cons c part ih => rw [List.foldr_cons, ih]; rfl

/-- A cut can be read back from its pieces. -/
theorem ofPieces_pieces (s : Split) : ofPieces s.pieces = s := by
  induction s with
  | last part => rw [pieces_last, ofPieces_literals, ofPieces, foldr_push_last]
  | hole part name rest ih => rw [pieces, ofPieces_literals, ofPieces, ih, foldr_push_hole]

/-- A cut from left to right has the pieces in which its text is gone over. -/
theorem pieces_text {s : Split} (hs : s.Leftmost) : Placeholder.pieces s.text = s.pieces := by
  induction s with
  | last part =>
      have hpieces := pieces_of_quiet hs (by decide)
      rw [List.append_nil] at hpieces
      rw [text, hpieces, pieces]
      exact List.append_nil _
  | hole part name rest ih =>
      obtain ⟨hquiet, hne, hname, hrest⟩ := hs
      rw [text, pieces_of_quiet hquiet fun h => absurd (Option.some.inj h) (by decide),
        pieces_placeholder hne hname, ih hrest, pieces]

/-- Every text can be cut from left to right. -/
theorem ofPieces_spec (content : List Char) :
    (ofPieces (Placeholder.pieces content)).text = content ∧
      (ofPieces (Placeholder.pieces content)).Leftmost := by
  -- on the length, since a placeholder is passed at once
  induction hn : content.length using Nat.strongRecOn generalizing content with
  | ind n ih =>
    cases content with
    | nil => exact ⟨rfl, quiet_nil []⟩
    | cons c rest =>
      rw [pieces_cons]
      cases hfound : (opening? (c :: rest)).bind name? with
      | none =>
          obtain ⟨htext, hleftmost⟩ := ih rest.length (hn ▸ Nat.lt_succ_self _) rest rfl
          refine ⟨by rw [ofPieces, text_push, htext], leftmost_push hleftmost ?_⟩
          rw [htext]
          intro after hsplit
          rw [hsplit] at hfound
          exact name?_eq_none_iff.mp hfound
      | some found =>
          obtain ⟨name, after⟩ := found
          obtain ⟨opened, hopened, hname⟩ := Option.bind_eq_some_iff.mp hfound
          obtain ⟨rfl, hne, hclosed⟩ := of_name?_eq_some hname
          obtain ⟨htext, hleftmost⟩ :=
            ih after.length (hn ▸ (length_lt_of_name? hfound).2) after rfl
          refine ⟨?_, quiet_nil _, hne, hclosed, hleftmost⟩
          rw [opening?_eq_some hopened, ofPieces, text, htext]
          rfl

end Split

/-! ## Filling in a cut -/

theorem fill_literals (vars : Variables) (part : List Char) (rest : List Piece) :
    fill vars (part.map .literal ++ rest) = do return part ++ (← fill vars rest) := by
  induction part with
  | nil =>
      show fill vars rest = _
      cases fill vars rest <;> rfl
  | cons c part ih =>
      rw [List.map_cons, List.cons_append, fill, ih]
      cases fill vars rest <;> rfl

namespace Split

/-- The pieces of a cut are filled in from left to right, up to the first name that is not set. -/
theorem fill_pieces (vars : Variables) (s : Split) :
    fill vars s.pieces = match s.firstUnset? vars with
      | some name => .error (String.ofList name)
      | none => .ok (s.filled (valueIn vars)) := by
  induction s with
  | last part =>
      rw [pieces_last, fill_literals]
      exact congrArg Except.ok (List.append_nil part)
  | hole part name rest ih =>
      rw [pieces, fill_literals, fill, ih, firstUnset?, firstUnset?, names, List.find?_cons, filled,
        valueIn]
      cases vars.get? (String.ofList name) with
      | none => rfl
      | some value =>
          cases rest.names.find? (fun name => (vars.get? (String.ofList name)).isNone) with
          | some unset => rfl
          | none => exact congrArg Except.ok (List.append_assoc part value.toList _).symm

end Split

/-- A text is filled in by any cut of it from left to right. -/
theorem substitute_text {s : Split} (hs : s.Leftmost) (vars : Variables) :
    substitute vars s.text = match s.firstUnset? vars with
      | some name => .error (String.ofList name)
      | none => .ok (s.filled (Split.valueIn vars)) := by
  rw [substitute, Split.pieces_text hs, Split.fill_pieces]

/--
**Substitution is one pass from left to right.**

A text can be cut at its placeholders from left to right in exactly one way. The first name of the
cut that is not set is the error, and settings are refused by that name, however documents are read.
If all are set, the parts are kept as they are and the values stand between them as they are,
whatever they hold. A text in which no placeholder begins is not changed.
-/
theorem substitute_split (content : List Char) :
    (∃! s : Split, s.text = content ∧ s.Leftmost) ∧
    (∀ s : Split, s.text = content → s.Leftmost → ∀ vars,
      (substitute vars content = match s.firstUnset? vars with
        | some name => .error (String.ofList name)
        | none => .ok (s.filled (Split.valueIn vars))) ∧
      ∀ name file read, s.firstUnset? vars = some name →
        Settings.ofText read vars file content =
          .error (.settings (.unset (String.ofList name)))) ∧
    (Quiet content [] → ∀ vars, substitute vars content = .ok content) := by
  refine ⟨⟨Split.ofPieces (pieces content), Split.ofPieces_spec content, ?_⟩, ?_, ?_⟩
  · rintro s ⟨rfl, hs⟩
    rw [Split.pieces_text hs, Split.ofPieces_pieces]
  · rintro s rfl hs vars
    refine ⟨substitute_text hs vars, fun name file read hunset => ?_⟩
    rw [Settings.ofText, substitute_text hs, hunset]
  · intro hquiet vars
    have hwhole : (Split.last content).Leftmost := hquiet
    exact substitute_text hwhole vars

/-- A dollar sign before a placeholder, an opening in its name, an empty one and one that is never
closed; the value of the variable looks like a placeholder. -/
theorem substitute_split_nested :
    let s := Split.hole "$".toList "A$\x7bB".toList (.last "$\x7b\x7d$\x7bC".toList)
    let vars : Variables := [("A$\x7bB", "$\x7bD\x7d")]
    s.text = "$$\x7bA$\x7bB\x7d$\x7b\x7d$\x7bC".toList ∧ s.Leftmost ∧
      substitute vars s.text = .ok "$$\x7bD\x7d$\x7b\x7d$\x7bC".toList ∧
      Settings.ofText Yaml.read [] "c.yaml" s.text =
        .error (.settings (.unset "A$\x7bB")) := by
  intro s vars
  have hs : s.Leftmost := by decide
  have hpass := (substitute_split s.text).2.1 s rfl hs
  exact ⟨by decide, hs, (hpass vars).1.trans (by decide), (hpass []).2 _ "c.yaml" _ (by decide)⟩

end RowGuard.Placeholder
