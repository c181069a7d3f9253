import Mathlib.Data.List.Forall2
import RowGuard.Message

/-!
# Texts that differ in a name alone

A message is a text with gaps into which the name of a table is filled. Two messages on two names
differ in the name alone when they have the same text around the same gaps. Texts put together from
such parts are such texts again, so a message is followed line by line.
-/

namespace RowGuard

/-- Two texts that are one text around gaps, with the one name and the other in them. -/
def Text.SameButName (name name' text text' : String) : Prop :=
  ∃ parts : List String, text = name.intercalate parts ∧ text' = name'.intercalate parts

namespace Text.SameButName

variable {name name' : String}

/-- A text without a gap. -/
@[simp]
theorem refl (text : String) : SameButName name name' text text :=
  ⟨[text], String.intercalate_singleton.symm, String.intercalate_singleton.symm⟩

/-- The gap itself. -/
theorem self : SameButName name name' name name' :=
  ⟨["", ""], by simp, by simp⟩

/-- The last part of a text and the first of what follows it are one part of the whole. -/
theorem exists_join (parts others : List String) :
    ∃ joined : List String, ∀ name : String,
      name.intercalate parts ++ name.intercalate others = name.intercalate joined := by
  induction parts with
  | nil => exact ⟨others, fun name => by simp⟩
  | cons part parts ih =>
      cases parts with
      | nil =>
          cases others with
          | nil => exact ⟨[part], fun name => by simp⟩
          | cons other others => exact ⟨(part ++ other) :: others, fun name => by simp⟩
      | cons next parts =>
          obtain ⟨joined, hjoined⟩ := ih
          cases joined with
          | nil =>
              refine ⟨[part, ""], fun name => ?_⟩
              rw [String.intercalate_cons_cons, String.append_assoc, hjoined]
              simp
          | cons first joined =>
              refine ⟨part :: first :: joined, fun name => ?_⟩
              rw [String.intercalate_cons_cons, String.append_assoc, hjoined,
                String.intercalate_cons_cons]

theorem append {text text' other other' : String} (h : SameButName name name' text text')
    (hother : SameButName name name' other other') :
    SameButName name name' (text ++ other) (text' ++ other') := by
  obtain ⟨parts, rfl, rfl⟩ := h
  obtain ⟨others, rfl, rfl⟩ := hother
  obtain ⟨joined, hjoined⟩ := exists_join parts others
  exact ⟨joined, hjoined name, hjoined name'⟩

/-- A message is such a text if each of its lines is. -/
theorem ofLines {lines lines' : List String}
    (h : List.Forall₂ (SameButName name name') lines lines') :
    SameButName name name' (Message.ofLines lines) (Message.ofLines lines') := by
  unfold Message.ofLines
  induction h with
  | nil => exact refl _
  | cons hline hlines ih =>
      cases hlines with
      | nil => simpa using hline
      | cons hnext hmore =>
          rw [String.intercalate_cons_cons, String.intercalate_cons_cons]
          exact (hline.append (refl _)).append ih

end Text.SameButName

/-! ## The messages -/

namespace Message

open Text.SameButName

variable (name name' : String)

theorem invalidQuery_sameButName (source joined : Option String) :
    Text.SameButName name name' (invalidQuery name source joined)
      (invalidQuery name' source joined) := by
  unfold invalidQuery
  refine Text.SameButName.ofLines ?_
  simp only [List.forall₂_cons, List.forall₂_nil_left_iff, Text.SameButName.refl, true_and,
    and_true]
  exact ((refl _).append self).append (refl _)

theorem missingFilter_sameButName :
    Text.SameButName name name' (missingFilter name) (missingFilter name') := by
  unfold missingFilter
  refine Text.SameButName.ofLines ?_
  simp only [List.forall₂_cons, List.forall₂_nil_left_iff, Text.SameButName.refl, true_and,
    and_true]
  exact ⟨((refl _).append self).append (refl _), (refl _).append self⟩

theorem missingColumns_sameButName (columns : List String) :
    Text.SameButName name name' (missingColumns name columns) (missingColumns name' columns) := by
  unfold missingColumns
  refine Text.SameButName.ofLines ?_
  simp only [List.forall₂_cons, List.forall₂_nil_left_iff, Text.SameButName.refl, and_true]
  exact ((refl _).append self).append (refl _)

end Message

end RowGuard
