import Mathlib.Data.List.Dedup
import RowGuard.Outcome
import RowGuard.Proofs.Text.Quoted

/-!
# The written form of an outcome

An outcome is told from any other in three ways: as a value, by the kind and the text that are
compared and hashed, and by its written form. Here the three come to the same. The written form names
the kind and quotes the text, so a text that imitates another form stays within its quotes, and the
reason `None` is written otherwise than no reason at all.

A set of outcomes is made by comparing only those whose hashes agree. Equal outcomes are hashed alike,
so no hash keeps two of them apart, and the set has one member for each written form.
-/

namespace RowGuard.Outcome

/-! ## What is compared -/

/-- Outcomes are equal when their kinds are and what they carry is. -/
theorem identity_injective : Function.Injective identity := by
  intro a b h
  -- the kinds have different names, and one kind carries one text
  cases a <;> cases b <;> simp_all [identity]

/-! ## What is written -/

/-- How the written forms of the kinds begin. -/
def openings : List (List Char) :=
  ["Clause(text=".toList, "NoMatch(reason=".toList, "Invalid(message=".toList]

/-- What shows a reason, or the absence of one. -/
def shownReason (reason : Option String) : List Char :=
  (reason.map fun r => Text.quoted r.toList).getD "None".toList

/-- The parts of a written form: what stands ahead of the text that is shown, and that text. -/
def parts? : Outcome → Option (List Char × List Char)
  | clause text => some ("Clause(text=".toList, Text.quoted text.toList)
  | noMatch reason => some ("NoMatch(reason=".toList, shownReason reason)
  | invalid message => some ("Invalid(message=".toList, Text.quoted message.toList)
  | unknown => none

theorem toList_quote_between (opening text : String) :
    (opening ++ Text.quote text ++ ")").toList =
      opening.toList ++ (Text.quoted text.toList ++ [')']) := by
  rw [String.toList_append, String.toList_append, Text.quote, String.toList_ofList,
    List.append_assoc]
  rfl

/-- A written form is its two parts and a parenthesis. -/
theorem written?_eq (outcome : Outcome) : outcome.written?.map String.toList =
    outcome.parts?.map fun parts => parts.1 ++ (parts.2 ++ [')']) := by
  cases outcome with
  | clause text => exact congrArg some (toList_quote_between "Clause(text=" text)
  | noMatch reason =>
      cases reason with
      | none => rfl
      | some reason => exact congrArg some (toList_quote_between "NoMatch(reason=" reason)
  | invalid message => exact congrArg some (toList_quote_between "Invalid(message=" message)
  | unknown => rfl

theorem mem_openings {outcome : Outcome} {parts : List Char × List Char}
    (h : outcome.parts? = some parts) : parts.1 ∈ openings := by
  have hall : ∀ p ∈ outcome.parts?, p.1 ∈ openings := by
    cases outcome <;> simp [parts?, openings]
  exact hall parts h

/-- The first letter of a written form tells how it begins. -/
theorem openings_apart : ∀ u ∈ openings, ∀ v ∈ openings,
    u ≠ [] ∧ (u.head? = v.head? → u = v) := by
  decide

/-- The parts can be told from what they spell. -/
theorem parts_eq_of_spelled {u v shown shown' : List Char} (hu : u ∈ openings) (hv : v ∈ openings)
    (h : u ++ (shown ++ [')']) = v ++ (shown' ++ [')'])) : u = v ∧ shown = shown' := by
  obtain ⟨hne, hsame⟩ := openings_apart u hu v hv
  have hne' := (openings_apart v hv u hu).1
  have hhead := congrArg List.head? h
  rw [List.head?_append_of_ne_nil _ hne, List.head?_append_of_ne_nil _ hne'] at hhead
  obtain rfl := hsame hhead
  exact ⟨rfl, List.append_cancel_right (List.append_cancel_left h)⟩

/-- A quoted reason does not begin as the word for its absence does. -/
theorem shownReason_injective : Function.Injective shownReason := by
  have hquoted : ∀ reason, shownReason (some reason) ≠ shownReason none := by
    intro reason h
    have hhead : some (Text.quoteMark reason.toList) = some 'N' := congrArg List.head? h
    rcases Text.quoteMark_cases reason.toList with hmark | hmark
    · rw [hmark] at hhead
      exact absurd hhead (by decide)
    · rw [hmark] at hhead
      exact absurd hhead (by decide)
  intro a b h
  cases a with
  | none =>
      cases b with
      | none => rfl
      | some reason => exact absurd h.symm (hquoted reason)
  | some reason =>
      cases b with
      | none => exact absurd h (hquoted reason)
      | some other =>
          exact congrArg some (String.toList_injective (Text.quoted_injective h))

theorem parts?_injective : Function.Injective parts? := by
  intro a b h
  cases a with
  | clause text =>
      cases b with
      | clause other =>
          have hshown := (Prod.mk.inj (Option.some.inj h)).2
          exact congrArg clause (String.toList_injective (Text.quoted_injective hshown))
      | _ => simp [parts?] at h
  | noMatch reason =>
      cases b with
      | noMatch other =>
          exact congrArg noMatch (shownReason_injective (Prod.mk.inj (Option.some.inj h)).2)
      | _ => simp [parts?] at h
  | invalid message =>
      cases b with
      | invalid other =>
          have hshown := (Prod.mk.inj (Option.some.inj h)).2
          exact congrArg invalid (String.toList_injective (Text.quoted_injective hshown))
      | _ => simp [parts?] at h
  | unknown =>
      cases b with
      | unknown => rfl
      | _ => simp [parts?] at h

/-- Outcomes that are written alike are equal. -/
theorem written?_injective : Function.Injective written? := by
  intro a b h
  refine parts?_injective ?_
  -- what is spelled alike begins alike, and ends in the same parenthesis
  have hspelled := congrArg (Option.map String.toList) h
  rw [written?_eq, written?_eq] at hspelled
  cases ha : a.parts? with
  | none =>
      rw [ha] at hspelled
      exact (Option.map_eq_none_iff.mp hspelled.symm).symm
  | some parts =>
      rw [ha] at hspelled
      obtain ⟨parts', hb, hsame⟩ := Option.map_eq_some_iff.mp hspelled.symm
      obtain ⟨hopening, hshown⟩ := parts_eq_of_spelled (mem_openings hb) (mem_openings ha) hsame
      rw [hb, Prod.ext hopening hshown]

/-! ## Sets -/

/-- The members of a set that is made with a hash. One of a list is left out where a later one has
its hash and equals it. -/
def distinctBy {κ : Type} [DecidableEq κ] (hash : String × List (Option String) → κ) :
    List Outcome → List Outcome
  | [] => []
  | o :: rest =>
    if rest.any fun other => hash other.identity = hash o.identity && other.identity = o.identity
    then distinctBy hash rest
    else o :: distinctBy hash rest

/-- No hash keeps equal outcomes apart. -/
theorem distinctBy_eq {κ : Type} [DecidableEq κ] (hash : String × List (Option String) → κ)
    (outcomes : List Outcome) : distinctBy hash outcomes = distinct outcomes := by
  induction outcomes with
  | nil => rfl
  | cons o rest ih =>
      have hin : (rest.any fun other =>
          hash other.identity = hash o.identity && other.identity = o.identity) =
            rest.contains o := by
        rw [Bool.eq_iff_iff, List.any_eq_true, List.contains_iff_mem]
        constructor
        · rintro ⟨other, hother, hsame⟩
          rw [Bool.and_eq_true, decide_eq_true_eq, decide_eq_true_eq] at hsame
          exact identity_injective hsame.2 ▸ hother
        · intro ho
          exact ⟨o, ho, by simp⟩
      rw [distinctBy, distinct, hin, ih]

theorem distinct_eq_dedup (outcomes : List Outcome) : distinct outcomes = outcomes.dedup := by
  induction outcomes with
  | nil => rfl
  | cons o rest ih =>
      rw [distinct, ih]
      by_cases h : o ∈ rest
      · rw [if_pos (List.contains_iff_mem.mpr h), List.dedup_cons_of_mem h]
      · rw [if_neg (fun hc => h (List.contains_iff_mem.mp hc)), List.dedup_cons_of_notMem h]

/--
**The written form of an outcome identifies it.**

Two outcomes are equal exactly if they are written alike, and exactly if their kinds and what they
carry are equal. A set of outcomes, whatever hash it is made with, has as many members as the outcomes
have written forms.
-/
theorem written_identifies :
    (∀ a b : Outcome, a = b ↔ a.written? = b.written?) ∧
    (∀ a b : Outcome, a = b ↔ a.identity = b.identity) ∧
    ∀ (outcomes : List Outcome) {κ : Type} [DecidableEq κ]
      (hash : String × List (Option String) → κ),
      (distinctBy hash outcomes).length = (outcomes.map written?).dedup.length := by
  refine ⟨fun a b => written?_injective.eq_iff.symm, fun a b => identity_injective.eq_iff.symm, ?_⟩
  intro outcomes κ _ hash
  rw [distinctBy_eq, distinct_eq_dedup, List.dedup_map_of_injective written?_injective,
    List.length_map]

end RowGuard.Outcome
