import RowGuard.Proofs.Query.Target
import RowGuard.Proofs.Text.Parts

/-!
# What bears on the targets

Of the words of a fragment only those that name a table bear on its targets: each `from` and each
`join`, with the word that follows it. Reading the words comes to gathering these namings, and where
a text ends in no keyword of its own, the namings of what follows are simply put after its own.

Besides its namings a fragment has one more say: whether the letters of `join` stand in it. They
decide when gathering stops, and so which of several sources is kept; where there is one source only,
they decide nothing.
-/

namespace RowGuard.Query

/-- A word that names the one after it. -/
def IsKey (word : List Char) : Prop := word = "from".toList ∨ word = "join".toList

instance (word : List Char) : Decidable (IsKey word) := inferInstanceAs (Decidable (_ ∨ _))

/-- The keys among the words, each with the word that follows it. -/
def namings : List (List Char) → List (List Char × List Char)
  | word :: next :: rest =>
    if IsKey word then (word, next) :: namings (next :: rest) else namings (next :: rest)
  | _ => []

/-- The last of the words, if there is one, is no key. -/
def EndsFree (words : List (List Char)) : Prop := ∀ word ∈ words.getLast?, ¬ IsKey word

instance (words : List (List Char)) : Decidable (EndsFree words) :=
  match h : words.getLast? with
  | none => .isTrue fun _ hw => absurd (h.symm.trans hw).symm (Option.some_ne_none _)
  | some word => decidable_of_iff (¬ IsKey word)
      ⟨fun hfree _ hw => Option.some.inj (h.symm.trans hw) ▸ hfree, fun hfree => hfree word h⟩

/-- All the namings are of one source. -/
def SoleSource (named : List (List Char × List Char)) : Prop :=
  ∃ name, ∀ n ∈ named, n = ("from".toList, name)

/-- Takes in namings until the targets are settled. -/
def Targets.gather (joins : Bool) (t : Targets) : List (List Char × List Char) → Targets
  | [] => t
  | (word, next) :: rest =>
    if (t.note joins word next).settled joins then t.note joins word next
    else gather joins (t.note joins word next) rest

/-! ## Namings by parts -/

theorem endsFree_cons_cons {word next : List Char} {rest : List (List Char)} :
    EndsFree (word :: next :: rest) ↔ EndsFree (next :: rest) := by
  rw [EndsFree, EndsFree, List.getLast?_cons_cons]

theorem namings_cons {word next : List Char} (rest : List (List Char)) :
    namings (word :: next :: rest) =
      (if IsKey word then [(word, next)] else []) ++ namings (next :: rest) := by
  rw [namings]
  split
  · rfl
  · rfl

theorem namings_append {before : List (List Char)} (h : EndsFree before)
    (after : List (List Char)) : namings (before ++ after) = namings before ++ namings after := by
  induction before with
  | nil => rfl
  | cons word before ih =>
      cases before with
      | nil =>
          -- the last word is followed by the first one after it, and names it if it is a key
          have hword : ¬ IsKey word := h word rfl
          cases after with
          | nil => rfl
          | cons next after =>
              show namings (word :: next :: after) = namings (next :: after)
              rw [namings_cons, if_neg hword, List.nil_append]
      | cons next before =>
          rw [endsFree_cons_cons] at h
          show namings (word :: next :: (before ++ after)) = _
          rw [namings_cons, namings_cons, List.append_assoc]
          exact congrArg _ (ih h)

/-- A key that is not the last word names a table. -/
theorem exists_mem_namings {key : List Char} (hkey : IsKey key) {words : List (List Char)}
    (h : EndsFree words) (hin : key ∈ words) : ∃ next, (key, next) ∈ namings words := by
  induction words with
  | nil => exact absurd hin List.not_mem_nil
  | cons word words ih =>
      cases words with
      | nil =>
          obtain rfl := List.mem_singleton.mp hin
          exact absurd hkey (h key rfl)
      | cons next rest =>
          rw [namings_cons]
          rcases List.mem_cons.mp hin with rfl | hin
          · rw [if_pos hkey]
            exact ⟨next, List.mem_cons_self⟩
          · obtain ⟨name, hname⟩ := ih (endsFree_cons_cons.mp h) hin
            exact ⟨name, List.mem_append_right _ hname⟩

theorem mem_of_mem_namings {key next : List Char} {words : List (List Char)}
    (h : (key, next) ∈ namings words) : key ∈ words := by
  induction words with
  | nil => exact absurd h List.not_mem_nil
  | cons word words ih =>
      cases words with
      | nil => exact absurd h List.not_mem_nil
      | cons other rest =>
          rw [namings_cons, List.mem_append] at h
          rcases h with h | h
          · split at h
            · rw [List.mem_singleton, Prod.mk.injEq] at h
              rw [h.1]
              exact List.mem_cons_self
            · exact absurd h List.not_mem_nil
          · exact List.mem_cons_of_mem _ (ih h)

/-! ## Gathering -/

namespace Targets

variable {joins : Bool} {t : Targets}

theorem note_of_not_isKey {word : List Char} (h : ¬ IsKey word) (joins : Bool)
    (next : List Char) (t : Targets) : t.note joins word next = t := by
  rw [IsKey, not_or] at h
  rw [note, if_neg h.1, decide_eq_false h.2, Bool.and_false]
  rfl

/-- Reading words is gathering their namings. -/
theorem read_eq_gather (ht : t.settled joins = false) (words : List (List Char)) :
    t.read joins words = t.gather joins (namings words) := by
  induction words generalizing t with
  | nil => rfl
  | cons word words ih =>
      cases words with
      | nil => rfl
      | cons next rest =>
          rw [read, namings]
          by_cases hkey : IsKey word
          · rw [if_pos hkey, gather]
            split
            · rfl
            · rename_i hopen
              exact ih (Bool.eq_false_iff.mpr hopen)
          · rw [if_neg hkey, note_of_not_isKey hkey, ht]
            exact ih ht

/-- What is settled by a part is settled. -/
theorem gather_append_of_settled {before : List (List Char × List Char)}
    (ht : t.settled joins = false) (h : (t.gather joins before).settled joins = true)
    (after : List (List Char × List Char)) :
    t.gather joins (before ++ after) = t.gather joins before := by
  induction before generalizing t with
  | nil => exact absurd (h.symm.trans ht) Bool.noConfusion
  | cons n before ih =>
      obtain ⟨word, next⟩ := n
      rw [List.cons_append]
      rw [gather] at h ⊢
      rw [gather]
      split
      · rfl
      · rename_i hopen
        rw [if_neg hopen] at h
        exact ih (Bool.eq_false_iff.mpr hopen) h

/-- What is not, is gathered on. -/
theorem gather_append_of_open {before : List (List Char × List Char)}
    (h : (t.gather joins before).settled joins = false)
    (after : List (List Char × List Char)) :
    t.gather joins (before ++ after) = (t.gather joins before).gather joins after := by
  induction before generalizing t with
  | nil => rfl
  | cons n before ih =>
      obtain ⟨word, next⟩ := n
      rw [List.cons_append]
      rw [gather] at h ⊢
      rw [gather]
      split
      · rename_i hdone
        rw [if_pos hdone] at h
        exact absurd (hdone.symm.trans h) Bool.noConfusion
      · rename_i hopen
        rw [if_neg hopen] at h
        exact ih h

theorem note_source_isSome {word : List Char}
    (h : t.source.isSome = true ∨ word = "from".toList) (joins : Bool) (next : List Char) :
    (t.note joins word next).source.isSome = true := by
  show (if word = "from".toList then some next else t.source).isSome = true
  split
  · rfl
  · exact h.resolve_right ‹_›

theorem note_joined_isSome {word : List Char}
    (h : t.joined.isSome = true ∨ word = "join".toList) (next : List Char) :
    (t.note true word next).joined.isSome = true := by
  show (if (true && decide (word = "join".toList)) = true then some next
    else t.joined).isSome = true
  rw [Bool.true_and]
  split
  · rfl
  · rename_i hword
    exact h.resolve_right fun heq => hword (decide_eq_true heq)

/-- A source, and a joined table where one is looked for, settle the targets. -/
theorem settled_gather {named : List (List Char × List Char)}
    (hsource : t.source.isSome = true ∨ ∃ next, ("from".toList, next) ∈ named)
    (hjoined : joins = true → t.joined.isSome = true ∨ ∃ next, ("join".toList, next) ∈ named) :
    (t.gather joins named).settled joins = true := by
  induction named generalizing t with
  | nil =>
      have hnone : ∀ key, ¬ ∃ next, (key, next) ∈ ([] : List (List Char × List Char)) := by
        rintro key ⟨next, hin⟩
        exact List.not_mem_nil hin
      rw [gather, settled, hsource.resolve_right (hnone _), Bool.true_and]
      cases joins with
      | false => rfl
      | true => exact (hjoined rfl).resolve_right (hnone _)
  | cons n named ih =>
      obtain ⟨word, next⟩ := n
      -- a key that is named is the key of the first naming, or is named later
      have hnamed : ∀ key, (∃ name, (key, name) ∈ (word, next) :: named) →
          word = key ∨ ∃ name, (key, name) ∈ named := by
        rintro key ⟨name, hin⟩
        rcases List.mem_cons.mp hin with heq | hin
        · exact Or.inl (Prod.mk.inj heq).1.symm
        · exact Or.inr ⟨name, hin⟩
      rw [gather]
      split
      · assumption
      -- the first naming is taken in for good: what it gave is replaced, but never given up
      · refine ih ?_ fun hj => ?_
        · rcases or_assoc.mpr (hsource.imp_right (hnamed _)) with h | h
          · exact Or.inl (note_source_isSome h joins next)
          · exact Or.inr h
        · rcases or_assoc.mpr ((hjoined hj).imp_right (hnamed _)) with h | h
          · exact Or.inl (hj ▸ note_joined_isSome h next)
          · exact Or.inr h

/-- What has been found was there before, or is named. -/
theorem isSome_of_gather {target : Targets → Option (List Char)} {key : List Char}
    (hnote : ∀ word next t, (target (note joins word next t)).isSome = true →
      word = key ∨ (target t).isSome = true)
    {named : List (List Char × List Char)} (h : (target (t.gather joins named)).isSome = true) :
    (target t).isSome = true ∨ ∃ next, (key, next) ∈ named := by
  induction named generalizing t with
  | nil => exact Or.inl h
  | cons n named ih =>
      obtain ⟨word, next⟩ := n
      have hmem : (target (note joins word next t)).isSome = true →
          (target t).isSome = true ∨ ∃ name, (key, name) ∈ (word, next) :: named := by
        intro hnew
        rcases hnote word next t hnew with rfl | hold
        · exact Or.inr ⟨next, List.mem_cons_self⟩
        · exact Or.inl hold
      rw [gather] at h
      split at h
      · exact hmem h
      · rcases ih h with hnew | ⟨name, hin⟩
        · exact hmem hnew
        · exact Or.inr ⟨name, List.mem_cons_of_mem _ hin⟩

theorem isSome_of_source {named : List (List Char × List Char)}
    (h : (t.gather joins named).source.isSome = true) :
    t.source.isSome = true ∨ ∃ next, ("from".toList, next) ∈ named :=
  isSome_of_gather (fun word next t hnew => by
    change (if word = "from".toList then some next else t.source).isSome = true at hnew
    split at hnew
    · exact Or.inl ‹_›
    · exact Or.inr hnew) h

theorem isSome_of_joined {named : List (List Char × List Char)}
    (h : (t.gather joins named).joined.isSome = true) :
    t.joined.isSome = true ∨ ∃ next, ("join".toList, next) ∈ named :=
  isSome_of_gather (fun word next t hnew => by
    change (if (joins && decide (word = "join".toList)) = true then some next
      else t.joined).isSome = true at hnew
    split at hnew
    · rename_i hword
      rw [Bool.and_eq_true] at hword
      exact Or.inl (of_decide_eq_true hword.2)
    · exact Or.inr hnew) h

/-- Namings of one source give that source. -/
theorem gather_of_sole {name : List Char} {named : List (List Char × List Char)}
    (h : ∀ n ∈ named, n = ("from".toList, name)) (hs : t.source = some name ∨ named ≠ []) :
    t.gather joins named = { t with source := some name } := by
  have hnote : ∀ t : Targets, t.note joins "from".toList name = { t with source := some name } := by
    intro t
    rw [note, if_pos rfl, show decide ("from".toList = "join".toList) = false from rfl,
      Bool.and_false]
    rfl
  induction named generalizing t with
  | nil => rw [gather, ← hs.resolve_right fun hne => hne rfl]
  | cons n named ih =>
      obtain rfl := h n List.mem_cons_self
      rw [gather, hnote]
      split
      · rfl
      · exact ih (fun n hn => h n (List.mem_cons_of_mem _ hn)) (Or.inl rfl)

/-- With one source it does not matter whether joined tables are looked for. -/
theorem gather_eq_of_sole {named : List (List Char × List Char)} (h : SoleSource named)
    (joins joins' : Bool) : gather joins {} named = gather joins' {} named := by
  obtain ⟨name, hname⟩ := h
  by_cases hnil : named = []
  · rw [hnil]
    rfl
  · rw [gather_of_sole hname (Or.inr hnil), gather_of_sole hname (Or.inr hnil)]

end Targets

/-! ## The targets of a fragment -/

/-- The targets of a fragment are gathered from its namings. -/
theorem targets_eq_gather (fragment : List Char) :
    targets fragment =
      Targets.gather (mentionsJoin fragment) {} (namings (Text.words fragment)) :=
  Targets.read_eq_gather rfl _

/-- Two fragments name the same tables, and the letters of `join` stand in both or in neither, unless
one source is all that they name. -/
structure SameNamings (f g : List Char) : Prop where
  named : namings (Text.words f) = namings (Text.words g)
  joins : mentionsJoin f = mentionsJoin g ∨ SoleSource (namings (Text.words g))

/-- Such fragments have the same targets. -/
theorem SameNamings.targets_eq {f g : List Char} (h : SameNamings f g) : targets f = targets g := by
  rw [targets_eq_gather, targets_eq_gather, h.named]
  rcases h.joins with hjoin | hsole
  · rw [hjoin]
  · exact Targets.gather_eq_of_sole hsole _ _

/-- The letters of `join` are not broken by where the second part starts. -/
theorem mentionsJoin_append {body : List Char} (hbody : Text.Apart body) (head : List Char) :
    mentionsJoin (head ++ body) = (mentionsJoin head || mentionsJoin body) := by
  have hsolid : Text.Solid "join".toList := by decide
  exact Text.occursIn_append hsolid hbody head

/-- The targets of a fragment made of two parts, the first of which ends in no key. -/
theorem targets_append {head body : List Char} (hbody : Text.Apart body)
    (hhead : EndsFree (Text.words head)) :
    targets (head ++ body) = Targets.gather (mentionsJoin head || mentionsJoin body) {}
      (namings (Text.words head) ++ namings (Text.words body)) := by
  rw [targets_eq_gather, mentionsJoin_append hbody, Text.words_append hbody, namings_append hhead]

end RowGuard.Query
