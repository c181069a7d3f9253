import RowGuard.Proofs.Text.Search
import RowGuard.Proofs.Text.Words
import RowGuard.Query.Target

/-!
# Which tables a fragment names

A fragment has at most two targets, the word after a `from` and the word after a `join`. Which of
several such words is kept depends on where reading stops, but a word that stands after every `from`
is kept in any case, and so is one that stands after every `join`.
-/

namespace RowGuard.Query

/-- The name is that of one of the targets. -/
def Targets.Names (t : Targets) (name : List Char) : Prop :=
  t.source = some name ∨ t.joined = some name

instance (t : Targets) (name : List Char) : Decidable (t.Names name) :=
  inferInstanceAs (Decidable (_ ∨ _))

theorem reads_iff {fragment table : List Char} :
    reads fragment table = true ↔ (targets fragment).Names (Text.lower table) := by
  rw [reads, Bool.or_eq_true, beq_iff_eq, beq_iff_eq]
  rfl

/-- The key is among the words, followed by `next`, and by nothing else wherever it is followed. -/
def Follows (key next : List Char) (words : List (List Char)) : Prop :=
  [key, next] <:+: words ∧ ∀ other, [key, other] <:+: words → other = next

instance (key next : List Char) (words : List (List Char)) : Decidable (Follows key next words) :=
  decidable_of_iff
    ([key, next] <:+: words ∧ ∀ other ∈ words, [key, other] <:+: words → other = next)
    (and_congr_right fun _ => ⟨fun h other hin =>
      h other (hin.subset (List.mem_cons_of_mem _ List.mem_cons_self)) hin,
      fun h other _ => h other⟩)

/-! ## What reading finds -/

theorem pair_infix_cons {key next word : List Char} {rest : List (List Char)} :
    [key, next] <:+: word :: rest ↔
      (key = word ∧ ∃ tail, rest = next :: tail) ∨ [key, next] <:+: rest := by
  rw [List.infix_cons_iff, List.cons_prefix_cons]
  refine or_congr_left (and_congr_right fun _ => ?_)
  cases rest with
  | nil => exact ⟨fun h => absurd (List.prefix_nil.mp h) (List.cons_ne_nil _ _),
      fun ⟨tail, h⟩ => absurd h (List.cons_ne_nil _ _).symm⟩
  | cons other rest =>
      rw [List.cons_prefix_cons]
      exact ⟨fun h => ⟨rest, by rw [h.1]⟩,
        fun ⟨tail, h⟩ => ⟨(List.cons.inj h).1.symm, List.nil_prefix⟩⟩

namespace Targets

variable {joins : Bool} {target : Targets → Option (List Char)}

/-- A target that is set by every pair with the key, and without which nothing is settled, is the
word that follows the key. -/
theorem read_eq_some {key next : List Char}
    (hnote : ∀ word following t,
      target (note joins word following t) = if word = key then some following else target t)
    (hsettled : ∀ t, settled joins t = true → (target t).isSome = true)
    {words : List (List Char)} (honly : ∀ other, [key, other] <:+: words → other = next)
    {t : Targets} (hfound : ∀ found, target t = some found → found = next)
    (h : target t = some next ∨ [key, next] <:+: words) :
    target (t.read joins words) = some next := by
  induction words generalizing t with
  | nil => exact h.resolve_right (fun hin => absurd (List.infix_nil.mp hin) (List.cons_ne_nil _ _))
  | cons word rest ih =>
      cases rest with
      | nil =>
          refine h.resolve_right fun hin => ?_
          exact absurd hin.length_le (Nat.not_succ_le_self 1)
      | cons following rest =>
          -- the invariant: what has been found so far is the word that follows the key
          have hset : ∀ found, target (note joins word following t) = some found →
              found = next := by
            intro found hnew
            rw [hnote] at hnew
            by_cases hword : word = key
            · rw [if_pos hword] at hnew
              obtain rfl := Option.some.inj hnew
              exact honly following (pair_infix_cons.mpr (Or.inl ⟨hword.symm, rest, rfl⟩))
            · rw [if_neg hword] at hnew
              exact hfound found hnew
          rw [read]
          split
          · -- what settles has found it, and nothing else can be found
            rename_i hdone
            obtain ⟨found, hnew⟩ := Option.isSome_iff_exists.mp (hsettled _ hdone)
            rw [hnew, hset found hnew]
          · -- otherwise the pair is this one, or lies ahead
            refine ih (fun other hin => honly other (pair_infix_cons.mpr (Or.inr hin))) hset ?_
            by_cases hword : word = key
            · have hnew := hnote word following t
              rw [if_pos hword] at hnew
              exact Or.inl (hnew.trans (congrArg some (hset following hnew)))
            · rw [hnote, if_neg hword]
              refine h.imp_right fun hin => ?_
              exact (pair_infix_cons.mp hin).resolve_left fun hhead => hword hhead.1.symm

/-- What is found is one of the words. -/
theorem mem_of_read
    (hnote : ∀ word following t found, target (note joins word following t) = some found →
      found = following ∨ target t = some found)
    {words : List (List Char)} {t : Targets} {found : List Char}
    (h : target (t.read joins words) = some found) : found ∈ words ∨ target t = some found := by
  induction words generalizing t with
  | nil => exact Or.inr h
  | cons word rest ih =>
      cases rest with
      | nil => exact Or.inr h
      | cons following rest =>
          have hmem : target (note joins word following t) = some found →
              found ∈ word :: following :: rest ∨ target t = some found := by
            intro hnew
            rcases hnote _ _ _ _ hnew with rfl | hold
            · exact Or.inl (List.mem_cons_of_mem _ List.mem_cons_self)
            · exact Or.inr hold
          rw [read] at h
          split at h
          · exact hmem h
          · rcases ih h with hin | hnew
            · exact Or.inl (List.mem_cons_of_mem _ hin)
            · exact hmem hnew

end Targets

/-! ## The targets of a fragment -/

/-- A word that follows every `from`, or every `join`, is a target. -/
theorem names_of_follows {fragment name : List Char}
    (h : Follows "from".toList name (Text.words fragment) ∨
      Follows "join".toList name (Text.words fragment)) : (targets fragment).Names name := by
  rcases h with ⟨hin, honly⟩ | ⟨hin, honly⟩
  · refine Or.inl (Targets.read_eq_some (fun word following t => rfl) ?_ honly ?_ (Or.inr hin))
    · intro t ht
      rw [Targets.settled, Bool.and_eq_true] at ht
      exact ht.1
    · intro found hfound
      exact absurd hfound.symm (Option.some_ne_none found)
  · have hjoin : mentionsJoin fragment = true := by
      have hmem : "join".toList ∈ Text.words fragment := hin.subset List.mem_cons_self
      exact Text.occursIn_iff.mpr (Text.of_mem_words hmem).2
    rw [Targets.Names, targets, hjoin]
    refine Or.inr (Targets.read_eq_some ?_ ?_ honly ?_ (Or.inr hin))
    · intro word following t
      rw [Targets.note, Bool.true_and]
      simp only [decide_eq_true_eq]
    · intro t ht
      rw [Targets.settled, Bool.and_eq_true] at ht
      exact ht.2
    · intro found hfound
      exact absurd hfound.symm (Option.some_ne_none found)

/-- A target is a word of its fragment. -/
theorem mem_words_of_names {fragment name : List Char} (h : (targets fragment).Names name) :
    name ∈ Text.words fragment := by
  have hite : ∀ {set : Prop} [Decidable set] {following found : List Char}
      {old : Option (List Char)}, (if set then some following else old) = some found →
      found = following ∨ old = some found := by
    intro set _ following found old hnew
    split at hnew
    · exact Or.inl (Option.some.inj hnew).symm
    · exact Or.inr hnew
  have hnone : (none : Option (List Char)) ≠ some name := (Option.some_ne_none name).symm
  rcases h with h | h
  · exact (Targets.mem_of_read (fun _ _ _ _ hnew => hite hnew) h).resolve_right hnone
  · exact (Targets.mem_of_read (fun _ _ _ _ hnew => hite hnew) h).resolve_right hnone

/-- The empty name is no word, and so no target. -/
theorem not_names_nil (fragment : List Char) : ¬ (targets fragment).Names [] :=
  fun h => (Text.of_mem_words (mem_words_of_names h)).1 rfl

end RowGuard.Query
