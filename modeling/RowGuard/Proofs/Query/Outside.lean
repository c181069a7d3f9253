import Mathlib.Data.List.Infix
import Mathlib.Tactic.Common
import RowGuard.Query.Group

/-!
# What stands outside groups

Groups are skipped by a walk that jumps. Here they are told by a count instead: the depth rises at
an opening parenthesis and falls at a closing one, but never below zero, and a character stands
outside when the depth before it is zero and it opens nothing. The count goes by parts over `++`,
which the jump does not, and everything said later about fragments is said with it.

The two meet in `outside_afterGroup`: what the walk jumps over holds nothing outside.
-/

namespace RowGuard.Query

/-- The nesting depth after a character. A closing parenthesis outside any group closes nothing. -/
def nest (depth : Nat) (c : Char) : Nat :=
  if c = '(' then depth + 1 else if c = ')' then depth - 1 else depth

/-- How many groups are open after a text, when `depth` were open before it. -/
def depthFrom (depth : Nat) (text : List Char) : Nat := text.foldl nest depth

/-- The characters of a text that stand in no group, when `depth` groups are open before it. -/
def outsideFrom (depth : Nat) : List Char → List Char
  | [] => []
  | c :: rest =>
    if depth = 0 ∧ c ≠ '(' then c :: outsideFrom (nest depth c) rest
    else outsideFrom (nest depth c) rest

/-- The places of these characters, the first character of the text being at `start`. -/
def placesFrom (depth start : Nat) : List Char → List Nat
  | [] => []
  | c :: rest =>
    if depth = 0 ∧ c ≠ '(' then start :: placesFrom (nest depth c) (start + 1) rest
    else placesFrom (nest depth c) (start + 1) rest

/-- The characters outside groups. -/
def outside (text : List Char) : List Char := outsideFrom 0 text

/-- Where they stand. -/
def places (text : List Char) : List Nat := placesFrom 0 0 text

/-- Every group of the text is closed. -/
def Closed (text : List Char) : Prop := depthFrom 0 text = 0

instance (text : List Char) : Decidable (Closed text) :=
  inferInstanceAs (Decidable (depthFrom 0 text = 0))

/-! ## By parts -/

theorem depthFrom_cons (depth : Nat) (c : Char) (rest : List Char) :
    depthFrom depth (c :: rest) = depthFrom (nest depth c) rest := rfl

theorem depthFrom_append (depth : Nat) (pre post : List Char) :
    depthFrom depth (pre ++ post) = depthFrom (depthFrom depth pre) post :=
  List.foldl_append

theorem outsideFrom_append (depth : Nat) (pre post : List Char) :
    outsideFrom depth (pre ++ post)
      = outsideFrom depth pre ++ outsideFrom (depthFrom depth pre) post := by
  induction pre generalizing depth with
  | nil => rfl
  | cons c pre ih =>
      rw [List.cons_append, outsideFrom, outsideFrom, ih, depthFrom_cons]
      split
      · rfl
      · rfl

theorem outside_append {pre : List Char} (hpre : Closed pre) (post : List Char) :
    outside (pre ++ post) = outside pre ++ outside post := by
  rw [outside, outsideFrom_append, show depthFrom 0 pre = 0 from hpre]; rfl

theorem outside_snoc (pre : List Char) (c : Char) :
    outside (pre ++ [c]) = outside pre ++ if depthFrom 0 pre = 0 ∧ c ≠ '(' then [c] else [] := by
  rw [outside, outsideFrom_append]
  rfl

theorem placesFrom_append (depth start : Nat) (pre post : List Char) :
    placesFrom depth start (pre ++ post) =
      placesFrom depth start pre ++
        placesFrom (depthFrom depth pre) (start + pre.length) post := by
  induction pre generalizing depth start with
  | nil => rfl
  | cons c pre ih =>
      rw [List.cons_append, placesFrom, placesFrom, ih, depthFrom_cons, List.length_cons,
        Nat.add_assoc, Nat.add_comm 1 pre.length]
      split
      · rfl
      · rfl

theorem length_placesFrom (depth start : Nat) (text : List Char) :
    (placesFrom depth start text).length = (outsideFrom depth text).length := by
  induction text generalizing depth start with
  | nil => rfl
  | cons c rest ih =>
      rw [placesFrom, outsideFrom]
      split
      · rw [List.length_cons, List.length_cons, ih]
      · exact ih _ _

theorem outsideFrom_sublist (depth : Nat) (text : List Char) :
    (outsideFrom depth text).Sublist text := by
  induction text generalizing depth with
  | nil => exact List.Sublist.slnil
  | cons c rest ih =>
      rw [outsideFrom]
      split
      · exact (ih _).cons_cons c
      · exact (ih _).cons c

/-- Outside any group only an opening parenthesis changes the depth. -/
theorem nest_zero {c : Char} (h : c ≠ '(') : nest 0 c = 0 := by
  rw [nest, if_neg h]
  split
  · rfl
  · rfl

theorem outside_cons {c : Char} (h : c ≠ '(') (rest : List Char) :
    outside (c :: rest) = c :: outside rest := by
  rw [outside, outsideFrom, if_pos ⟨rfl, h⟩, nest_zero h]
  rfl

/-- A character that stands outside groups parts the text where none is open. -/
theorem exists_split_of_outsideFrom {depth : Nat} {text before after : List Char} {c : Char}
    (h : outsideFrom depth text = before ++ c :: after) :
    ∃ pre post, text = pre ++ c :: post ∧ depthFrom depth pre = 0 ∧
      outsideFrom depth pre = before ∧ outside post = after := by
  induction text generalizing depth before with
  | nil =>
      exact absurd h.symm (List.append_ne_nil_of_right_ne_nil before (List.cons_ne_nil c after))
  | cons d rest ih =>
      by_cases hd : depth = 0 ∧ d ≠ '('
      · rw [outsideFrom, if_pos hd] at h
        cases before with
        | nil =>
            obtain ⟨rfl, hrest⟩ := List.cons.inj h
            rw [hd.1, nest_zero hd.2] at hrest
            exact ⟨[], rest, rfl, hd.1, rfl, hrest⟩
        | cons e before =>
            obtain ⟨rfl, hrest⟩ := List.cons.inj h
            obtain ⟨pre, post, rfl, hzero, hbefore, hafter⟩ := ih hrest
            refine ⟨d :: pre, post, rfl, hzero, ?_, hafter⟩
            rw [outsideFrom, if_pos hd, hbefore]
      · rw [outsideFrom, if_neg hd] at h
        obtain ⟨pre, post, rfl, hzero, hbefore, hafter⟩ := ih h
        refine ⟨d :: pre, post, rfl, hzero, ?_, hafter⟩
        rw [outsideFrom, if_neg hd, hbefore]

/-! ## Texts without parentheses, and balanced ones -/

/-- No parenthesis stands in the text. -/
def Plain (text : List Char) : Prop := '(' ∉ text ∧ ')' ∉ text

theorem nest_of_ne {depth : Nat} {c : Char} (h1 : c ≠ '(') (h2 : c ≠ ')') :
    nest depth c = depth := by
  rw [nest, if_neg h1, if_neg h2]

theorem depthFrom_of_plain {text : List Char} (h : Plain text) (depth : Nat) :
    depthFrom depth text = depth := by
  induction text with
  | nil => rfl
  | cons c rest ih =>
      obtain ⟨h1, h2⟩ := h
      rw [List.mem_cons, not_or] at h1 h2
      rw [depthFrom_cons, nest_of_ne (Ne.symm h1.1) (Ne.symm h2.1)]
      exact ih ⟨h1.2, h2.2⟩

theorem outsideFrom_of_plain {text : List Char} (h : Plain text) (depth : Nat) :
    outsideFrom depth text = if depth = 0 then text else [] := by
  induction text with
  | nil => rw [outsideFrom, ite_self]
  | cons c rest ih =>
      obtain ⟨h1, h2⟩ := h
      rw [List.mem_cons, not_or] at h1 h2
      rw [outsideFrom, nest_of_ne (Ne.symm h1.1) (Ne.symm h2.1), ih ⟨h1.2, h2.2⟩]
      by_cases hd : depth = 0
      · rw [if_pos ⟨hd, Ne.symm h1.1⟩, if_pos hd, if_pos hd]
      · rw [if_neg (fun hand => hd hand.1), if_neg hd, if_neg hd]

/-- Without an opening parenthesis everything stands outside. -/
theorem outside_eq_self {text : List Char} (h : '(' ∉ text) : outside text = text := by
  induction text with
  | nil => rfl
  | cons c rest ih =>
      rw [List.mem_cons, not_or] at h
      rw [outside_cons (Ne.symm h.1), ih h.2]

theorem closed_of_not_mem {text : List Char} (h : '(' ∉ text) : Closed text := by
  induction text with
  | nil => rfl
  | cons c rest ih =>
      rw [List.mem_cons, not_or] at h
      rw [Closed, depthFrom_cons, nest_zero (Ne.symm h.1)]
      exact ih h.2

/-- An opening parenthesis never stands outside. -/
theorem not_mem_outsideFrom (depth : Nat) (text : List Char) : '(' ∉ outsideFrom depth text := by
  induction text generalizing depth with
  | nil => exact List.not_mem_nil
  | cons c rest ih =>
      rw [outsideFrom]
      split
      · rename_i hc
        rw [List.mem_cons, not_or]
        exact ⟨Ne.symm hc.2, ih _⟩
      · exact ih _

theorem not_mem_outside (text : List Char) : '(' ∉ outside text := not_mem_outsideFrom 0 text

/-- What stands outside stands outside still when the groups are gone. -/
theorem outside_outside (text : List Char) : outside (outside text) = outside text :=
  outside_eq_self (not_mem_outside text)

/-- As many closing parentheses as opening ones, and nowhere more of them so far. -/
def Balanced (text : List Char) : Prop :=
  text.count ')' = text.count '(' ∧ ∀ pre, pre <+: text → pre.count ')' ≤ pre.count '('

instance (text : List Char) : Decidable (Balanced text) :=
  decidable_of_iff
    (text.count ')' = text.count '(' ∧ ∀ pre ∈ text.inits, pre.count ')' ≤ pre.count '(')
    (by rw [Balanced]; simp only [List.mem_inits])

/-- A text that closes no more than it opens, `depth` groups counted in, stays inside the group
around them. -/
theorem depthFrom_of_count_le (depth : Nat) {text : List Char}
    (h : ∀ pre, pre <+: text → pre.count ')' ≤ depth + pre.count '(') :
    depthFrom (depth + 1) text = depth + 1 + text.count '(' - text.count ')' ∧
      outsideFrom (depth + 1) text = [] := by
  induction text generalizing depth with
  | nil => exact ⟨rfl, rfl⟩
  | cons c rest ih =>
      rw [depthFrom_cons, outsideFrom, if_neg (fun hand => Nat.succ_ne_zero depth hand.1)]
      have hcons : ∀ pre, pre <+: rest → (c :: pre).count ')' ≤ depth + (c :: pre).count '(' :=
        fun pre hpre => h _ (List.cons_prefix_cons.mpr ⟨rfl, hpre⟩)
      by_cases hopen : c = '('
      · rw [hopen] at hcons ⊢
        obtain ⟨h1, h2⟩ := ih (depth + 1) (fun pre hpre => by
          have := hcons pre hpre
          rw [List.count_cons_self, List.count_cons_of_ne (by decide)] at this
          omega)
        rw [List.count_cons_self, List.count_cons_of_ne (by decide)]
        exact ⟨h1.trans (by omega), h2⟩
      · by_cases hclose : c = ')'
        · -- closing here uses up one of the groups counted in, so there is one
          rw [hclose] at hcons ⊢
          have hone := hcons [] List.nil_prefix
          rw [List.count_cons_self, List.count_cons_of_ne (by decide)] at hone
          obtain ⟨below, rfl⟩ : ∃ below, depth = below + 1 :=
            Nat.exists_eq_succ_of_ne_zero (by rw [List.count_nil, List.count_nil] at hone; omega)
          obtain ⟨h1, h2⟩ := ih below (fun pre hpre => by
            have := hcons pre hpre
            rw [List.count_cons_self, List.count_cons_of_ne (by decide)] at this
            omega)
          rw [List.count_cons_self, List.count_cons_of_ne (by decide)]
          exact ⟨h1.trans (by omega), h2⟩
        · rw [nest_of_ne hopen hclose, List.count_cons_of_ne hopen, List.count_cons_of_ne hclose]
          refine ih depth fun pre hpre => ?_
          have := hcons pre hpre
          rw [List.count_cons_of_ne hopen, List.count_cons_of_ne hclose] at this
          exact this

/-- A balanced text in a group leaves that group open and holds nothing outside. -/
theorem Balanced.inside {text : List Char} (h : Balanced text) :
    depthFrom 1 text = 1 ∧ outsideFrom 1 text = [] := by
  obtain ⟨h1, h2⟩ := depthFrom_of_count_le 0
    (fun pre hpre => by have := h.2 pre hpre; omega)
  exact ⟨h1.trans (by have := h.1; omega), h2⟩

/-- A text closes no more groups than it opens, or does so first after a balanced part. -/
theorem count_le_or_balanced (text : List Char) :
    (∀ pre, pre <+: text → pre.count ')' ≤ pre.count '(') ∨
      ∃ group rest, text = group ++ ')' :: rest ∧ Balanced group := by
  -- from the end, so that the part found in a shorter text is kept
  induction text using List.reverseRecOn with
  | nil =>
      refine Or.inl fun pre hpre => ?_
      rw [List.prefix_nil.mp hpre]
      rfl
  | append_singleton text c ih =>
      rcases ih with hle | ⟨group, rest, rfl, hgroup⟩
      · have htext := hle text List.prefix_rfl
        by_cases hclose : c = ')' ∧ text.count ')' = text.count '('
        · obtain ⟨rfl, hcount⟩ := hclose
          exact Or.inr ⟨text, [], rfl, hcount, hle⟩
        · refine Or.inl fun pre hpre => ?_
          rcases List.prefix_concat_iff.mp hpre with rfl | hpre
          · have hopen : text.count '(' ≤ (text ++ [c]).count '(' :=
              (List.sublist_append_left text [c]).count_le '('
            rw [List.count_append (a := ')')]
            by_cases hc : c = ')'
            · have hfew : text.count ')' ≠ text.count '(' := fun heq => hclose ⟨hc, heq⟩
              rw [hc] at hopen ⊢
              rw [List.count_singleton_self]
              omega
            · rw [List.count_eq_zero_of_not_mem (l := [c]) (by simpa using Ne.symm hc)]
              omega
          · exact hle pre hpre
      · exact Or.inr ⟨group, rest ++ [c], by simp, hgroup⟩

/-! ## The jump over a group -/

/-- One step of the walk through a group: it ends there, or goes on as deep as `nest` says. -/
theorem closing?_cons (depth : Nat) (c : Char) :
    (depth = 0 ∧ c = ')') ∨ ∃ next, nest (depth + 1) c = next + 1 ∧
      ∀ rest, closing? depth (c :: rest) = (closing? next rest).map (· + 1) := by
  by_cases hopen : c = '('
  · subst hopen
    exact Or.inr ⟨depth + 1, rfl, fun rest => by rw [closing?]⟩
  · by_cases hclose : c = ')'
    · subst hclose
      cases depth with
      | zero => exact Or.inl ⟨rfl, rfl⟩
      | succ below => exact Or.inr ⟨below, rfl, fun rest => by rw [closing?]⟩
    · refine Or.inr ⟨depth, nest_of_ne hopen hclose, fun rest => ?_⟩
      rw [closing?.eq_5 depth c rest hopen (fun _ => hclose) (fun _ _ => hclose)]

/-- A text that runs from inside `depth + 1` groups through the end of the outermost. -/
structure Closes (depth : Nat) (group : List Char) : Prop where
  /-- No group is open after it. -/
  zero : depthFrom (depth + 1) group = 0
  /-- Nothing of it stands outside. -/
  inside : outsideFrom (depth + 1) group = []
  /-- The walk stops just after it, whatever follows. -/
  jump : ∀ post, closing? depth (group ++ post) = some group.length

/-- A text inside groups begins with one that closes them all, or never closes them. -/
theorem closes_or (depth : Nat) (rest : List Char) :
    (∃ group tail, rest = group ++ tail ∧ Closes depth group) ∨
      (closing? depth rest = none ∧ outsideFrom (depth + 1) rest = [] ∧
        depthFrom (depth + 1) rest ≠ 0) := by
  induction rest generalizing depth with
  | nil => exact Or.inr ⟨by rw [closing?], rfl, Nat.succ_ne_zero depth⟩
  | cons c rest ih =>
      have hstep : outsideFrom (depth + 1) (c :: rest) = outsideFrom (nest (depth + 1) c) rest := by
        rw [outsideFrom, if_neg (fun hand => Nat.succ_ne_zero depth hand.1)]
      rcases closing?_cons depth c with ⟨rfl, rfl⟩ | ⟨next, hnest, hwalk⟩
      · refine Or.inl ⟨[')'], rest, rfl, rfl, rfl, fun post => ?_⟩
        rw [List.singleton_append, closing?]
        rfl
      · rcases ih next with ⟨group, tail, rfl, hzero, hinside, hjump⟩ | ⟨hnone, hinside, hopen⟩
        · refine Or.inl ⟨c :: group, tail, rfl, ?_, ?_, fun post => ?_⟩
          · rw [depthFrom_cons, hnest, hzero]
          · rw [outsideFrom, if_neg (fun hand => Nat.succ_ne_zero depth hand.1), hnest, hinside]
          · rw [List.cons_append, hwalk, hjump]
            rfl
        · refine Or.inr ⟨?_, ?_, ?_⟩
          · rw [hwalk, hnone]
            rfl
          · rw [hstep, hnest, hinside]
          · rw [depthFrom_cons, hnest]
            exact hopen

theorem Closes.afterGroup {group : List Char} (h : Closes 0 group) (post : List Char) :
    afterGroup (group ++ post) = post := by
  rw [Query.afterGroup, h.jump]
  exact List.drop_left

/-- What the jump passes over holds nothing outside. -/
theorem outside_afterGroup (rest : List Char) :
    outside (afterGroup rest) = outside ('(' :: rest) := by
  have hopen : outside ('(' :: rest) = outsideFrom 1 rest := rfl
  rw [hopen]
  rcases closes_or 0 rest with ⟨group, tail, rfl, hclose⟩ | ⟨hnone, hinside, -⟩
  · rw [hclose.afterGroup, outsideFrom_append, hclose.zero, hclose.inside]
    rfl
  · rw [afterGroup, hnone, hinside]
    rfl

end RowGuard.Query
