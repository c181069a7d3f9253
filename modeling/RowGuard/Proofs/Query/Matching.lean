import Mathlib.Order.Bounds.Basic
import RowGuard.Proofs.Query.Outside
import RowGuard.Query.Fragment

/-!
# Where a group ends

`groupEnd` follows a group by its depth. Its answer can be told by counting: read on from the opening
parenthesis, behind the end of the text from the beginning again if the position was counted from the
end, until for the first time as many parentheses have been closed as opened. Up to there never more
are closed than opened, so the depth that the walk keeps is the difference of the two numbers and not
cut off at zero.

The scan of a query passes over groups without naming positions. Told by positions it asks `groupEnd`
for the next one, which could refuse to answer. `round` is one turn of that loop; it is never refused
and always gets further on, so it ends after at most as many turns as the query has characters.
-/

namespace RowGuard.Query

/-! ## Positions -/

/-- The character at a position. A negative position counts from the end. -/
def characterAt? (text : List Char) (start : Int) : Option Char :=
  if 0 ≤ start then text[start.toNat]?
  else if -(text.length : Int) ≤ start then text[(text.length + start).toNat]?
  else none

/-- The text from a position on. Behind a negative one, which counts from the end, all of the text
follows once more. -/
def ahead (text : List Char) (start : Int) : List Char :=
  if 0 ≤ start then text.drop start.toNat else text.drop (text.length + start).toNat ++ text

variable {text rest : List Char} {start : Int} {depth k : Nat}

theorem characterAt?_eq_none_iff :
    characterAt? text start = none ↔
      start < -(text.length : Int) ∨ (text.length : Int) ≤ start := by
  rw [characterAt?]
  split
  · rw [List.getElem?_eq_none_iff]
    omega
  · split
    · rw [List.getElem?_eq_none_iff]
      omega
    · exact iff_of_true rfl (by omega)

/-- From a position of the text on, the text begins with the character there. -/
theorem ahead_eq_cons {c : Char} (h : characterAt? text start = some c) :
    ahead text start = c :: (ahead text start).tail := by
  have hhead : (ahead text start).head? = some c := by
    rw [characterAt?] at h
    rw [ahead]
    split at h
    · rename_i hstart
      rw [if_pos hstart, List.head?_drop, h]
    · rename_i hstart
      split at h
      · rw [if_neg hstart, List.head?_append, List.head?_drop, h, Option.some_or]
      · cases h
  exact List.eq_cons_of_mem_head? hhead

theorem length_ahead {c : Char} (h : characterAt? text start = some c) :
    ((ahead text start).length : Int) = text.length - start := by
  have hrange : ¬ (start < -(text.length : Int) ∨ (text.length : Int) ≤ start) :=
    fun hout => Option.some_ne_none c (h.symm.trans (characterAt?_eq_none_iff.mpr hout))
  rw [ahead]
  split
  · rw [List.length_drop]
    omega
  · rw [List.length_append, List.length_drop]
    omega

/-- What `groupEnd` answers, by the character at the position and the text from there on. -/
theorem groupEnd_eq (text : List Char) (start : Int) :
    groupEnd text start = match characterAt? text start with
      | none => .error .outOfRange
      | some c =>
        if c = '(' then .ok (match closing? 0 (ahead text start).tail with
          | some k => start + 1 + k
          | none => text.length)
        else .error (.notOpening start c) := by
  have hrange : characterAt? text start = none ↔ _ := characterAt?_eq_none_iff
  rw [groupEnd]
  simp only [Bool.or_eq_true, decide_eq_true_eq]
  cases hc : characterAt? text start with
  | none => rw [if_pos (hrange.mp hc)]
  | some c =>
      rw [if_neg fun hout => Option.some_ne_none c (hc.symm.trans (hrange.mpr hout))]
      dsimp only
      rw [← ahead, ahead_eq_cons hc]
      dsimp only [List.tail_cons]
      split
      · cases closing? 0 (ahead text start).tail with
        | none => rfl
        | some k => rfl
      · rfl

/-! ## Counting -/

theorem count_cons (a c : Char) (rest : List Char) :
    (c :: rest).count a = [c].count a + rest.count a := by
  rw [← List.count_append, List.singleton_append]

theorem count_of_ne {c : Char} (hopen : c ≠ '(') (hclose : c ≠ ')') :
    [c].count '(' = 0 ∧ [c].count ')' = 0 := by
  rw [List.count_eq_zero, List.count_eq_zero, List.mem_singleton, List.mem_singleton]
  exact ⟨Ne.symm hopen, Ne.symm hclose⟩

/-- One step of the walk gets deeper by what it opens and less deep by what it closes. -/
theorem count_of_nest {next : Nat} {c : Char} (h : nest (depth + 1) c = next + 1) :
    depth + [c].count '(' = next + [c].count ')' := by
  by_cases hopen : c = '('
  · subst hopen
    exact Nat.succ.inj h
  · by_cases hclose : c = ')'
    · subst hclose
      exact h
    · rw [nest_of_ne hopen hclose] at h
      obtain ⟨hnone, hnone'⟩ := count_of_ne hopen hclose
      rw [hnone, hnone']
      exact Nat.succ.inj h

/-- With `k` characters all open groups are closed for the first time, `depth` and one more of them
and those that the characters open. -/
structure ClosesAt (depth : Nat) (rest : List Char) (k : Nat) : Prop where
  le : k ≤ rest.length
  closed : (rest.take k).count ')' = depth + 1 + (rest.take k).count '('
  before : ∀ j, j < k → (rest.take j).count ')' ≤ depth + (rest.take j).count '('

theorem closesAt_of_closing? (h : closing? depth rest = some k) : ClosesAt depth rest k := by
  induction rest generalizing depth k with
  | nil =>
      rw [closing?] at h
      cases h
  | cons c rest ih =>
      rcases closing?_cons depth c with ⟨rfl, rfl⟩ | ⟨next, hnest, hwalk⟩
      · rw [closing?] at h
        obtain rfl := Option.some.inj h
        refine ⟨Nat.succ_le_succ (Nat.zero_le _), rfl, fun j hj => ?_⟩
        obtain rfl := Nat.lt_one_iff.mp hj
        exact Nat.zero_le _
      · rw [hwalk] at h
        obtain ⟨m, hm, rfl⟩ := Option.map_eq_some_iff.mp h
        obtain ⟨hle, hclosed, hbefore⟩ := ih hm
        -- what the character does to the depth it also does to the counts
        have hstep := count_of_nest hnest
        refine ⟨Nat.succ_le_succ hle, ?_, fun j hj => ?_⟩
        · rw [List.take_succ_cons, count_cons, count_cons '(']
          omega
        · cases j with
          | zero => exact Nat.zero_le _
          | succ j =>
              have := hbefore j (Nat.lt_of_succ_lt_succ hj)
              rw [List.take_succ_cons, count_cons, count_cons '(']
              omega

/-- A walk that does not end finds never more closed than was open and has been opened. -/
theorem count_le_of_closing? (h : closing? depth rest = none) (j : Nat) :
    (rest.take j).count ')' ≤ depth + (rest.take j).count '(' := by
  induction rest generalizing depth j with
  | nil =>
      rw [List.take_nil]
      exact Nat.zero_le _
  | cons c rest ih =>
      rcases closing?_cons depth c with ⟨rfl, rfl⟩ | ⟨next, hnest, hwalk⟩
      · rw [closing?] at h
        cases h
      · rw [hwalk, Option.map_eq_none_iff] at h
        have hstep := count_of_nest hnest
        cases j with
        | zero => exact Nat.zero_le _
        | succ j =>
            have := ih h j
            rw [List.take_succ_cons, count_cons, count_cons '(']
            omega

/-- Behind an opening parenthesis one more has been opened. -/
theorem count_take_opening (rest : List Char) (j : Nat) :
    (('(' :: rest).take (j + 1)).count '(' = (rest.take j).count '(' + 1 ∧
      (('(' :: rest).take (j + 1)).count ')' = (rest.take j).count ')' := by
  rw [List.take_succ_cons]
  exact ⟨List.count_cons_self, List.count_cons_of_ne (by decide)⟩

/-- So as long as no more is closed than opened behind it, it is still open. -/
theorem count_lt_opening {j : Nat} (h : (rest.take j).count ')' ≤ (rest.take j).count '(') :
    (('(' :: rest).take (j + 1)).count ')' < (('(' :: rest).take (j + 1)).count '(' := by
  obtain ⟨hopened, hclosed⟩ := count_take_opening rest j
  omega

/-- The lengths of the beginnings, beyond the empty one, in which as many parentheses are opened as
closed. -/
def levels (text : List Char) : Set Nat :=
  {k | 0 < k ∧ k ≤ text.length ∧ (text.take k).count '(' = (text.take k).count ')'}

/-- A group ends behind the first of these, and up to there never more is closed than opened. -/
theorem isLeast_of_closing? (h : closing? 0 rest = some k) :
    IsLeast (levels ('(' :: rest)) (k + 1) ∧ ∀ j, j ≤ k + 1 →
      (('(' :: rest).take j).count ')' ≤ (('(' :: rest).take j).count '(' := by
  obtain ⟨hle, hend, hbefore⟩ := closesAt_of_closing? h
  obtain ⟨hopened, hclosed⟩ := count_take_opening rest k
  have hopen : ∀ j, j < k →
      (('(' :: rest).take (j + 1)).count ')' < (('(' :: rest).take (j + 1)).count '(' :=
    fun j hj => count_lt_opening (by have := hbefore j hj; omega)
  refine ⟨⟨⟨Nat.succ_pos k, Nat.succ_le_succ hle, by omega⟩, fun j hj => ?_⟩, fun j hj => ?_⟩
  · obtain ⟨hpos, -, hlevel⟩ := hj
    obtain ⟨i, rfl⟩ := Nat.exists_eq_add_one_of_ne_zero (Nat.pos_iff_ne_zero.mp hpos)
    -- before the end of the group its own parenthesis is open
    refine Nat.le_of_not_lt fun hlt => ?_
    exact Nat.ne_of_lt (hopen i (Nat.lt_of_succ_lt_succ hlt)) hlevel.symm
  · cases j with
    | zero => exact Nat.le_refl _
    | succ i =>
        rcases Nat.lt_or_eq_of_le (Nat.le_of_succ_le_succ hj) with hlt | rfl
        · exact Nat.le_of_lt (hopen i hlt)
        · omega

/-- In a group that does not end as much is never closed as opened. -/
theorem levels_of_closing? (h : closing? 0 rest = none) :
    levels ('(' :: rest) = ∅ ∧ ∀ j,
      (('(' :: rest).take j).count ')' ≤ (('(' :: rest).take j).count '(' := by
  have hopen : ∀ j,
      (('(' :: rest).take (j + 1)).count ')' < (('(' :: rest).take (j + 1)).count '(' :=
    fun j => count_lt_opening (by have := count_le_of_closing? h j; omega)
  refine ⟨Set.eq_empty_iff_forall_notMem.mpr fun j hj => ?_, fun j => ?_⟩
  · obtain ⟨hpos, -, hlevel⟩ := hj
    obtain ⟨i, rfl⟩ := Nat.exists_eq_add_one_of_ne_zero (Nat.pos_iff_ne_zero.mp hpos)
    exact Nat.ne_of_lt (hopen i) hlevel.symm
  · cases j with
    | zero => exact Nat.le_refl _
    | succ i => exact Nat.le_of_lt (hopen i)

/-! ## The depth that is kept -/

/-- What the walk through a group comes to without leaving it: how many groups are open inside it,
what has been passed since its opening parenthesis, and what is ahead. -/
inductive Walks (rest : List Char) : Nat → List Char → List Char → Prop where
  | start : Walks rest 0 [] rest
  | opens {depth : Nat} {passed left : List Char}
      (h : Walks rest depth passed ('(' :: left)) :
      Walks rest (depth + 1) (passed ++ ['(']) left
  /-- The group itself is not left. -/
  | closes {depth : Nat} {passed left : List Char}
      (h : Walks rest (depth + 1) passed (')' :: left)) :
      Walks rest depth (passed ++ [')']) left
  | passes {depth : Nat} {passed left : List Char} {c : Char}
      (h : Walks rest depth passed (c :: left)) (hopen : c ≠ '(') (hclose : c ≠ ')') :
      Walks rest depth (passed ++ [c]) left

theorem map_add_succ (place? : Option Nat) (n : Nat) :
    (place?.map (· + 1)).map (· + n) = place?.map (· + (n + 1)) := by
  rw [Option.map_map]
  refine congrArg (place?.map ·) (funext fun i => ?_)
  show i + 1 + n = i + (n + 1)
  omega

/-- From there the walk goes on. -/
theorem Walks.closing?_eq {passed left : List Char} (h : Walks rest depth passed left) :
    closing? 0 rest = (closing? depth left).map (· + passed.length) := by
  induction h with
  | start => exact (Option.map_id' ..).symm
  | opens h ih => rw [ih, closing?, map_add_succ, List.length_append, List.length_singleton]
  | closes h ih => rw [ih, closing?, map_add_succ, List.length_append, List.length_singleton]
  | passes h hopen hclose ih =>
      rw [ih, closing?.eq_5 _ _ _ hopen (fun _ => hclose) (fun _ _ => hclose), map_add_succ,
        List.length_append, List.length_singleton]

/-- The depth that it keeps is the number of groups opened less that of groups closed. -/
theorem Walks.count_eq {passed left : List Char} (h : Walks rest depth passed left) :
    passed.count '(' = depth + passed.count ')' := by
  induction h with
  | start => rfl
  | opens h ih =>
      rw [List.count_append, List.count_append, ih, List.count_singleton_self,
        show ['('].count ')' = 0 from rfl]
      omega
  | closes h ih =>
      rw [List.count_append, List.count_append, ih, List.count_singleton_self,
        show [')'].count '(' = 0 from rfl]
      omega
  | passes h hopen hclose ih =>
      obtain ⟨hnone, hnone'⟩ := count_of_ne hopen hclose
      rw [List.count_append, List.count_append, ih, hnone, hnone']
      rfl

/-! ## What `groupEnd` answers -/

theorem groupEnd_eq_outOfRange_iff :
    groupEnd text start = .error .outOfRange ↔
      start < -(text.length : Int) ∨ (text.length : Int) ≤ start := by
  rw [← characterAt?_eq_none_iff, groupEnd_eq]
  cases characterAt? text start with
  | none => exact iff_of_true rfl rfl
  | some c =>
      dsimp only
      split
      · exact iff_of_false (fun h => by cases h) (Option.some_ne_none c)
      · exact iff_of_false (fun h => by cases h) (Option.some_ne_none c)

theorem groupEnd_eq_notOpening_iff {place : Int} {found : Char} :
    groupEnd text start = .error (.notOpening place found) ↔
      place = start ∧ characterAt? text start = some found ∧ found ≠ '(' := by
  rw [groupEnd_eq]
  cases characterAt? text start with
  | none => exact iff_of_false (fun h => by cases h) (fun h => by cases h.2.1)
  | some c =>
      dsimp only
      split
      · rename_i hopen
        refine iff_of_false (fun h => by cases h) fun ⟨_, hfound, hne⟩ => hne ?_
        rw [← Option.some.inj hfound, hopen]
      · rename_i hne
        constructor
        · intro h
          cases h
          exact ⟨rfl, rfl, hne⟩
        · rintro ⟨rfl, hfound, -⟩
          rw [Option.some.inj hfound]

/-- From an opening parenthesis there is an end. -/
theorem groupEnd_of_opening (h : characterAt? text start = some '(') :
    ∃ stop, groupEnd text start = .ok stop ∧ start < stop ∧ stop ≤ text.length ∧
      ((∃ k, IsLeast (levels (ahead text start)) k ∧ stop = start + k) ∨
        (levels (ahead text start) = ∅ ∧ stop = text.length)) ∧
      ∀ k : Nat, k ≤ stop - start →
        ((ahead text start).take k).count ')' ≤ ((ahead text start).take k).count '(' := by
  have hahead := ahead_eq_cons h
  have hlength := length_ahead h
  have hpos : 0 < (ahead text start).length := by
    rw [hahead]
    exact Nat.succ_pos _
  rw [groupEnd_eq, h]
  dsimp only
  rw [if_pos rfl]
  cases hclosing : closing? 0 (ahead text start).tail with
  | none =>
      obtain ⟨hlevels, hcount⟩ := levels_of_closing? hclosing
      rw [← hahead] at hlevels hcount
      exact ⟨text.length, rfl, by omega, Int.le_refl _, Or.inr ⟨hlevels, rfl⟩, fun k _ => hcount k⟩
  | some k =>
      obtain ⟨hleast, hcount⟩ := isLeast_of_closing? hclosing
      rw [← hahead] at hleast hcount
      have hle := hleast.1.2.1
      exact ⟨start + 1 + k, rfl, by omega, by omega, Or.inl ⟨k + 1, hleast, by omega⟩,
        fun j hj => hcount j (by omega)⟩

/-! ## The scan by positions -/

/-- What one turn of the scan comes to. -/
inductive Round where
  | stop (fragment : Option (List Char))
  | goOn (place : Nat) (seen : List Char)

/-- One turn of the scan at a position, with the characters collected so far, the latest first. -/
def round (text seen : List Char) (place : Nat) : Except GroupError Round :=
  match text.drop place with
  | [] => .ok (.stop none)
  | c :: rest =>
    if c = '(' then (groupEnd text place).map fun next => .goOn next.toNat seen
    else if keyword.reverse.isPrefixOf (c :: seen) then
      .ok (.stop (some ((c :: seen).reverse ++ rest)))
    else .ok (.goOn (place + 1) (c :: seen))

/-- The scan from a position on, in at most so many turns. Nothing comes of it if they do not
suffice. -/
def rounds (text : List Char) :
    Nat → List Char → Nat → Except GroupError (Option (Option (List Char)))
  | 0, _, _ => .ok none
  | limit + 1, seen, place =>
    match round text seen place with
    | .error e => .error e
    | .ok (.stop fragment) => .ok (some fragment)
    | .ok (.goOn next seen) => rounds text limit seen next

/-- The fragment of a query, had by positions. -/
def fragmentIn (limit : Nat) (text : List Char) : Except GroupError (Option (Option (List Char))) :=
  if text.contains '(' then rounds text limit [] 0 else .ok (some (some text))

/-- At an opening parenthesis `groupEnd` gives a later position, the one where the jump goes on. -/
theorem groupEnd_of_drop {place : Nat} (h : text.drop place = '(' :: rest) :
    ∃ next : Nat, groupEnd text place = .ok next ∧ place < next ∧ next ≤ text.length ∧
      text.drop next = afterGroup rest := by
  have hplace : characterAt? text place = some '(' := by
    rw [characterAt?, if_pos (Int.natCast_nonneg place), Int.toNat_natCast, ← List.head?_drop, h]
    rfl
  have hahead : ahead text place = '(' :: rest := by
    rw [ahead, if_pos (Int.natCast_nonneg place), Int.toNat_natCast, h]
  have hlength : text.length = place + 1 + rest.length := by
    have := length_ahead hplace
    rw [hahead, List.length_cons] at this
    omega
  rw [groupEnd_eq, hplace, hahead, List.tail_cons, afterGroup]
  dsimp only
  rw [if_pos rfl]
  cases hclosing : closing? 0 rest with
  | none =>
      exact ⟨text.length, rfl, by omega, Nat.le_refl _, List.drop_length⟩
  | some k =>
      have hle := (closesAt_of_closing? hclosing).le
      refine ⟨place + 1 + k, rfl, by omega, by omega, ?_⟩
      rw [← List.drop_drop, ← List.drop_drop, h]
      rfl

/-- **A turn is never refused**, and stops with what the scan gives or gets further on. -/
theorem round_advances (text seen : List Char) (place : Nat) :
    round text seen place = .ok (.stop (scan seen (text.drop place))) ∨
      ∃ next seen', round text seen place = .ok (.goOn next seen') ∧ place < next ∧
        next ≤ text.length ∧ scan seen (text.drop place) = scan seen' (text.drop next) := by
  rw [round]
  cases hdrop : text.drop place with
  | nil => exact Or.inl (by rw [scan])
  | cons c rest =>
      have hlt : place < text.length := by
        refine Nat.lt_of_not_le fun hle => List.cons_ne_nil c rest ?_
        rw [← hdrop, List.drop_eq_nil_of_le hle]
      dsimp only
      by_cases hopen : c = '('
      · subst hopen
        obtain ⟨next, hnext, hlt, hle, hafter⟩ := groupEnd_of_drop hdrop
        rw [if_pos rfl, hnext, scan, if_pos rfl, ← hafter]
        exact Or.inr ⟨next, seen, rfl, hlt, hle, rfl⟩
      · rw [if_neg hopen, scan, if_neg hopen]
        split
        · exact Or.inl rfl
        · refine Or.inr ⟨place + 1, c :: seen, rfl, Nat.lt_succ_self place, hlt, ?_⟩
          rw [← List.drop_drop, hdrop]
          rfl

/-- As many turns as there are characters left, and one to see that there are none, suffice. -/
theorem rounds_eq (limit : Nat) (text seen : List Char) (place : Nat)
    (h : text.length - place < limit) :
    rounds text limit seen place = .ok (some (scan seen (text.drop place))) := by
  induction limit generalizing seen place with
  | zero => exact absurd h (Nat.not_lt_zero _)
  | succ limit ih =>
      rw [rounds]
      rcases round_advances text seen place with hstop | ⟨next, seen', hnext, hlt, hle, hscan⟩
      · rw [hstop]
      · -- the turn has got further on, so there is one character less for the turns left
        rw [hnext, hscan]
        exact ih seen' next (by omega)

/--
**A group ends where as much has been closed as opened.**

A position outside the text is refused, and one with another character than an opening parenthesis,
each for its reason. From an opening parenthesis the group ends behind the fewest characters of which
as many are closing as opening ones, or with the text if there are never as many; this is a later
position, and none beyond the text. Up to there never more are closed than opened, and the depth that
the walk keeps is the difference. So the scan of a query, which asks for the end of every group it
comes to, is never refused, gets further on with every turn, and has the fragment in one turn more
than the query has characters.
-/
theorem groupEnd_matching (text : List Char) (start : Int) :
    let n : Int := text.length
    let u := ahead text start
    (groupEnd text start = .error .outOfRange ↔ start < -n ∨ n ≤ start) ∧
    (∀ place found, groupEnd text start = .error (.notOpening place found) ↔
      place = start ∧ characterAt? text start = some found ∧ found ≠ '(') ∧
    (characterAt? text start = some '(' → ∃ stop, groupEnd text start = .ok stop ∧
      start < stop ∧ stop ≤ n ∧
      ((∃ k, IsLeast (levels u) k ∧ stop = start + k) ∨ (levels u = ∅ ∧ stop = n)) ∧
      (∀ k : Nat, k ≤ stop - start → (u.take k).count ')' ≤ (u.take k).count '(') ∧
      ∀ depth passed left, Walks u.tail depth passed left →
        ('(' :: passed).count '(' = depth + 1 + ('(' :: passed).count ')' ∧
        closing? 0 u.tail = (closing? depth left).map (· + passed.length)) ∧
    (∀ seen place, ∃ turn, round text seen place = .ok turn ∧
      ∀ next seen', turn = .goOn next seen' → place < next ∧ next ≤ text.length) ∧
    fragmentIn (text.length + 1) text = .ok (some (fragment? text)) := by
  intro n u
  refine ⟨groupEnd_eq_outOfRange_iff, fun place found => groupEnd_eq_notOpening_iff, fun h => ?_,
    fun seen place => ?_, ?_⟩
  · obtain ⟨stop, hstop, hlt, hle, hend, hcount⟩ := groupEnd_of_opening h
    refine ⟨stop, hstop, hlt, hle, hend, hcount, fun depth passed left hwalk => ?_⟩
    rw [List.count_cons_self, List.count_cons_of_ne (by decide), hwalk.count_eq]
    exact ⟨Nat.add_right_comm .., hwalk.closing?_eq⟩
  · rcases round_advances text seen place with hstop | ⟨next, seen', hnext, hlt, hle, -⟩
    · exact ⟨_, hstop, fun next seen' h => by cases h⟩
    · refine ⟨_, hnext, fun next' seen'' h => ?_⟩
      cases h
      exact ⟨hlt, hle⟩
  · rw [fragmentIn, fragment?]
    split
    · exact rounds_eq _ text [] 0 (by omega)
    · rfl

/-- A group that begins with the last character but one and ends in the second walk through the
text. -/
theorem groupEnd_matching_around :
    let text := ")b(a".toList
    characterAt? text (-2) = some '(' ∧ ∃ stop, groupEnd text (-2) = .ok stop ∧
      ((∃ k, IsLeast (levels "(a)b(a".toList) k ∧ stop = -2 + k) ∨
        (levels "(a)b(a".toList = ∅ ∧ stop = 4)) ∧ stop = 1 := by
  intro text
  obtain ⟨-, -, hopening, -⟩ := groupEnd_matching text (-2)
  obtain ⟨stop, hstop, -, -, hleast, -⟩ := hopening rfl
  exact ⟨rfl, stop, hstop, hleast, (Except.ok.inj hstop).symm⟩

end RowGuard.Query
