import Mathlib.Order.Bounds.Defs
import RowGuard.Proofs.Query.Outside
import RowGuard.Proofs.Text.Case
import RowGuard.Query.Fragment

/-!
# Where a fragment begins

The scan collects characters and looks only at the last five of them. What it finds is told by the
characters outside groups alone: it stops at the character with which the keyword first occurs among
them, and nowhere when it never does. `Completes pre c` says that `c` after `pre` is that character;
there is at most one such place in a text, and one exactly when the keyword occurs outside groups.

The invariant is that the keyword does not occur in what has been collected, which makes the look at
the last five characters a look at all of them.
-/

namespace RowGuard.Query

/-- The characters collected end in the keyword. -/
theorem keyword_isPrefixOf_iff {seen : List Char} {c : Char} :
    keyword.reverse.isPrefixOf (c :: seen) = true ↔ keyword <:+ seen.reverse ++ [c] := by
  rw [List.isPrefixOf_iff_prefix, ← List.reverse_suffix, List.reverse_reverse, List.reverse_cons]

/-- The character `c` after `pre` is the one with which the keyword first occurs outside groups. -/
structure Completes (pre : List Char) (c : Char) : Prop where
  closed : Closed pre
  stands : c ≠ '('
  before : ¬ keyword <:+: outside pre
  ends : keyword <:+ outside pre ++ [c]

/-! ## The scan -/

/-- The scan passes over a text whose groups are closed, and keeps what stands outside them. -/
theorem scan_append {seen pre : List Char} (hpre : Closed pre)
    (h : ¬ keyword <:+: seen.reverse ++ outside pre) (post : List Char) :
    scan seen (pre ++ post) = scan ((outside pre).reverse ++ seen) post := by
  -- on the length, since a group is passed in one jump
  induction hn : pre.length using Nat.strongRecOn generalizing seen pre with
  | ind n ih =>
    cases pre with
    | nil => rfl
    | cons c rest =>
      by_cases hopen : c = '('
      · subst hopen
        rcases closes_or 0 rest with ⟨group, tail, rfl, hclose⟩ | ⟨-, -, hnever⟩
        · have htail : Closed tail := by
            have : depthFrom 1 (group ++ tail) = 0 := hpre
            rw [depthFrom_append, hclose.zero] at this
            exact this
          have hout : outside ('(' :: (group ++ tail)) = outside tail := by
            rw [← outside_afterGroup, hclose.afterGroup]
          rw [hout] at h ⊢
          rw [List.cons_append, scan, if_pos rfl, List.append_assoc, hclose.afterGroup]
          refine ih tail.length ?_ htail h rfl
          rw [← hn, List.length_cons, List.length_append]
          omega
        · -- a group that never closes would leave the text open
          exact absurd hpre hnever
      · have hrest : Closed rest := by
          have : depthFrom (nest 0 c) rest = 0 := hpre
          rwa [nest_zero hopen] at this
        rw [outside_cons hopen] at h ⊢
        have hnot : ¬ keyword.reverse.isPrefixOf (c :: seen) = true := by
          rw [keyword_isPrefixOf_iff]
          intro hs
          exact h (hs.isInfix.trans ⟨[], outside rest, by simp⟩)
        rw [List.cons_append, scan, if_neg hopen, if_neg hnot,
          ih rest.length (by rw [← hn, List.length_cons]; omega) hrest (by simpa using h) rfl,
          List.reverse_cons, List.append_assoc]
        rfl

/-- The scan stops where the keyword is completed, and what follows is kept as it stands. -/
theorem scan_of_completes {pre : List Char} {c : Char} (h : Completes pre c) (post : List Char) :
    scan [] (pre ++ c :: post) = some (outside pre ++ c :: post) := by
  have hends : keyword.reverse.isPrefixOf (c :: (outside pre).reverse) = true := by
    rw [keyword_isPrefixOf_iff, List.reverse_reverse]
    exact h.ends
  have hbefore : ¬ keyword <:+: ([] : List Char).reverse ++ outside pre := h.before
  rw [scan_append h.closed hbefore, List.append_nil, scan, if_neg h.stands, if_pos hends,
    List.reverse_cons, List.reverse_reverse, List.append_assoc]
  rfl

/-- Where the keyword does not occur outside groups, the scan comes to the end. -/
theorem scan_eq_none {seen text : List Char} (h : ¬ keyword <:+: seen.reverse ++ outside text) :
    scan seen text = none := by
  fun_induction scan seen text with
  | case1 seen => rfl
  | case2 seen rest ih =>
      rw [← outside_afterGroup] at h
      exact ih h
  | case3 seen c rest hopen hends =>
      rw [outside_cons hopen] at h
      rw [keyword_isPrefixOf_iff] at hends
      exact absurd (hends.isInfix.trans ⟨[], outside rest, by simp⟩) h
  | case4 seen c rest hopen hends ih =>
      rw [outside_cons hopen] at h
      exact ih (by simpa using h)

/-- The keyword occurs outside groups only where some character completes it. -/
theorem exists_completes {text : List Char} (h : keyword <:+: outside text) :
    ∃ pre c post, text = pre ++ c :: post ∧ Completes pre c := by
  -- from the end, so that the first place is the one found in the shortest text
  induction text using List.reverseRecOn with
  | nil => exact absurd h (by decide)
  | append_singleton text c ih =>
      by_cases hbefore : keyword <:+: outside text
      · obtain ⟨pre, d, post, rfl, hd⟩ := ih hbefore
        exact ⟨pre, d, post ++ [c], by simp, hd⟩
      · rw [outside_snoc] at h
        split at h
        · rename_i hc
          refine ⟨text, c, [], rfl, hc.1, hc.2, hbefore, ?_⟩
          exact (List.infix_concat_iff.mp h).resolve_right hbefore
        · rw [List.append_nil] at h
          exact absurd h hbefore

/-- It is completed with its last letter. -/
theorem Completes.eq_e {pre : List Char} {c : Char} (h : Completes pre c) : c = 'e' := by
  obtain ⟨before, heq⟩ := h.ends
  have hlast := congrArg List.getLast? heq
  rw [List.getLast?_append_of_ne_nil _ (by decide), List.getLast?_concat] at hlast
  exact (Option.some.inj hlast).symm

/-! ## The place, counted -/

theorem Completes.outside_eq {pre : List Char} {c : Char} (h : Completes pre c)
    (post : List Char) : outside (pre ++ c :: post) = outside pre ++ c :: outside post := by
  rw [outside_append h.closed, outside_cons h.stands]

/-- The characters outside groups through the one that completes the keyword. -/
theorem Completes.take {pre : List Char} {c : Char} (h : Completes pre c) (post : List Char) :
    (outside (pre ++ c :: post)).take ((outside pre).length + 1) = outside pre ++ [c] := by
  rw [h.outside_eq, List.take_length_add_append]
  rfl

/-- No fewer characters outside groups hold the keyword. -/
theorem Completes.isLeast {pre : List Char} {c : Char} (h : Completes pre c) (post : List Char) :
    IsLeast {k | keyword <:+: (outside (pre ++ c :: post)).take k} ((outside pre).length + 1) := by
  refine ⟨?_, ?_⟩
  · show keyword <:+: (outside (pre ++ c :: post)).take ((outside pre).length + 1)
    rw [h.take]
    exact h.ends.isInfix
  · intro k hk
    by_contra hlt
    have hle : k ≤ (outside pre).length := by omega
    have hk' : keyword <:+: (outside (pre ++ c :: post)).take k := hk
    rw [h.outside_eq, List.take_append_of_le_length hle] at hk'
    exact h.before (hk'.trans (List.take_prefix k _).isInfix)

/-- Where the last of them stands. -/
theorem Completes.place {pre : List Char} {c : Char} (h : Completes pre c) (post : List Char) :
    (places (pre ++ c :: post))[(outside pre).length]? = some pre.length := by
  have hlen : (placesFrom 0 0 pre).length = (outside pre).length := length_placesFrom 0 0 pre
  rw [places, placesFrom_append, show depthFrom 0 pre = 0 from h.closed, ← hlen,
    List.getElem?_append_right (Nat.le_refl _), Nat.sub_self, placesFrom, if_pos ⟨rfl, h.stands⟩,
    Nat.zero_add]
  rfl

/-! ## The fragment -/

/-- The fragment is the text outside groups through the keyword, and all that follows it. -/
theorem fragment?_of_completes {pre : List Char} {c : Char} (h : Completes pre c)
    (post : List Char) :
    fragment? (pre ++ c :: post) = some (outside pre ++ c :: post) := by
  unfold fragment?
  split
  · exact scan_of_completes h post
  · rename_i hno
    rw [List.contains_iff_mem, List.mem_append, not_or] at hno
    rw [outside_eq_self hno.1]

/-- Without the keyword outside groups there is a fragment only where there is no group. -/
theorem fragment?_without_keyword {text : List Char} (h : ¬ keyword <:+: outside text) :
    fragment? text = if '(' ∈ text then none else some text := by
  unfold fragment?
  simp only [List.contains_iff_mem]
  split
  · exact scan_eq_none h
  · rfl

/-- A group before the keyword leaves no mark on the fragment: what it holds does not occur. -/
theorem fragment?_group {pre group : List Char} (hpre : Closed pre)
    (hkey : ¬ keyword <:+: outside pre)
    (hgroup : depthFrom 1 group = 1 ∧ outsideFrom 1 group = []) (post : List Char) :
    fragment? (pre ++ '(' :: (group ++ ')' :: post)) = scan (outside pre).reverse post := by
  have hsplit : pre ++ '(' :: (group ++ ')' :: post) =
      (pre ++ '(' :: (group ++ [')'])) ++ post := by
    simp
  have hinside : depthFrom 1 (group ++ [')']) = 0 ∧ outsideFrom 1 (group ++ [')']) = [] := by
    rw [depthFrom_append, outsideFrom_append, hgroup.1, hgroup.2]
    exact ⟨rfl, rfl⟩
  have hclosed : Closed (pre ++ '(' :: (group ++ [')'])) := by
    rw [Closed, depthFrom_append, show depthFrom 0 pre = 0 from hpre]
    exact hinside.1
  have hout : outside (pre ++ '(' :: (group ++ [')'])) = outside pre := by
    have hopen : outside ('(' :: (group ++ [')'])) = [] := hinside.2
    rw [outside_append hpre, hopen, List.append_nil]
  have hkey' : ¬ keyword <:+:
      ([] : List Char).reverse ++ outside (pre ++ '(' :: (group ++ [')'])) := by
    rw [hout]
    exact hkey
  have hmem : (pre ++ '(' :: (group ++ ')' :: post)).contains '(' = true := by
    rw [List.contains_iff_mem]
    exact List.mem_append_right _ List.mem_cons_self
  rw [fragment?, if_pos hmem, hsplit, scan_append hclosed hkey', hout, List.append_nil]

end RowGuard.Query
