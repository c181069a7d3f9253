import Mathlib.Data.List.Infix
import RowGuard.Proofs.Query.Fragment

/-!
# The fragment as a cut of the query

The scan steps and jumps, and looks at the last five characters that it has collected. What it comes
to can be said without a scan: delete the groups, let every character that is left remember its
place, take the shortest beginning of these that has the keyword anywhere, and go on in the query
behind the place of the last one. `cut?` does just that, and `fragment?_eq_cut` says that it is the
fragment.

That a look at five characters is enough is an invariant of the scan: what has been collected when
it goes on does not have the keyword, so a character that brings the keyword in brings it to the
end.
-/

namespace RowGuard.Query

/-! ## Groups deleted -/

/-- A place that no group holds: none is open before it, and none opens there. -/
def Stands (text : List Char) (place : Nat) : Prop :=
  depthFrom 0 (text.take place) = 0 ∧ text[place]? ≠ some '('

instance (text : List Char) (place : Nat) : Decidable (Stands text place) :=
  inferInstanceAs (Decidable (_ ∧ _))

/-- What is left of a text without its groups, each character with its place. -/
def ungrouped (text : List Char) : List (Char × Nat) :=
  text.zipIdx.filter fun kept => Stands text kept.2

/-- The characters left of a text without its groups, up to the first of them with which they have
the keyword, and all of the text behind that one. -/
def cut? (text : List Char) : Option (List Char) :=
  ((ungrouped text).inits.find? fun kept => keyword <:+: kept.map Prod.fst).map fun kept =>
    kept.map Prod.fst ++ text.drop (kept.getLast?.elim 0 (·.2 + 1))

theorem stands_append {text more : List Char} {place : Nat} (h : place < text.length) :
    Stands (text ++ more) place ↔ Stands text place := by
  rw [Stands, Stands, List.take_append_of_le_length (Nat.le_of_lt h), List.getElem?_append_left h]

theorem stands_length {text : List Char} {c : Char} :
    Stands (text ++ [c]) text.length ↔ Closed text ∧ c ≠ '(' := by
  rw [Stands, List.take_left, List.getElem?_concat_length, ne_eq, Option.some_inj]
  rfl

theorem ungrouped_snoc (text : List Char) (c : Char) :
    ungrouped (text ++ [c]) =
      ungrouped text ++ if Closed text ∧ c ≠ '(' then [(c, text.length)] else [] := by
  have hbefore : text.zipIdx.filter (fun kept => Stands (text ++ [c]) kept.2) = ungrouped text := by
    refine List.filter_congr fun kept hkept => ?_
    rw [decide_eq_decide]
    exact stands_append (List.snd_lt_of_mem_zipIdx hkept)
  rw [ungrouped, List.zipIdx_append, List.filter_append, hbefore]
  simp only [List.zipIdx_singleton, List.filter_singleton, Nat.zero_add, stands_length,
    Bool.cond_decide]

/-- What is left of a part is left of the whole. -/
theorem ungrouped_prefix (pre post : List Char) : ungrouped pre <+: ungrouped (pre ++ post) := by
  induction post using List.reverseRecOn with
  | nil => rw [List.append_nil]
  | append_singleton post c ih =>
      rw [← List.append_assoc, ungrouped_snoc]
      exact ih.trans (List.prefix_append _ _)

theorem map_fst_ungrouped (text : List Char) : (ungrouped text).map Prod.fst = outside text := by
  induction text using List.reverseRecOn with
  | nil => rfl
  | append_singleton text c ih =>
      rw [ungrouped_snoc, outside_snoc, List.map_append, ih, apply_ite (List.map Prod.fst)]
      rfl

/-! ## The cut -/

/-- The first beginning with a property ends where the property is gained. -/
theorem find?_inits {α : Type} {p : List α → Bool} {kept : List α} {last : α}
    (hbefore : ∀ shorter, shorter <+: kept → p shorter = false) (hp : p (kept ++ [last]) = true)
    (more : List α) : (kept ++ last :: more).inits.find? p = some (kept ++ [last]) := by
  have hnone : kept.inits.find? p = none := by
    refine List.find?_eq_none.mpr fun shorter hshorter => ?_
    rw [hbefore shorter ((List.mem_inits _ _).mp hshorter)]
    exact Bool.false_ne_true
  have hinits : (last :: more).inits.tail = [last] :: (more.inits.tail.map (last :: ·)) := by
    rw [List.inits_cons, List.tail_cons]
    cases more with
    | nil => rfl
    | cons next more => rw [List.inits_cons, List.map_cons, List.tail_cons]
  rw [List.inits_append, List.find?_append, hnone, Option.none_or, hinits, List.map_cons,
    List.find?_cons_of_pos hp]

/-- Where the keyword is completed outside groups, the cut is what is left up to there, and then the
text as it stands. -/
theorem cut?_of_completes {pre : List Char} {c : Char} (h : Completes pre c) (post : List Char) :
    cut? (pre ++ c :: post) = some (outside pre ++ c :: post) := by
  have hkept : ungrouped (pre ++ [c]) = ungrouped pre ++ [(c, pre.length)] := by
    rw [ungrouped_snoc, if_pos ⟨h.closed, h.stands⟩]
  obtain ⟨more, hmore⟩ : ∃ more, ungrouped (pre ++ c :: post) =
      ungrouped pre ++ (c, pre.length) :: more := by
    obtain ⟨more, hmore⟩ := ungrouped_prefix (pre ++ [c]) post
    rw [hkept, List.append_assoc, List.append_assoc] at hmore
    exact ⟨more, hmore.symm⟩
  have hbefore : ∀ shorter, shorter <+: ungrouped pre →
      decide (keyword <:+: shorter.map Prod.fst) = false := by
    intro shorter hshorter
    refine decide_eq_false fun hin => h.before ?_
    rw [← map_fst_ungrouped]
    exact hin.trans (hshorter.map Prod.fst).isInfix
  have hends : decide (keyword <:+: (ungrouped pre ++ [(c, pre.length)]).map Prod.fst) = true := by
    rw [List.map_append, map_fst_ungrouped]
    exact decide_eq_true h.ends.isInfix
  have hdrop : (pre ++ c :: post).drop (pre.length + 1) = post := by
    rw [List.drop_length_add_append]
    rfl
  rw [cut?, hmore, find?_inits hbefore hends, Option.map_some, List.map_append, map_fst_ungrouped,
    List.getLast?_concat]
  show some (outside pre ++ [c] ++ (pre ++ c :: post).drop (pre.length + 1)) = _
  rw [hdrop, List.append_assoc]
  rfl

/-- Without the keyword outside groups there is no cut. -/
theorem cut?_without_keyword {text : List Char} (h : ¬ keyword <:+: outside text) :
    cut? text = none := by
  have hnone :
      (ungrouped text).inits.find? (fun kept => keyword <:+: kept.map Prod.fst) = none := by
    refine List.find?_eq_none.mpr fun kept hkept hin => h ?_
    rw [← map_fst_ungrouped]
    have hstart : kept <+: ungrouped text := (List.mem_inits _ _).mp hkept
    exact (of_decide_eq_true hin).trans (hstart.map Prod.fst).isInfix
  rw [cut?, hnone]
  rfl

/-! ## The steps of the scan -/

/-- What the scan of a text comes to without stopping: the characters collected, the latest first,
and those ahead. -/
inductive Reaches (text : List Char) : List Char → List Char → Prop where
  | start : Reaches text [] text
  /-- A group is passed. -/
  | jump {seen rest : List Char} (h : Reaches text seen ('(' :: rest)) :
      Reaches text seen (afterGroup rest)
  /-- A character is collected that does not bring the keyword to the end. -/
  | keep {seen rest : List Char} {c : Char} (h : Reaches text seen (c :: rest)) (hc : c ≠ '(')
      (hgoes : keyword.reverse.isPrefixOf (c :: seen) = false) : Reaches text (c :: seen) rest

/-- From there the scan goes on. -/
theorem Reaches.scan_eq {text seen rest : List Char} (h : Reaches text seen rest) :
    scan [] text = scan seen rest := by
  induction h with
  | start => rfl
  | jump h ih => rw [ih, scan, if_pos rfl]
  | keep h hc hgoes ih => rw [ih, scan, if_neg hc, if_neg (Bool.eq_false_iff.mp hgoes)]

/-- The keyword is not in what has been collected. -/
theorem Reaches.not_infix {text seen rest : List Char} (h : Reaches text seen rest) :
    ¬ keyword <:+: seen.reverse := by
  induction h with
  | start => decide
  | jump h ih => exact ih
  | keep h hc hgoes ih =>
      rw [List.reverse_cons, List.infix_concat_iff, not_or, ← keyword_isPrefixOf_iff]
      exact ⟨Bool.eq_false_iff.mp hgoes, ih⟩

/--
**The fragment is a cut of the query.**

A query with groups has the fragment that `cut?` describes, or none where that finds no keyword; any
other query is its own fragment. Wherever the scan comes to a character that it collects, the
keyword ends what it has then collected exactly when it stands in it anywhere.
-/
theorem fragment?_eq_cut (text : List Char) :
    fragment? text = (if '(' ∈ text then cut? text else some text) ∧
    ∀ seen c rest, Reaches text seen (c :: rest) → c ≠ '(' →
      scan [] text = scan seen (c :: rest) ∧
      (keyword.reverse.isPrefixOf (c :: seen) = true ↔ keyword <:+: seen.reverse ++ [c]) := by
  refine ⟨?_, fun seen c rest hreaches hc => ⟨hreaches.scan_eq, ?_⟩⟩
  · by_cases hkey : keyword <:+: outside text
    · obtain ⟨pre, c, post, rfl, hcompletes⟩ := exists_completes hkey
      rw [fragment?_of_completes hcompletes, cut?_of_completes hcompletes]
      split
      · rfl
      · rename_i hopen
        rw [List.mem_append, not_or] at hopen
        rw [outside_eq_self hopen.1]
    · rw [fragment?_without_keyword hkey, cut?_without_keyword hkey]
  · rw [keyword_isPrefixOf_iff, List.infix_concat_iff]
    exact ⟨Or.inl, fun hin => hin.resolve_right hreaches.not_infix⟩

/-- A keyword inside a group, and one that a group splits. -/
theorem fragment?_eq_cut_split :
    let text := "f(where)wh(x)ere(".toList
    fragment? text = some "fwhere(".toList ∧
      ∃ seen, Reaches text seen "e(".toList ∧ scan [] text = scan seen "e(".toList ∧
        keyword <:+: seen.reverse ++ ['e'] := by
  intro text
  have hstart : Reaches text [] text := .start
  have hopen : Reaches text ['f'] "(where)wh(x)ere(".toList := hstart.keep (by decide) (by decide)
  have hgroup : Reaches text ['f'] "wh(x)ere(".toList := hopen.jump
  have hletters : Reaches text ['h', 'w', 'f'] "(x)ere(".toList :=
    (hgroup.keep (by decide) (by decide)).keep (by decide) (by decide)
  have hsplit : Reaches text ['h', 'w', 'f'] "ere(".toList := hletters.jump
  have hlast : Reaches text ['r', 'e', 'h', 'w', 'f'] "e(".toList :=
    (hsplit.keep (by decide) (by decide)).keep (by decide) (by decide)
  obtain ⟨hcut, hsteps⟩ := fragment?_eq_cut text
  obtain ⟨hscan, hends⟩ := hsteps _ _ _ hlast (by decide)
  exact ⟨hcut.trans (by decide), _, hlast, hscan, hends.mp (by decide)⟩

end RowGuard.Query
