import Mathlib.Data.Set.Basic
import Mathlib.Order.Nat
import RowGuard.Proofs.Query.Target
import RowGuard.Proofs.Text.Parts

/-!
# The targets by the places of their keys

Reading goes over the words from left to right, replaces what it has found by what it finds, and
stops when the targets are settled. So the targets can be told by where `from` and `join` stand, the
last word not counted, since no word follows it: reading stops at the later one of the first `from`
and the first `join`, and of each key the last one up to there counts.

What carries the argument is the state after the first `n` words (`notedTo`): each target is the
word behind the last of its keys among them, and nothing where there is none. Reading comes through
these states one by one until one of them is settled.
-/

namespace RowGuard.Query

/-- Where `key` stands among the words, with a word behind it. -/
def keyPlaces (key : List Char) (words : List (List Char)) : Set Nat :=
  {i | words[i]? = some key ∧ i + 1 < words.length}

namespace Targets

/-- What the first `n` words say, each with the word behind it, if reading does not stop. -/
def notedTo (joins : Bool) (words : List (List Char)) : Nat → Targets
  | 0 => {}
  | n + 1 =>
    match words[n]?, words[n + 1]? with
    | some word, some next => (notedTo joins words n).note joins word next
    | _, _ => notedTo joins words n

variable {joins : Bool} {words : List (List Char)} {n : Nat}

theorem notedTo_succ (h : n + 1 < words.length) :
    notedTo joins words (n + 1) =
      (notedTo joins words n).note joins words[n] words[n + 1] := by
  rw [notedTo, List.getElem?_eq_getElem h, List.getElem?_eq_getElem (Nat.lt_of_succ_lt h)]

theorem notedTo_succ_of_length_le (h : words.length ≤ n + 1) :
    notedTo joins words (n + 1) = notedTo joins words n := by
  rw [notedTo, List.getElem?_eq_none h]
  cases words[n]? with
  | none => rfl
  | some word => rfl

/-! ## What is known after some words -/

/-- A target that its key alone sets. -/
def SetBy (joins : Bool) (target : Targets → Option (List Char)) (key : List Char) : Prop :=
  target {} = none ∧
    ∀ word next t, target (note joins word next t) = if word = key then some next else target t

theorem setBy_source (joins : Bool) : SetBy joins Targets.source "from".toList :=
  ⟨rfl, fun _ _ _ => rfl⟩

theorem setBy_joined : SetBy true Targets.joined "join".toList := by
  refine ⟨rfl, fun word next t => ?_⟩
  rw [note, Bool.true_and]
  simp only [decide_eq_true_eq]

/-- The last key among the first `n` words counts. -/
theorem notedTo_cases {target : Targets → Option (List Char)} {key : List Char}
    (hset : SetBy joins target key) (words : List (List Char)) (n : Nat) :
    ((∀ i ∈ keyPlaces key words, n ≤ i) ∧ target (notedTo joins words n) = none) ∨
      ∃ i, IsGreatest {i ∈ keyPlaces key words | i < n} i ∧
        target (notedTo joins words n) = words[i + 1]? := by
  induction n with
  | zero => exact Or.inl ⟨fun i _ => Nat.zero_le i, hset.1⟩
  | succ n ih =>
      by_cases hkey : n ∈ keyPlaces key words
      · refine Or.inr ⟨n, ⟨⟨hkey, Nat.lt_succ_self n⟩, fun i hi => Nat.le_of_lt_succ hi.2⟩, ?_⟩
        obtain ⟨hn, hword⟩ := List.getElem?_eq_some_iff.mp hkey.1
        rw [notedTo_succ hkey.2, hset.2, if_pos hword, List.getElem?_eq_getElem hkey.2]
      · -- then neither the places nor the target change
        have hsame : target (notedTo joins words (n + 1)) = target (notedTo joins words n) := by
          by_cases hn : n + 1 < words.length
          · rw [notedTo_succ hn, hset.2, if_neg]
            intro hword
            exact hkey ⟨List.getElem?_eq_some_iff.mpr ⟨_, hword⟩, hn⟩
          · rw [notedTo_succ_of_length_le (Nat.le_of_not_lt hn)]
        have hlt : ∀ i ∈ keyPlaces key words, i < n + 1 → i < n := fun i hi hle =>
          Nat.lt_of_le_of_ne (Nat.le_of_lt_succ hle) fun heq => hkey (heq ▸ hi)
        rw [hsame]
        rcases ih with ⟨hfar, hnone⟩ | ⟨i, hgreatest, hfound⟩
        · refine Or.inl ⟨fun i hi => Nat.succ_le_of_lt ?_, hnone⟩
          exact Nat.lt_of_le_of_ne (hfar i hi) fun heq => hkey (heq ▸ hi)
        · refine Or.inr ⟨i, ⟨⟨hgreatest.1.1, Nat.lt_succ_of_lt hgreatest.1.2⟩, ?_⟩, hfound⟩
          exact fun j hj => hgreatest.2 ⟨hj.1, hlt j hj.1 hj.2⟩

/-- A target is known as soon as its key has been read. -/
theorem isSome_notedTo {target : Targets → Option (List Char)} {key : List Char}
    (hset : SetBy joins target key) :
    (target (notedTo joins words n)).isSome = true ↔ ∃ i ∈ keyPlaces key words, i < n := by
  rcases notedTo_cases hset words n with ⟨hfar, hnone⟩ | ⟨i, hgreatest, hfound⟩
  · rw [hnone]
    refine ⟨fun h => absurd h Bool.false_ne_true, fun ⟨i, hi, hlt⟩ => ?_⟩
    exact absurd hlt (Nat.not_lt_of_le (hfar i hi))
  · rw [hfound, List.getElem?_eq_getElem hgreatest.1.1.2]
    exact ⟨fun _ => ⟨i, hgreatest.1⟩, fun _ => rfl⟩

theorem joined_notedTo_false (words : List (List Char)) (n : Nat) :
    (notedTo false words n).joined = none := by
  induction n with
  | zero => rfl
  | succ n ih =>
      rw [notedTo]
      split
      · rw [note, Bool.false_and]
        exact ih
      · exact ih

/-- When the targets are settled. -/
theorem settled_notedTo : (notedTo joins words n).settled joins = true ↔
    (∃ i ∈ keyPlaces "from".toList words, i < n) ∧
      (joins = true → ∃ j ∈ keyPlaces "join".toList words, j < n) := by
  rw [settled, Bool.and_eq_true, isSome_notedTo (setBy_source joins)]
  refine and_congr_right fun _ => ?_
  cases joins with
  | false => exact ⟨fun _ h => absurd h Bool.false_ne_true, fun _ => rfl⟩
  | true =>
      rw [Bool.not_true, Bool.false_or, isSome_notedTo setBy_joined]
      exact ⟨fun h _ => h, fun h => h rfl⟩

/-! ## Where reading stops -/

theorem read_drop (h : n + 1 < words.length) :
    read joins (notedTo joins words n) (words.drop n) =
      if (notedTo joins words (n + 1)).settled joins then notedTo joins words (n + 1)
      else read joins (notedTo joins words (n + 1)) (words.drop (n + 1)) := by
  have hn : n < words.length := Nat.lt_of_succ_lt h
  rw [List.drop_eq_getElem_cons hn, List.drop_eq_getElem_cons h, read, ← notedTo_succ h]

theorem read_drop_of_length_le (t : Targets) (h : words.length ≤ n + 1) :
    read joins t (words.drop n) = t := by
  have hlen : (words.drop n).length ≤ 1 := by
    rw [List.length_drop]
    omega
  match hdrop : words.drop n, hlen with
  | [], _ => rfl
  | [word], _ => rfl

/-- Reading comes to every state before the targets are settled. -/
theorem read_eq_read_drop (hopen : ∀ m ≤ n, (notedTo joins words m).settled joins = false)
    (hn : n < words.length) :
    read joins {} words = read joins (notedTo joins words n) (words.drop n) := by
  induction n with
  | zero => rw [notedTo, List.drop_zero]
  | succ n ih =>
      rw [ih (fun m hm => hopen m (Nat.le_succ_of_le hm)) (Nat.lt_of_succ_lt hn), read_drop hn,
        if_neg (Bool.eq_false_iff.mp (hopen (n + 1) (Nat.le_refl _)))]

/-- It stops at the first word with which they are. -/
theorem read_eq_notedTo_of_settled (hopen : ∀ m ≤ n, (notedTo joins words m).settled joins = false)
    (hn : n + 1 < words.length) (hdone : (notedTo joins words (n + 1)).settled joins = true) :
    read joins {} words = notedTo joins words (n + 1) := by
  rw [read_eq_read_drop hopen (Nat.lt_of_succ_lt hn), read_drop hn, if_pos hdone]

/-- Where they never are, all the words are read. -/
theorem read_eq_notedTo_of_open (hopen : ∀ m, (notedTo joins words m).settled joins = false) :
    read joins {} words = notedTo joins words words.length := by
  cases hwords : words.length with
  | zero => rw [List.length_eq_zero_iff.mp hwords]; rfl
  | succ n =>
      have hn : n < words.length := hwords ▸ Nat.lt_succ_self n
      have hlast : words.length ≤ n + 1 := Nat.le_of_eq hwords
      rw [read_eq_read_drop (fun m _ => hopen m) hn, read_drop_of_length_le _ hlast,
        notedTo_succ_of_length_le hlast]

/-- The word with which the targets are settled ends the reading. -/
theorem read_eq_notedTo_of_first {stop : Nat} (hstop : stop + 1 < words.length)
    (hdone : (notedTo joins words (stop + 1)).settled joins = true)
    (hfirst : (notedTo joins words stop).settled joins = false) :
    read joins {} words = notedTo joins words (stop + 1) := by
  refine read_eq_notedTo_of_settled (fun m hm => ?_) hstop hdone
  -- what is settled stays settled
  refine Bool.eq_false_iff.mpr fun hsettled => Bool.eq_false_iff.mp hfirst ?_
  rw [settled_notedTo] at hsettled ⊢
  obtain ⟨⟨i, hi, hlt⟩, hjoined⟩ := hsettled
  refine ⟨⟨i, hi, Nat.lt_of_lt_of_le hlt hm⟩, fun hj => ?_⟩
  obtain ⟨j, hj, hlt⟩ := hjoined hj
  exact ⟨j, hj, Nat.lt_of_lt_of_le hlt hm⟩

/-- One of the states is what reading comes to. -/
theorem exists_read_eq_notedTo (joins : Bool) (words : List (List Char)) :
    ∃ n, read joins {} words = notedTo joins words n := by
  classical
  by_cases h : ∃ n, (notedTo joins words n).settled joins = true
  · have hopen : ∀ m < Nat.find h, (notedTo joins words m).settled joins = false := fun m hm =>
      Bool.eq_false_iff.mpr (Nat.find_min h hm)
    have hdone := Nat.find_spec h
    cases hn : Nat.find h with
    | zero =>
        rw [hn] at hdone
        exact absurd hdone Bool.false_ne_true
    | succ n =>
        rw [hn] at hdone hopen
        have hbefore : ∀ m ≤ n, (notedTo joins words m).settled joins = false := fun m hm =>
          hopen m (Nat.lt_succ_of_le hm)
        refine ⟨n + 1, read_eq_notedTo_of_settled hbefore ?_ hdone⟩
        by_contra hlong
        rw [notedTo_succ_of_length_le (Nat.le_of_not_lt hlong)] at hdone
        exact absurd hdone (Bool.eq_false_iff.mp (hopen n (Nat.lt_succ_self n)))
  · rw [not_exists] at h
    exact ⟨_, read_eq_notedTo_of_open fun m => Bool.eq_false_iff.mpr (h m)⟩

/-- Up to a place that is no earlier than one of the key's, the last such place counts. -/
theorem exists_isGreatest_of_le {target : Targets → Option (List Char)} {key : List Char}
    (hset : SetBy joins target key) {i stop : Nat} (hi : i ∈ keyPlaces key words)
    (hle : i ≤ stop) : ∃ k, IsGreatest {i ∈ keyPlaces key words | i ≤ stop} k ∧
      target (notedTo joins words (stop + 1)) = words[k + 1]? := by
  rcases notedTo_cases hset words (stop + 1) with ⟨hfar, -⟩ | ⟨k, hgreatest, hfound⟩
  · exact absurd (hfar i hi) (Nat.not_le_of_lt (Nat.lt_succ_of_le hle))
  · simp only [Nat.lt_succ_iff] at hgreatest
    exact ⟨k, hgreatest, hfound⟩

/-- Of all the places the last one counts. -/
theorem notedTo_length {target : Targets → Option (List Char)} {key : List Char}
    (hset : SetBy joins target key) (words : List (List Char)) :
    (keyPlaces key words = ∅ → target (notedTo joins words words.length) = none) ∧
      ((keyPlaces key words).Nonempty → ∃ k, IsGreatest (keyPlaces key words) k ∧
        target (notedTo joins words words.length) = words[k + 1]?) := by
  have hlt : ∀ i ∈ keyPlaces key words, i < words.length := fun i hi => Nat.lt_of_succ_lt hi.2
  rcases notedTo_cases hset words words.length with ⟨hfar, hnone⟩ | ⟨k, hgreatest, hfound⟩
  · refine ⟨fun _ => hnone, fun ⟨i, hi⟩ => ?_⟩
    exact absurd (hlt i hi) (Nat.not_lt_of_le (hfar i hi))
  · refine ⟨fun hempty => ?_, fun _ => ⟨k, ⟨hgreatest.1.1, ?_⟩, hfound⟩⟩
    · exact absurd hgreatest.1.1 (hempty ▸ Set.notMem_empty k)
    · exact fun i hi => hgreatest.2 ⟨hi, hlt i hi⟩

theorem eq_mk {t : Targets} {source joined : Option (List Char)} (hsource : t.source = source)
    (hjoined : t.joined = joined) : t = ⟨source, joined⟩ := by
  rw [← hsource, ← hjoined]

/-- Without a place of a key that is looked for, all the words are read. -/
theorem read_eq_notedTo_of_empty (h : keyPlaces "from".toList words = ∅ ∨
    joins = true ∧ keyPlaces "join".toList words = ∅) :
    read joins {} words = notedTo joins words words.length := by
  refine read_eq_notedTo_of_open fun m => ?_
  rw [Bool.eq_false_iff, ne_eq, settled_notedTo]
  rintro ⟨⟨i, hi, -⟩, hjoined⟩
  rcases h with hfrom | ⟨hjoins, hjoin⟩
  · exact Set.notMem_empty i (hfrom ▸ hi)
  · obtain ⟨j, hj, -⟩ := hjoined hjoins
    exact Set.notMem_empty j (hjoin ▸ hj)

/-- Where joined tables are not looked for, the first `from` names the source. -/
theorem read_false_of_nonempty (h : (keyPlaces "from".toList words).Nonempty) :
    ∃ f, IsLeast (keyPlaces "from".toList words) f ∧
      read false {} words = ⟨words[f + 1]?, none⟩ := by
  classical
  have hf := h.isLeast_natFind
  generalize Nat.find h = f at hf
  have hdone : (notedTo false words (f + 1)).settled false = true :=
    settled_notedTo.mpr ⟨⟨f, hf.1, Nat.lt_succ_self f⟩, fun hj => absurd hj Bool.false_ne_true⟩
  have hfirst : (notedTo false words f).settled false = false := by
    rw [Bool.eq_false_iff, ne_eq, settled_notedTo]
    rintro ⟨⟨i, hi, hlt⟩, -⟩
    exact absurd hlt (Nat.not_lt_of_le (hf.2 hi))
  obtain ⟨k, hk, hfound⟩ := exists_isGreatest_of_le (setBy_source false) hf.1 (Nat.le_refl f)
  obtain rfl : k = f := Nat.le_antisymm hk.1.2 (hf.2 hk.1.1)
  rw [read_eq_notedTo_of_first hf.1.2 hdone hfirst]
  exact ⟨k, hf, eq_mk hfound (joined_notedTo_false _ _)⟩

/-- Where they are, the later one of the first `from` and the first `join` ends the reading. -/
theorem read_true_of_nonempty (hfrom : (keyPlaces "from".toList words).Nonempty)
    (hjoin : (keyPlaces "join".toList words).Nonempty) :
    ∃ f j f' j', IsLeast (keyPlaces "from".toList words) f ∧
      IsLeast (keyPlaces "join".toList words) j ∧
      IsGreatest {i ∈ keyPlaces "from".toList words | i ≤ max f j} f' ∧
      IsGreatest {i ∈ keyPlaces "join".toList words | i ≤ max f j} j' ∧
      read true {} words = ⟨words[f' + 1]?, words[j' + 1]?⟩ := by
  classical
  have hf := hfrom.isLeast_natFind
  have hj := hjoin.isLeast_natFind
  generalize Nat.find hfrom = f at hf
  generalize Nat.find hjoin = j at hj
  have hstop : max f j + 1 < words.length := by
    have hfrom := hf.1.2
    have hjoin := hj.1.2
    omega
  have hdone : (notedTo true words (max f j + 1)).settled true = true :=
    settled_notedTo.mpr ⟨⟨f, hf.1, Nat.lt_succ_of_le (Nat.le_max_left f j)⟩,
      fun _ => ⟨j, hj.1, Nat.lt_succ_of_le (Nat.le_max_right f j)⟩⟩
  have hfirst : (notedTo true words (max f j)).settled true = false := by
    rw [Bool.eq_false_iff, ne_eq, settled_notedTo]
    rintro ⟨⟨i, hi, hilt⟩, hjoined⟩
    obtain ⟨k, hk, hklt⟩ := hjoined rfl
    have hfi : f ≤ i := hf.2 hi
    have hjk : j ≤ k := hj.2 hk
    omega
  obtain ⟨f', hf', hsource⟩ :=
    exists_isGreatest_of_le (setBy_source true) hf.1 (Nat.le_max_left f j)
  obtain ⟨j', hj', hjoined⟩ := exists_isGreatest_of_le setBy_joined hj.1 (Nat.le_max_right f j)
  rw [read_eq_notedTo_of_first hstop hdone hfirst]
  exact ⟨f, j, f', j', hf, hj, hf', hj', eq_mk hsource hjoined⟩

/-- What is found stands behind a key. -/
theorem exists_of_read {name : List Char} (h : (read joins {} words).Names name) :
    ∃ i ∈ keyPlaces "from".toList words ∪ keyPlaces "join".toList words,
      words[i + 1]? = some name := by
  have hbehind : ∀ {target : Targets → Option (List Char)} {key : List Char} {n : Nat},
      SetBy joins target key → target (notedTo joins words n) = some name →
      ∃ i ∈ keyPlaces key words, words[i + 1]? = some name := by
    intro target key n hset hname
    rcases notedTo_cases hset words n with ⟨-, hnone⟩ | ⟨i, hi, hfound⟩
    · exact absurd (hname.symm.trans hnone) (Option.some_ne_none name)
    · exact ⟨i, hi.1.1, hfound.symm.trans hname⟩
  obtain ⟨n, hread⟩ := exists_read_eq_notedTo joins words
  rw [hread] at h
  rcases h with hsource | hjoined
  · obtain ⟨i, hi, hname⟩ := hbehind (setBy_source joins) hsource
    exact ⟨i, Or.inl hi, hname⟩
  · cases joins with
    | false =>
        have hnone := joined_notedTo_false words n
        exact absurd (hjoined.symm.trans hnone) (Option.some_ne_none name)
    | true =>
        obtain ⟨i, hi, hname⟩ := hbehind setBy_joined hjoined
        exact ⟨i, Or.inr hi, hname⟩

end Targets

/-! ## The targets of a fragment -/

/-- Where `from` stands among the words of a fragment, with a word behind it. -/
def fromPlaces (fragment : List Char) : Set Nat := keyPlaces "from".toList (Text.words fragment)

/-- Where `join` does. -/
def joinPlaces (fragment : List Char) : Set Nat := keyPlaces "join".toList (Text.words fragment)

/--
**The targets have a closed form.**

Without the letters of `join` in the fragment the first `from` names the source. With them, the
later one of the first `from` and the first `join` ends the reading, and of each key the last one up
to there names its target; where one key is missing, the last place of the other one does. So a
table is read under at most two names, each a word behind a key. A key that is the last word is
never counted.
-/
theorem targets_closed_form (fragment : List Char) :
    (¬ "join".toList <:+: fragment →
      (fromPlaces fragment = ∅ → targets fragment = ⟨none, none⟩) ∧
      ((fromPlaces fragment).Nonempty → ∃ f, IsLeast (fromPlaces fragment) f ∧
        targets fragment = ⟨(Text.words fragment)[f + 1]?, none⟩)) ∧
    ("join".toList <:+: fragment →
      ((fromPlaces fragment).Nonempty → (joinPlaces fragment).Nonempty → ∃ f j f' j',
        IsLeast (fromPlaces fragment) f ∧ IsLeast (joinPlaces fragment) j ∧
        IsGreatest {i ∈ fromPlaces fragment | i ≤ max f j} f' ∧
        IsGreatest {i ∈ joinPlaces fragment | i ≤ max f j} j' ∧
        targets fragment =
          ⟨(Text.words fragment)[f' + 1]?, (Text.words fragment)[j' + 1]?⟩) ∧
      ((fromPlaces fragment).Nonempty → joinPlaces fragment = ∅ →
        ∃ f, IsGreatest (fromPlaces fragment) f ∧
          targets fragment = ⟨(Text.words fragment)[f + 1]?, none⟩) ∧
      (fromPlaces fragment = ∅ → (joinPlaces fragment).Nonempty →
        ∃ j, IsGreatest (joinPlaces fragment) j ∧
          targets fragment = ⟨none, (Text.words fragment)[j + 1]?⟩) ∧
      (fromPlaces fragment = ∅ → joinPlaces fragment = ∅ → targets fragment = ⟨none, none⟩)) ∧
    ∃ names : List (List Char), names.length ≤ 2 ∧
      (∀ table, reads fragment table = true ↔ Text.lower table ∈ names) ∧
      ∀ name ∈ names, Text.Solid name ∧
        ∃ i ∈ fromPlaces fragment ∪ joinPlaces fragment,
          (Text.words fragment)[i + 1]? = some name := by
  refine ⟨fun hnot => ?_, fun hin => ?_, ?_⟩
  · have htargets : targets fragment = Targets.read false {} (Text.words fragment) := by
      rw [targets, show mentionsJoin fragment = false from Text.occursIn_eq_false hnot]
    obtain ⟨hnosource, -⟩ :=
      Targets.notedTo_length (Targets.setBy_source false) (Text.words fragment)
    rw [htargets]
    refine ⟨fun hfrom => ?_, Targets.read_false_of_nonempty⟩
    rw [Targets.read_eq_notedTo_of_empty (Or.inl hfrom)]
    exact Targets.eq_mk (hnosource hfrom) (Targets.joined_notedTo_false _ _)
  · have htargets : targets fragment = Targets.read true {} (Text.words fragment) := by
      rw [targets, show mentionsJoin fragment = true from Text.occursIn_iff.mpr hin]
    obtain ⟨hnosource, hsource⟩ :=
      Targets.notedTo_length (Targets.setBy_source true) (Text.words fragment)
    obtain ⟨hnojoined, hjoined⟩ := Targets.notedTo_length Targets.setBy_joined (Text.words fragment)
    rw [htargets]
    refine ⟨Targets.read_true_of_nonempty, fun hfrom hjoin => ?_, fun hfrom hjoin => ?_,
      fun hfrom hjoin => ?_⟩
    · obtain ⟨f, hf, hfound⟩ := hsource hfrom
      rw [Targets.read_eq_notedTo_of_empty (Or.inr ⟨rfl, hjoin⟩)]
      exact ⟨f, hf, Targets.eq_mk hfound (hnojoined hjoin)⟩
    · obtain ⟨j, hj, hfound⟩ := hjoined hjoin
      rw [Targets.read_eq_notedTo_of_empty (Or.inl hfrom)]
      exact ⟨j, hj, Targets.eq_mk (hnosource hfrom) hfound⟩
    · rw [Targets.read_eq_notedTo_of_empty (Or.inl hfrom)]
      exact Targets.eq_mk (hnosource hfrom) (hnojoined hjoin)
  · refine ⟨(targets fragment).source.toList ++ (targets fragment).joined.toList, ?_, ?_, ?_⟩
    · rw [List.length_append]
      exact Nat.add_le_add Option.length_toList_le Option.length_toList_le
    · intro table
      rw [reads_iff, List.mem_append, Option.mem_toList, Option.mem_toList]
      rfl
    · intro name hname
      rw [List.mem_append, Option.mem_toList, Option.mem_toList] at hname
      have hnames : (Targets.read (mentionsJoin fragment) {} (Text.words fragment)).Names name :=
        hname
      obtain ⟨i, hi, hword⟩ := Targets.exists_of_read hnames
      exact ⟨Text.solid_of_mem_words (List.mem_of_getElem? hword), i, hi, hword⟩

/-- A `from` that replaces another, one behind the end of the reading, and a `join` as the last
word. -/
theorem targets_closed_form_replaced :
    let fragment := "from a from b join c from d join".toList
    "join".toList <:+: fragment ∧ (fromPlaces fragment).Nonempty ∧
      (joinPlaces fragment).Nonempty ∧
      (∃ f j f' j', IsLeast (fromPlaces fragment) f ∧ IsLeast (joinPlaces fragment) j ∧
        IsGreatest {i ∈ fromPlaces fragment | i ≤ max f j} f' ∧
        IsGreatest {i ∈ joinPlaces fragment | i ≤ max f j} j' ∧
        targets fragment =
          ⟨(Text.words fragment)[f' + 1]?, (Text.words fragment)[j' + 1]?⟩) ∧
      targets fragment = ⟨some "b".toList, some "c".toList⟩ := by
  intro fragment
  have hjoins : "join".toList <:+: fragment := by decide
  have hfrom : (fromPlaces fragment).Nonempty := ⟨0, by decide, by decide⟩
  have hjoin : (joinPlaces fragment).Nonempty := ⟨4, by decide, by decide⟩
  have hform := ((targets_closed_form fragment).2.1 hjoins).1 hfrom hjoin
  exact ⟨hjoins, hfrom, hjoin, hform, by decide⟩

end RowGuard.Query
