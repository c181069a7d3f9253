import RowGuard.Proofs.Lookup.Decision
import RowGuard.Proofs.Query.Lower
import RowGuard.Proofs.Query.Naming

/-!
# What the body of a filter decides

A query that goes on after its keyword finds a clause or is refused, and which of the two is decided
by the targets of its fragment. The fragment holds the body, so the body has its say: by the letters
of `join` if they stand in it, and by what it names after a `from` or a `join` of its own. It says
nothing else, and often not even that much. Where the head has a `from` and a `join`, the targets are
settled before the body is reached, and where the body names nothing, what the head names stands.

A head that lacks one of the two words is never safe: some body turns a refusal into a clause.
-/

namespace RowGuard

open Query

namespace Query

/-- The small form of the text comes to its first keyword outside groups with its last character. -/
def EndsInKeyword (text : List Char) : Prop :=
  ∃ pre c, Text.lower text = pre ++ [c] ∧ Completes pre c

instance (pre : List Char) (c : Char) : Decidable (Completes pre c) :=
  decidable_of_iff
    (Closed pre ∧ c ≠ '(' ∧ ¬ keyword <:+: outside pre ∧ keyword <:+ outside pre ++ [c])
    ⟨fun ⟨hclosed, hstands, hbefore, hends⟩ => ⟨hclosed, hstands, hbefore, hends⟩,
      fun h => ⟨h.closed, h.stands, h.before, h.ends⟩⟩

instance (text : List Char) : Decidable (EndsInKeyword text) :=
  match hlast : (Text.lower text).getLast? with
  | none => .isFalse fun ⟨pre, c, hlower, _⟩ => by
      rw [hlower, List.getLast?_concat] at hlast
      exact Option.some_ne_none c hlast
  | some c => decidable_of_iff (Completes (Text.lower text).dropLast c) <| by
      constructor
      · intro hc
        exact ⟨_, c, (List.dropLast_append_getLast? c hlast).symm, hc⟩
      · rintro ⟨pre, d, hlower, hd⟩
        rw [hlower, List.getLast?_concat] at hlast
        obtain rfl := Option.some.inj hlast
        rw [hlower, List.dropLast_concat]
        exact hd

/-- A body that does not bear on how the targets are read from the head before it. Both are small
already. -/
inductive Bearless (head body : List Char) : Prop where
  /-- The head names a source and a joined table, and nothing after them is read. -/
  | settled (hsource : "from".toList ∈ Text.words head) (hjoined : "join".toList ∈ Text.words head)
  /-- The head names a source, and no joined table is looked for. -/
  | single (hsource : "from".toList ∈ Text.words head) (hhead : mentionsJoin head = false)
    (hbody : mentionsJoin body = false)
  /-- The body names nothing, and whether joined tables are looked for is not up to it, or does not
  matter. -/
  | silent (hbody : namings (Text.words body) = [])
    (hjoin : mentionsJoin body = false ∨ mentionsJoin head = true ∨
      SoleSource (namings (Text.words head)))

/-! ## The head -/

/-- A head's last word ends in the keyword, and so names nothing. -/
theorem Completes.endsFree {pre : List Char} {c : Char} (h : Completes pre c) :
    EndsFree (Text.words (outside pre ++ [c])) := by
  -- both keys end in another letter than the keyword does
  obtain rfl := h.eq_e
  obtain ⟨before, word, hwords⟩ := Text.words_concat (c := 'e') (by decide) (outside pre)
  intro last hlast
  rw [hwords, List.getLast?_concat] at hlast
  obtain rfl := Option.some.inj hlast
  rintro (hkey | hkey)
  · exact absurd (congrArg List.getLast? hkey) (by rw [List.getLast?_concat]; decide)
  · exact absurd (congrArg List.getLast? hkey) (by rw [List.getLast?_concat]; decide)

theorem outside_lower_of_completes {text pre : List Char} {c : Char}
    (hlower : Text.lower text = pre ++ [c]) (h : Completes pre c) :
    outside (Text.lower text) = outside pre ++ [c] := by
  rw [hlower, h.outside_eq]
  rfl

theorem EndsInKeyword.endsFree {text : List Char} (h : EndsInKeyword text) :
    EndsFree (Text.words (outside (Text.lower text))) := by
  obtain ⟨pre, c, hlower, hc⟩ := h
  rw [outside_lower_of_completes hlower hc]
  exact hc.endsFree

/-- A body without bearing leaves the targets to the head. -/
theorem Bearless.targets_eq {head body : List Char} (h : Bearless head body)
    (hhead : EndsFree (Text.words head)) (hbody : Text.Apart body) :
    targets (head ++ body) = targets head := by
  have hkeys : ∀ {key : List Char}, IsKey key → key ∈ Text.words head →
      ∃ next, (key, next) ∈ namings (Text.words head) := fun hkey => exists_mem_namings hkey hhead
  rw [targets_append hbody hhead, targets_eq_gather]
  cases h with
  | settled hsource hjoined =>
      have hjoin : mentionsJoin head = true := Text.occursIn_iff.mpr (Text.of_mem_words hjoined).2
      rw [hjoin, Bool.true_or]
      exact Targets.gather_append_of_settled rfl
        (Targets.settled_gather (Or.inr (hkeys (Or.inl rfl) hsource))
          fun _ => Or.inr (hkeys (Or.inr rfl) hjoined)) _
  | single hsource hjoin hjoin' =>
      rw [hjoin, hjoin', Bool.or_false]
      exact Targets.gather_append_of_settled rfl
        (Targets.settled_gather (Or.inr (hkeys (Or.inl rfl) hsource))
          fun hj => absurd hj Bool.false_ne_true) _
  | silent hnone hjoin =>
      rw [hnone, List.append_nil]
      rcases hjoin with hjoin | hjoin | hsole
      · rw [hjoin, Bool.or_false]
      · rw [hjoin, Bool.true_or]
      · exact Targets.gather_eq_of_sole hsole _ _

/-! ## A body that moves the targets -/

/-- A name that is longer than the text, and so none of its words. -/
def freshName (text : List Char) : List Char := List.replicate (text.length + 1) 'x'

/-- A body that names the same source and joined table. -/
def namingBody (name : List Char) : List Char :=
  ' ' :: ("from".toList ++ ' ' :: (name ++ ' ' :: ("join".toList ++ ' ' :: name)))

theorem mem_freshName {text : List Char} {c : Char} (h : c ∈ freshName text) : c = 'x' :=
  List.eq_of_mem_replicate h

theorem freshName_not_isKey (text : List Char) : ¬ IsKey (freshName text) := by
  rintro (h | h)
  · exact absurd (List.cons.inj h).1 (by decide)
  · exact absurd (List.cons.inj h).1 (by decide)

/-- No text that is no longer names the name. -/
theorem freshName_not_names (text : List Char) : ¬ (targets text).Names (freshName text) := by
  intro h
  have hle := (Text.of_mem_words (mem_words_of_names h)).2.length_le
  rw [freshName, List.length_replicate] at hle
  exact absurd hle (Nat.not_succ_le_self _)

theorem words_namingBody (text : List Char) :
    Text.words (namingBody (freshName text)) =
      ["from".toList, freshName text, "join".toList, freshName text] := by
  have hblank : ∀ rest, Text.Apart (' ' :: rest) := Text.apart_cons (by decide)
  have hskip : ∀ rest, Text.words (' ' :: rest) = Text.words rest := Text.words_of_blank (by decide)
  have hname : Text.words (freshName text) = [freshName text] :=
    Text.words_eq_singleton (List.cons_ne_nil _ _) fun c hc => by rw [mem_freshName hc]; decide
  have hfrom : Text.words "from".toList = ["from".toList] := by decide
  have hjoin : Text.words "join".toList = ["join".toList] := by decide
  rw [namingBody, hskip, Text.words_append (hblank _), hfrom, hskip, Text.words_append (hblank _),
    hname, hskip, Text.words_append (hblank _), hjoin, hskip, hname]
  rfl

theorem isSmall_freshName {text : List Char} {c : Char} (h : c ∈ freshName text) :
    Text.IsSmall c := by
  rw [mem_freshName h]
  decide

theorem lower_freshName (text : List Char) :
    Text.lower (String.ofList (freshName text)).toList = freshName text := by
  rw [String.toList_ofList]
  exact Text.lowerAfter_of_small fun _ hc => isSmall_freshName hc

theorem lower_namingBody (text : List Char) :
    Text.lower (String.ofList (namingBody (freshName text))).toList =
      namingBody (freshName text) := by
  have hblank : Text.IsSmall ' ' := by decide
  have hkeys : ∀ d, d ∈ "from".toList ∨ d ∈ "join".toList → Text.IsSmall d := by
    have hall : ("from".toList ++ "join".toList).all (fun d => decide (Text.IsSmall d)) = true := by
      decide
    exact fun d hd => of_decide_eq_true (List.all_eq_true.mp hall d (List.mem_append.mpr hd))
  rw [String.toList_ofList]
  refine Text.lowerAfter_of_small fun c hc => ?_
  simp only [namingBody, List.mem_cons, List.mem_append] at hc
  rcases hc with rfl | hfrom | rfl | hname | rfl | hjoin | rfl | hname
  · exact hblank
  · exact hkeys c (Or.inl hfrom)
  · exact hblank
  · exact isSmall_freshName hname
  · exact hblank
  · exact hkeys c (Or.inr hjoin)
  · exact hblank
  · exact isSmall_freshName hname

/-- A head that lacks a source or a joined table takes them from such a body. -/
theorem names_of_namingBody {head : List Char} (hhead : EndsFree (Text.words head))
    (hlacks : ¬ ("from".toList ∈ Text.words head ∧ "join".toList ∈ Text.words head)) :
    (targets (head ++ namingBody (freshName head))).Names (freshName head) := by
  have hjoin : mentionsJoin (namingBody (freshName head)) = true := by
    have hin : "join".toList ∈ Text.words (namingBody (freshName head)) := by
      rw [words_namingBody]
      exact List.mem_cons_of_mem _ (List.mem_cons_of_mem _ List.mem_cons_self)
    exact Text.occursIn_iff.mpr (Text.of_mem_words hin).2
  have hnamed : namings (Text.words (namingBody (freshName head))) =
      [("from".toList, freshName head), ("join".toList, freshName head)] := by
    have hfrom : IsKey "from".toList := Or.inl rfl
    have hjoin : IsKey "join".toList := Or.inr rfl
    rw [words_namingBody, namings_cons, namings_cons, namings_cons, if_pos hfrom,
      if_neg (freshName_not_isKey head), if_pos hjoin]
    rfl
  -- what the head names cannot settle the targets, since it has not both of the keys
  have hopen : ((Targets.gather true {} (namings (Text.words head))).settled true) = false := by
    rw [← Bool.not_eq_true]
    intro hsettled
    rw [Targets.settled, Bool.and_eq_true] at hsettled
    obtain ⟨_, hsource⟩ := (Targets.isSome_of_source hsettled.1).resolve_left Bool.false_ne_true
    obtain ⟨_, hjoined⟩ := (Targets.isSome_of_joined hsettled.2).resolve_left Bool.false_ne_true
    exact hlacks ⟨mem_of_mem_namings hsource, mem_of_mem_namings hjoined⟩
  have hapart : Text.Apart (namingBody (freshName head)) := Text.apart_cons (by decide) _
  rw [targets_append hapart hhead, hjoin, Bool.or_true, Targets.gather_append_of_open hopen, hnamed]
  -- the body's source takes the place of any that is there, and its joined table replaces no source
  refine Or.inl ?_
  rw [Targets.gather]
  split
  · rfl
  · rw [Targets.gather]
    split
    · rfl
    · rfl

end Query

/-! ## Attribution -/

/-- A query that ends in its keyword, with any body after it, has a clause exactly if the table is a
target of the head and the body together. -/
theorem lookup_body {p r t : String} (hhead : p.toList.head? ≠ some '(')
    (hkey : EndsInKeyword p.toList) (hr : Text.Apart r.toList) (ht : t ≠ "") :
    lookup (some (p ++ r)) (some t) =
      if (targets (outside (Text.lower p.toList) ++ Text.lower r.toList)).Names
        (Text.lower t.toList)
      then .clause (String.ofList (keyword ++ Text.lower r.toList))
      else .invalid (unattributed (outside (Text.lower p.toList) ++ Text.lower r.toList) t) := by
  obtain ⟨pre, c, hlower, hc⟩ := hkey
  have hp : p.toList ≠ [] := by
    intro hnil
    rw [hnil] at hlower
    exact absurd hlower.symm (List.append_ne_nil_of_right_ne_nil pre (List.cons_ne_nil c []))
  have hchars : (p ++ r).toList = p.toList ++ r.toList := String.toList_append
  have hpr : p ++ r ≠ "" := by
    intro hnil
    have := congrArg String.toList hnil
    rw [hchars] at this
    exact hp (List.append_eq_nil_iff.mp this).1
  -- a query that begins with no group is unwrapped nowhere, whatever its body ends in
  have hsmall : normalize (p ++ r).toList = pre ++ c :: Text.lower r.toList := by
    have hne : (p.toList ++ r.toList).head? ≠ some '(' := by
      rw [List.head?_append_of_ne_nil _ hp]
      exact hhead
    rw [hchars, normalize_of_head (head?_lower hne), hr.lower_append, hlower, List.append_assoc]
    rfl
  have hsub := outside_append_subset pre (c :: Text.lower r.toList)
  rw [← hsmall] at hsub
  rw [lookup_of_ne hpr ht, hsmall, lookupIn_of_completes hc (lower_of_subset_normalize hsub),
    outside_lower_of_completes hlower hc, List.append_assoc]
  rfl

/-- A head that lacks a source or a joined table leaves the attribution to the body. -/
theorem exists_moving_body {p : String} (hhead : p.toList.head? ≠ some '(')
    (hkey : EndsInKeyword p.toList)
    (hlacks : ¬ ("from".toList ∈ Text.words (outside (Text.lower p.toList)) ∧
      "join".toList ∈ Text.words (outside (Text.lower p.toList)))) :
    ∃ r t : String, Text.Apart r.toList ∧ t ≠ "" ∧
      (∃ message, lookup (some p) (some t) = .invalid message) ∧
      ∃ text, lookup (some (p ++ r)) (some t) = .clause text := by
  have hmoves := names_of_namingBody hkey.endsFree hlacks
  have hne : String.ofList (freshName (outside (Text.lower p.toList))) ≠ "" := by
    intro hnil
    have hchars := congrArg String.toList hnil
    rw [String.toList_ofList] at hchars
    exact absurd hchars (List.cons_ne_nil _ _)
  have hapart : Text.Apart
      (String.ofList (namingBody (freshName (outside (Text.lower p.toList))))).toList := by
    rw [String.toList_ofList]
    exact Text.apart_cons (by decide) _
  have hnothing : Text.lower "".toList = [] := rfl
  -- alone, the head cannot name what is longer than itself
  have halone := lookup_body hhead hkey (r := "") (by decide) hne
  have hmoved := lookup_body hhead hkey hapart hne
  rw [String.append_empty, hnothing, lower_freshName, List.append_nil,
    if_neg (freshName_not_names _)] at halone
  rw [lower_namingBody, lower_freshName, if_pos hmoves] at hmoved
  exact ⟨_, _, hapart, hne, ⟨_, halone⟩, _, hmoved⟩

/--
**The body decides by what it names.**

Let `head` be the text outside groups of a query that ends in its keyword. With any body after it the
outcome is a clause or a refusal, and it is decided by what the head names, what the body names after
that, and whether the letters of `join` stand in one of them. Two bodies without bearing on the head
have the same outcome, the clause being what follows the keyword and the refusal the same message.
Where the head lacks a `from` or a `join`, some body turns the refusal of a table into a clause.
-/
theorem attribution_decided {p : String} (hhead : p.toList.head? ≠ some '(')
    (hkey : EndsInKeyword p.toList) :
    let head := outside (Text.lower p.toList)
    (∀ r t : String, Text.Apart r.toList → t ≠ "" →
      let body := Text.lower r.toList
      let read := Targets.gather (mentionsJoin head || mentionsJoin body) {}
        (namings (Text.words head) ++ namings (Text.words body))
      lookup (some (p ++ r)) (some t) =
        if read.Names (Text.lower t.toList) then .clause (String.ofList (keyword ++ body))
        else .invalid (Message.invalidQuery t (read.source.map String.ofList)
          (read.joined.map String.ofList))) ∧
    (∀ r r' t : String, Text.Apart r.toList → Text.Apart r'.toList → t ≠ "" →
      Bearless head (Text.lower r.toList) → Bearless head (Text.lower r'.toList) →
      (lookup (some (p ++ r)) (some t) = .clause (String.ofList (keyword ++ Text.lower r.toList)) ∧
        lookup (some (p ++ r')) (some t) =
          .clause (String.ofList (keyword ++ Text.lower r'.toList))) ∨
      ∃ message, lookup (some (p ++ r)) (some t) = .invalid message ∧
        lookup (some (p ++ r')) (some t) = .invalid message) ∧
    (¬ ("from".toList ∈ Text.words head ∧ "join".toList ∈ Text.words head) →
      ∃ r t : String, Text.Apart r.toList ∧ t ≠ "" ∧
        (∃ message, lookup (some p) (some t) = .invalid message) ∧
        ∃ text, lookup (some (p ++ r)) (some t) = .clause text) := by
  intro head
  have hfree : EndsFree (Text.words head) := hkey.endsFree
  refine ⟨fun r t hr ht => ?_, fun r r' t hr hr' ht hbear hbear' => ?_, fun hlacks => ?_⟩
  · intro body read
    have hread : targets (head ++ body) = read := targets_append hr.lower hfree
    rw [lookup_body hhead hkey hr ht, hread, unattributed, hread]
  · rw [lookup_body hhead hkey hr ht, lookup_body hhead hkey hr' ht, unattributed, unattributed,
      hbear.targets_eq hfree hr.lower, hbear'.targets_eq hfree hr'.lower]
    by_cases hnames : (targets head).Names (Text.lower t.toList)
    · rw [if_pos hnames, if_pos hnames]
      exact Or.inl ⟨rfl, rfl⟩
    · rw [if_neg hnames, if_neg hnames]
      exact Or.inr ⟨_, rfl, rfl⟩
  · exact exists_moving_body hhead hkey hlacks

/-- A head with a source alone: a subquery in the body leaves it the clause, and some body moves
what it is attributed to. -/
theorem attribution_decided_subquery :
    lookup (some ("select f(where) from a WHERE" ++ " x in (select y from b)")) (some "A") =
      .clause "where x in (select y from b)" ∧
    lookup (some ("select f(where) from a WHERE" ++ " y=1")) (some "A") = .clause "where y=1" ∧
    ∃ r t : String, Text.Apart r.toList ∧ t ≠ "" ∧
      (∃ message, lookup (some "select f(where) from a WHERE") (some t) = .invalid message) ∧
      ∃ text, lookup (some ("select f(where) from a WHERE" ++ r)) (some t) = .clause text := by
  obtain ⟨hdecides, hbearless, hmoves⟩ :=
    attribution_decided (p := "select f(where) from a WHERE") (by decide) (by decide +kernel)
  have hclause : lookup (some ("select f(where) from a WHERE" ++ " y=1")) (some "A") =
      .clause "where y=1" := by
    rw [hdecides " y=1" "A" (by decide) (by decide)]
    decide +kernel
  refine ⟨?_, hclause, hmoves (by decide +kernel)⟩
  rcases hbearless " x in (select y from b)" " y=1" "A" (by decide) (by decide) (by decide)
    (.single (by decide +kernel) (by decide +kernel) (by decide +kernel))
    (.single (by decide +kernel) (by decide +kernel) (by decide +kernel)) with h | ⟨message, -, h⟩
  · exact h.1
  · exact absurd (hclause.symm.trans h) Outcome.noConfusion

/-- What moves an attribution: a subquery with a join, the letters of `join` in a column, and a
source where the head has none. -/
theorem attribution_moved :
    ("select * from a where".toList.head? ≠ some '(' ∧
      EndsInKeyword "select * from a where".toList ∧
      Text.Apart " id in (select id from c join b on x=y)".toList ∧ Text.Apart " id=1".toList ∧
      (lookup (some ("select * from a where" ++ " id in (select id from c join b on x=y)"))
        (some "a")).label = "invalid" ∧
      (lookup (some ("select * from a where" ++ " id=1"))
        (some "a")).label = "clause") ∧
    ("select x from a from b where".toList.head? ≠ some '(' ∧
      EndsInKeyword "select x from a from b where".toList ∧
      Text.Apart " joined=1".toList ∧ Text.Apart " x=1".toList ∧
      (lookup (some ("select x from a from b where" ++ " joined=1"))
        (some "a")).label = "invalid" ∧
      (lookup (some ("select x from a from b where" ++ " x=1"))
        (some "a")).label = "clause") ∧
    ("select 1 where".toList.head? ≠ some '(' ∧
      EndsInKeyword "select 1 where".toList ∧
      Text.Apart " x=1".toList ∧ Text.Apart " exists (select 1 from a )".toList ∧
      (lookup (some ("select 1 where" ++ " x=1"))
        (some "a")).label = "invalid" ∧
      (lookup (some ("select 1 where" ++ " exists (select 1 from a )"))
        (some "a")).label = "clause") := by
  decide +kernel

end RowGuard
