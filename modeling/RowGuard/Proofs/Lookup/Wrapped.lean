import RowGuard.Proofs.Lookup.Opacity
import RowGuard.Proofs.Query.Naming

/-!
# Parentheses around a query

The two parentheses around a query are taken off where they are its very first and its very last
character, and what is looked up is the query inside. Blanks are not looked through for them.

A blank after the closing parenthesis keeps it: it is read as a character of the query, where it goes
to the end of the clause and may go to the end of a name. A blank ahead of the opening one keeps both,
and what is inside is a group, of which nothing is seen outside.
-/

namespace RowGuard

open Query

namespace Query

/-- The text that the tables are read from: the fragment, or the query where it has none. -/
def reading (query : List Char) : List Char := (fragment? query).getD query

/-! ## What is taken off -/

/-- A pair of parentheses around a query is taken off. -/
theorem normalize_enclosed {query : List Char} (hhead : query.head? ≠ some '(') :
    normalize ('(' :: (query ++ [')'])) = normalize query := by
  have hlower : Text.lower ('(' :: (query ++ [')'])) = '(' :: (Text.lower query ++ [')']) :=
    lower_group [] query []
  have hlast : (Text.lower query ++ [')']).getLast? = some ')' := List.getLast?_concat
  rw [normalize_of_head (head?_lower hhead), normalize, hlower, unwrap?, Option.getD_some,
    if_pos hlast, List.dropLast_concat]

variable {blanks : List Char}

/-- A closing parenthesis and blanks after a query that does not begin with a group are kept. -/
theorem normalize_closed {query : List Char} (hhead : query.head? ≠ some '(')
    (hblanks : Text.Vacant blanks) :
    normalize (query ++ ')' :: blanks) = normalize query ++ ')' :: blanks := by
  have hhead' : (query ++ ')' :: blanks).head? ≠ some '(' := by
    cases query with
    | nil => exact fun h => absurd (Option.some.inj h) (by decide)
    | cons c rest => exact hhead
  rw [normalize_of_head (head?_lower hhead), normalize_of_head (head?_lower hhead'),
    Text.lower_append (by decide), hblanks.lower_eq]
  rfl

/-- And so they are where the opening one is taken off. -/
theorem normalize_opened {query : List Char} (hhead : query.head? ≠ some '(')
    (hblanks : Text.Vacant blanks) (hne : blanks ≠ []) :
    normalize ('(' :: (query ++ ')' :: blanks)) = normalize query ++ ')' :: blanks := by
  have hlower : Text.lower ('(' :: (query ++ ')' :: blanks)) =
      '(' :: (Text.lower query ++ ')' :: Text.lower blanks) :=
    lower_group [] query blanks
  have hlast : (Text.lower query ++ ')' :: blanks).getLast? ≠ some ')' := by
    intro h
    rw [List.getLast?_append_of_ne_nil _ (List.cons_ne_nil _ _),
      List.getLast?_cons_of_ne_nil hne] at h
    exact hblanks.not_mem (by decide) (List.mem_of_getLast? h)
  rw [normalize_of_head (head?_lower hhead), normalize, hlower, hblanks.lower_eq, unwrap?,
    Option.getD_some, if_neg hlast]

/-- A query that begins with blanks is only taken into small letters. -/
theorem normalize_of_blanks (hblanks : Text.Vacant blanks) (hne : blanks ≠ [])
    (query : List Char) : normalize (blanks ++ query) = blanks ++ Text.lower query := by
  have hopen : '(' ∉ blanks := hblanks.not_mem (by decide)
  have hhead : (blanks ++ query).head? ≠ some '(' := by
    rw [List.head?_append_of_ne_nil _ hne]
    exact fun h => hopen (List.mem_of_mem_head? h)
  rw [normalize_of_head (head?_lower hhead), hblanks.lower_append]

/-- And so are both parentheses and what they hold. -/
theorem normalize_kept {before : List Char} (hbefore : Text.Vacant before) (hne : before ≠ [])
    (query : List Char) (hblanks : Text.Vacant blanks) :
    normalize (before ++ '(' :: (query ++ ')' :: blanks)) =
      before ++ '(' :: (Text.lower query ++ ')' :: blanks) := by
  have hlower : Text.lower ('(' :: (query ++ ')' :: blanks)) =
      '(' :: (Text.lower query ++ ')' :: Text.lower blanks) :=
    lower_group [] query blanks
  rw [normalize_of_blanks hbefore hne, hlower, hblanks.lower_eq]

/-! ## A closing parenthesis and blanks after a query -/

/-- They open no group. -/
theorem mem_closed (hblanks : Text.Vacant blanks) {query : List Char} :
    '(' ∈ query ++ ')' :: blanks ↔ '(' ∈ query := by
  have hopen : '(' ∉ blanks := hblanks.not_mem (by decide)
  rw [List.mem_append, List.mem_cons]
  exact or_iff_left fun h => h.elim (by decide) hopen

/-- No pattern of letters reaches into them. -/
theorem infix_closed {pattern more : List Char} (hne : pattern ≠ []) (hsolid : Text.Solid pattern)
    (hclose : ')' ∉ pattern) (hblanks : Text.Vacant blanks) (hmore : more ⊆ ')' :: blanks)
    (text : List Char) : pattern <:+: text ++ more ↔ pattern <:+: text := by
  refine Text.infix_append_of_none hne (fun c hc hin => ?_) text
  rcases List.mem_cons.mp (hmore hc) with rfl | hblank
  · exact hclose hin
  · exact absurd (hblanks c hblank) (by rw [hsolid c hin]; exact Bool.false_ne_true)

theorem keyword_infix_closed (hblanks : Text.Vacant blanks) (depth : Nat) (text : List Char) :
    keyword <:+: outsideFrom depth (text ++ ')' :: blanks) ↔
      keyword <:+: outsideFrom depth text := by
  rw [outsideFrom_append]
  exact infix_closed (by decide) (by decide) (by decide) hblanks (outsideFrom_sublist _ _).subset _

theorem reading_of_completes {pre : List Char} {c : Char} (h : Completes pre c)
    (post : List Char) : reading (pre ++ c :: post) = outside pre ++ c :: post := by
  rw [reading, fragment?_of_completes h]
  rfl

theorem reading_without_keyword {query : List Char} (h : ¬ keyword <:+: outside query) :
    reading query = query := by
  rw [reading, fragment?_without_keyword h]
  split
  · rfl
  · rfl

/-- The targets are the same if neither the last word of the text nor the one before is a key. -/
theorem targets_closed (hblanks : Text.Vacant blanks) {text : List Char}
    (hlast : EndsFree (Text.words text)) (hbefore : EndsFree (Text.words text).dropLast) :
    targets (text ++ ')' :: blanks) = targets text := by
  have hwords : Text.words (text ++ ')' :: blanks) = Text.words (text ++ [')']) := by
    rw [← List.singleton_append, ← List.append_assoc, Text.words_append hblanks.apart,
      hblanks.words_eq_nil, List.append_nil]
  refine SameNamings.targets_eq ⟨?_, Or.inl ?_⟩
  · rw [hwords]
    -- the parenthesis is a word of its own, which the last word would name, or it goes to the end of
    -- the last word, which the one before would name
    rcases Text.words_concat_or (c := ')') (by decide) text with hown | ⟨before, word, hw, hjoined⟩
    · rw [hown, namings_append hlast]
      exact List.append_nil _
    · rw [hw, List.dropLast_concat] at hbefore
      rw [hw, hjoined, namings_append hbefore, namings_append hbefore]
      rfl
  · rw [mentionsJoin, mentionsJoin, Bool.eq_iff_iff, Text.occursIn_iff, Text.occursIn_iff]
    exact infix_closed (by decide) (by decide) (by decide) hblanks (List.Subset.refl _) text

/-! ## Blanks ahead of a group -/

/-- They stand outside groups and hold no letter of the keyword. -/
theorem keyword_infix_blanks (hblanks : Text.Vacant blanks) (text : List Char) :
    keyword <:+: outside (blanks ++ text) ↔ keyword <:+: outside text := by
  have hopen : '(' ∉ blanks := hblanks.not_mem (by decide)
  rw [outside_append (closed_of_not_mem hopen), outside_eq_self hopen,
    hblanks.infix_append_iff (by decide)]

/-- What stands outside after balanced text in a group is what does so after the group. -/
theorem outsideFrom_lower_closed {group : List Char} (hgroup : Balanced group)
    (rest : List Char) :
    outsideFrom 1 (Text.lower (group ++ ')' :: rest)) = outside (Text.lower rest) := by
  have hdepth : depthFrom 1 (Text.lower group) = 1 :=
    (depthFrom_lowerAfter 1 false group).trans hgroup.inside.1
  have hinside : outsideFrom 1 (Text.lower group) = [] :=
    outsideFrom_lowerAfter_eq_nil hgroup.inside.2 false
  rw [Text.lower_append (by decide), outsideFrom_append, hdepth, hinside]
  rfl

/-- With the keyword outside groups the scan finds the fragment. -/
theorem exists_scanned {query : List Char} (h : keyword <:+: outside query) :
    ∃ fragment, fragment? query = some fragment ∧ scan [] query = some fragment := by
  obtain ⟨pre, c, post, rfl, hc⟩ := exists_completes h
  exact ⟨_, fragment?_of_completes hc post, scan_of_completes hc post⟩

/-- A group with which a query begins after blanks leaves no mark on the fragment. -/
theorem exists_fragment_group (hblanks : Text.Vacant blanks) (hne : blanks ≠ [])
    {group rest : List Char} (hgroup : Balanced group)
    (hkey : keyword <:+: outside (Text.lower rest)) :
    ∃ fragment, fragment? (normalize (blanks ++ '(' :: (group ++ ')' :: rest))) = some fragment ∧
      fragment? (normalize (blanks ++ rest)) = some fragment := by
  have hopen : '(' ∉ blanks := hblanks.not_mem (by decide)
  have hhead : blanks.head? ≠ some '(' := fun h => hopen (List.mem_of_mem_head? h)
  have hclosed : Closed blanks := closed_of_not_mem hopen
  have hout : outside blanks = blanks := outside_eq_self hopen
  have hnone : ¬ keyword <:+: ([] : List Char).reverse ++ outside blanks := by
    rw [← List.append_nil blanks]
    exact (keyword_infix_blanks hblanks []).not.mpr (by decide)
  have hnone' : ¬ keyword <:+: Text.lower (outside blanks) := by
    rw [hout, hblanks.lower_eq, ← hout]
    exact hnone
  obtain ⟨fragment, hfragment, hscan⟩ :=
    exists_scanned ((keyword_infix_blanks hblanks (Text.lower rest)).mpr hkey)
  refine ⟨fragment, ?_, by rw [normalize_of_blanks hblanks hne, hfragment]⟩
  -- past the blanks the scan of the one query is the scan of the other
  rw [fragment?_normalize_group hne hhead hclosed hnone' hgroup, hblanks.lower_eq, ← hscan,
    scan_append hclosed hnone]
  exact congrArg (scan · _) (List.append_nil _).symm

end Query

/-! ## Outcomes -/

/-- The outcome with more at the end of its clause, if it has one. -/
def Outcome.extended (more : String) : Outcome → Outcome
  | clause text => .clause (text ++ more)
  | noMatch reason => .noMatch reason
  | invalid message => .invalid message
  | unknown => .unknown

/-- The second outcome is of the same kind as the first one, with more at the end of a clause and with
the same reason for having none. The tables that a refusal tells of may be others. -/
inductive Outcome.Continues (more : String) : Outcome → Outcome → Prop where
  | clause (text : String) : Continues more (.clause text) (.clause (text ++ more))
  | noMatch (reason : Option String) : Continues more (.noMatch reason) (.noMatch reason)
  | invalid (message message' : String) : Continues more (.invalid message) (.invalid message')

theorem Outcome.continues_noMatch_iff {more : String} {reason reason' : Option String} :
    Continues more (.noMatch reason) (.noMatch reason') ↔ reason = reason' := by
  constructor
  · rintro ⟨⟩
    rfl
  · rintro rfl
    exact .noMatch reason

/-- Of two choices between outcomes of different kinds one continues the other exactly if they are made
alike. -/
theorem Outcome.Continues.ite_iff {more : String} {a b a' b' : Outcome} {yes yes' : Prop}
    [Decidable yes] [Decidable yes'] (ha : Continues more a a') (hb : Continues more b b')
    (hab : ¬ Continues more a b') (hba : ¬ Continues more b a') :
    Continues more (if yes then a else b) (if yes' then a' else b') ↔ (yes' ↔ yes) := by
  by_cases h : yes
  · by_cases h' : yes'
    · rw [if_pos h, if_pos h']
      exact ⟨fun _ => ⟨fun _ => h, fun _ => h'⟩, fun _ => ha⟩
    · rw [if_pos h, if_neg h']
      exact ⟨fun hcont => absurd hcont hab, fun hiff => absurd (hiff.mpr h) h'⟩
  · by_cases h' : yes'
    · rw [if_neg h, if_pos h']
      exact ⟨fun hcont => absurd hcont hba, fun hiff => absurd (hiff.mp h') h⟩
    · rw [if_neg h, if_neg h']
      exact ⟨fun _ => ⟨fun hyes => absurd hyes h', fun hyes => absurd hyes h⟩, fun _ => hb⟩

section

variable {query blanks : List Char} {table : String}

/-- A closing parenthesis and blanks after a small query are small. -/
theorem lower_closed (hsmall : Text.lower query = query) (hblanks : Text.Vacant blanks) :
    Text.lower (query ++ ')' :: blanks) = query ++ ')' :: blanks := by
  rw [Text.lower_append (by decide), hsmall, hblanks.lower_eq]
  rfl

/-- After a filter they go to the end of the clause, and of what the tables are read from. -/
theorem lookupIn_closed_of_completes {pre post : List Char} {c : Char} (hc : Completes pre c)
    (hsmall : Text.lower (pre ++ c :: post) = pre ++ c :: post) (hblanks : Text.Vacant blanks) :
    (lookupIn (pre ++ c :: post ++ ')' :: blanks) table).1 =
      if (targets (outside pre ++ c :: post ++ ')' :: blanks)).Names (Text.lower table.toList)
      then .clause (String.ofList (keyword ++ post) ++ String.ofList (')' :: blanks))
      else .invalid (unattributed (outside pre ++ c :: post ++ ')' :: blanks) table) := by
  have hquery : pre ++ c :: post ++ ')' :: blanks = pre ++ c :: (post ++ ')' :: blanks) :=
    List.append_assoc pre (c :: post) (')' :: blanks)
  have hread : outside pre ++ c :: post ++ ')' :: blanks =
      outside pre ++ c :: (post ++ ')' :: blanks) :=
    List.append_assoc (outside pre) (c :: post) (')' :: blanks)
  have hsmall' := lower_closed hsmall hblanks
  rw [hquery] at hsmall'
  rw [← String.ofList_append, List.append_assoc keyword, hquery, hread]
  exact lookupIn_of_completes hc (lower_outside_append hsmall')

/-- Without one they go to the end of the query. -/
theorem lookupIn_closed_without_keyword (hkey : ¬ keyword <:+: outside query)
    (hsmall : Text.lower query = query) (hblanks : Text.Vacant blanks) :
    (lookupIn (query ++ ')' :: blanks) table).1 = .noMatch (some
      (if (targets (query ++ ')' :: blanks)).Names (Text.lower table.toList)
       then if '(' ∈ query then Outcome.noTopLevelWhere else Outcome.noWhere
       else Outcome.tableMismatch)) := by
  have hkey' : ¬ keyword <:+: outside (query ++ ')' :: blanks) := by
    rwa [outside, keyword_infix_closed hblanks]
  rw [lookupIn_without_keyword hkey' (lower_closed hsmall hblanks)]
  simp only [mem_closed hblanks]

/-- The outcome is continued exactly if they change nothing about whether the table is read. -/
theorem lookupIn_closed (hsmall : Text.lower query = query) (hblanks : Text.Vacant blanks)
    (table : String) :
    let more := String.ofList (')' :: blanks)
    let bare := (lookupIn query table).1
    let closed := (lookupIn (query ++ ')' :: blanks) table).1
    let name := Text.lower table.toList
    (bare.Continues more closed ↔ ((targets (reading query ++ ')' :: blanks)).Names name ↔
      (targets (reading query)).Names name)) ∧
    (targets (reading query ++ ')' :: blanks) = targets (reading query) →
      closed = bare.extended more) := by
  intro more bare closed name
  by_cases hkey : keyword <:+: outside query
  · obtain ⟨pre, c, post, rfl, hc⟩ := exists_completes hkey
    have hbare : bare = _ := lookupIn_of_completes hc (lower_outside_append hsmall)
    have hclosed : closed = _ := lookupIn_closed_of_completes hc hsmall hblanks
    rw [reading_of_completes hc, hbare, hclosed]
    refine ⟨Outcome.Continues.ite_iff (.clause _) (.invalid _ _) nofun nofun, fun htargets => ?_⟩
    rw [unattributed, unattributed, htargets]
    split
    · rfl
    · rfl
  · have hbare : bare = _ := lookupIn_without_keyword hkey hsmall
    have hclosed : closed = _ := lookupIn_closed_without_keyword hkey hsmall hblanks
    have hreason : (if '(' ∈ query then Outcome.noTopLevelWhere else Outcome.noWhere) ≠
        Outcome.tableMismatch := by
      split
      · decide
      · decide
    -- both lookups have the same reason for a query that reads the table, whichever it is
    generalize (if '(' ∈ query then Outcome.noTopLevelWhere else Outcome.noWhere) = reason
      at hbare hclosed hreason
    rw [reading_without_keyword hkey, hbare, hclosed]
    refine ⟨?_, fun htargets => by rw [htargets]; rfl⟩
    rw [apply_ite some, apply_ite Outcome.noMatch, apply_ite some, apply_ite Outcome.noMatch]
    refine Outcome.Continues.ite_iff (.noMatch _) (.noMatch _) (fun h => ?_) (fun h => ?_)
    · exact hreason (Option.some.inj (Outcome.continues_noMatch_iff.mp h))
    · exact hreason (Option.some.inj (Outcome.continues_noMatch_iff.mp h)).symm

end

/-- A query that is a group after blanks, and has no keyword after the group, has no filter. -/
theorem lookupIn_group {blanks group : List Char} (hblanks : Text.Vacant blanks)
    (hsmall : Text.lower (blanks ++ '(' :: group) = blanks ++ '(' :: group)
    (hkey : ¬ keyword <:+: outsideFrom 1 group) (table : String) :
    (lookupIn (blanks ++ '(' :: group) table).1 = .noMatch (some
      (if (targets (blanks ++ '(' :: group)).Names (Text.lower table.toList)
        then Outcome.noTopLevelWhere else Outcome.tableMismatch)) := by
  have hopen : '(' ∈ blanks ++ '(' :: group := List.mem_append_right _ List.mem_cons_self
  have hkey' : ¬ keyword <:+: outside (blanks ++ '(' :: group) :=
    (keyword_infix_blanks hblanks ('(' :: group)).not.mpr hkey
  rw [lookupIn_without_keyword hkey' hsmall, if_pos hopen]

/-! ## Wrapped queries -/

section

variable {q u v : String} {t : String}

/-- With an empty table nothing is looked up, whatever the query is. -/
theorem lookup_of_empty_table (query : String) (ht : t = "") :
    lookup (some query) (some t) = .noMatch (some Outcome.emptyInput) := by
  subst ht
  exact lookup_of_missing (Or.inr rfl)

theorem toList_wrapped (u q v : String) : (u ++ "(" ++ q ++ ")" ++ v).toList =
    u.toList ++ '(' :: (q.toList ++ ')' :: v.toList) := by
  simp

/-- Any other table is looked up in what is left of the wrapped query. -/
theorem lookup_wrapped_of_ne (ht : t ≠ "") :
    lookup (some (u ++ "(" ++ q ++ ")" ++ v)) (some t) =
      (lookupIn (normalize (u.toList ++ '(' :: (q.toList ++ ')' :: v.toList))) t).1 := by
  have hne : u ++ "(" ++ q ++ ")" ++ v ≠ "" := by simp
  rw [lookup_of_ne hne ht, toList_wrapped]

/-- The pair is taken off. -/
theorem lookup_enclosed (hq : q ≠ "") (hhead : q.toList.head? ≠ some '(') (ht : t ≠ "") :
    lookup (some ("" ++ "(" ++ q ++ ")" ++ "")) (some t) = lookup (some q) (some t) := by
  rw [lookup_wrapped_of_ne ht, lookup_of_ne hq ht]
  exact congrArg (fun n => (lookupIn n t).1) (normalize_enclosed hhead)

/-- With blanks after the pair, it is the opening one that is. -/
theorem lookup_opened (hhead : q.toList.head? ≠ some '(') (hv : Text.Vacant v.toList)
    (hne : v ≠ "") (ht : t ≠ "") :
    lookup (some ("" ++ "(" ++ q ++ ")" ++ v)) (some t) =
        (lookupIn (normalize q.toList ++ ')' :: v.toList) t).1 ∧
      lookup (some (q ++ ")" ++ v)) (some t) =
        (lookupIn (normalize q.toList ++ ')' :: v.toList) t).1 := by
  have hv' : v.toList ≠ [] := fun hnil => hne (String.toList_eq_nil_iff.mp hnil)
  have hchars : (q ++ ")" ++ v).toList = q.toList ++ ')' :: v.toList := by simp
  have hqv : q ++ ")" ++ v ≠ "" := by simp
  refine ⟨?_, ?_⟩
  · rw [lookup_wrapped_of_ne ht, ← normalize_opened hhead hv hv']
    rfl
  · rw [lookup_of_ne hqv ht, hchars, normalize_closed hhead hv]

/-- With blanks ahead of the pair neither is, and a keyword in the group is not seen. -/
theorem lookup_unread (hu : Text.Vacant u.toList) (hv : Text.Vacant v.toList) (hne : u ≠ "")
    (ht : t ≠ "") (hkey : ¬ keyword <:+: outsideFrom 1 (Text.lower q.toList)) :
    lookup (some (u ++ "(" ++ q ++ ")" ++ v)) (some t) = .noMatch (some
      (if (targets (u.toList ++ '(' :: (Text.lower q.toList ++ ')' :: v.toList))).Names
          (Text.lower t.toList)
        then Outcome.noTopLevelWhere else Outcome.tableMismatch)) := by
  have hu' : u.toList ≠ [] := fun hnil => hne (String.toList_eq_nil_iff.mp hnil)
  have hnormal := normalize_kept hu hu' q.toList hv
  have hsmall := lower_normalize (u.toList ++ '(' :: (q.toList ++ ')' :: v.toList))
  rw [hnormal] at hsmall
  rw [lookup_wrapped_of_ne ht, hnormal]
  exact lookupIn_group hu hsmall ((keyword_infix_closed hv 1 _).not.mpr hkey) t

/-- If the query inside closes the group and has its keyword after that, the group is passed over. -/
theorem lookup_passed {group rest : String} (hu : Text.Vacant u.toList)
    (hv : Text.Vacant v.toList) (hne : u ≠ "") (ht : t ≠ "") (hgroup : Balanced group.toList)
    (hkey : keyword <:+: outside (Text.lower rest.toList)) :
    lookup (some (u ++ "(" ++ (group ++ ")" ++ rest) ++ ")" ++ v)) (some t) =
      lookup (some (u ++ rest ++ ")" ++ v)) (some t) := by
  have hu' : u.toList ≠ [] := fun hnil => hne (String.toList_eq_nil_iff.mp hnil)
  have hchars : (u ++ rest ++ ")" ++ v).toList =
      u.toList ++ (rest.toList ++ ')' :: v.toList) := by simp
  have hgroup' : (group ++ ")" ++ rest).toList ++ ')' :: v.toList =
      group.toList ++ ')' :: (rest.toList ++ ')' :: v.toList) := by simp
  have hrest : u ++ rest ++ ")" ++ v ≠ "" := by simp
  have hkey' : keyword <:+: outside (Text.lower (rest.toList ++ ')' :: v.toList)) := by
    have hclose : Text.lowerChar ')' = [')'] := by decide
    rw [Text.lower_append (by decide), hv.lower_eq, hclose, outside]
    exact (keyword_infix_closed hv 0 _).mpr hkey
  obtain ⟨fragment, hfragment, hpassed⟩ := exists_fragment_group hu hu' hgroup hkey'
  rw [lookup_wrapped_of_ne ht, lookup_of_ne hrest ht, hchars, hgroup',
    lookupIn_of_fragment_eq hfragment hpassed]

end

/--
**Parentheses around a query are taken off where nothing stands around them.**

Then the query has the outcome that it has without them. With blanks after the closing parenthesis
only the opening one is taken off. The outcome goes on as it was, with the parenthesis and the blanks
at the end of a clause, exactly if the parenthesis changes nothing about whether the table is read; and
it does not if neither the last word of what is read nor the one before is a key. With blanks ahead
of the opening parenthesis both stay, and there is a filter only where the query inside closes the
group itself and has its keyword after that.
-/
theorem lookup_wrapped {q u v : String} (t : String) (hq : q ≠ "")
    (hhead : q.toList.head? ≠ some '(') (hu : Text.Vacant u.toList) (hv : Text.Vacant v.toList) :
    let wrapped := lookup (some (u ++ "(" ++ q ++ ")" ++ v)) (some t)
    let bare := lookup (some q) (some t)
    let name := Text.lower t.toList
    (t = "" ∨ u = "" ∧ v = "" → wrapped = bare) ∧
    (u = "" → v ≠ "" →
      let read := reading (normalize q.toList)
      let closed := read ++ ')' :: v.toList
      wrapped = lookup (some (q ++ ")" ++ v)) (some t) ∧
      (bare.Continues (")" ++ v) wrapped ↔
        ((targets closed).Names name ↔ (targets read).Names name)) ∧
      (targets closed = targets read → wrapped = bare.extended (")" ++ v)) ∧
      (EndsFree (Text.words read) → EndsFree (Text.words read).dropLast →
        targets closed = targets read)) ∧
    (u ≠ "" → t ≠ "" →
      let whole := u.toList ++ '(' :: (Text.lower q.toList ++ ')' :: v.toList)
      let unread := Outcome.noMatch (some
        (if (targets whole).Names name then Outcome.noTopLevelWhere else Outcome.tableMismatch))
      ((∀ pre, pre <+: q.toList → pre.count ')' ≤ pre.count '(') → wrapped = unread) ∧
      (∀ group rest : String, q = group ++ ")" ++ rest → Balanced group.toList →
        wrapped = if keyword <:+: outside (Text.lower rest.toList)
          then lookup (some (u ++ rest ++ ")" ++ v)) (some t) else unread) ∧
      ((∀ pre, pre <+: q.toList → pre.count ')' ≤ pre.count '(') ∨
        ∃ group rest : String, q = group ++ ")" ++ rest ∧ Balanced group.toList)) := by
  intro wrapped bare name
  refine ⟨?_, ?_, ?_⟩
  · intro h
    by_cases ht : t = ""
    · exact (lookup_of_empty_table _ ht).trans (lookup_of_empty_table q ht).symm
    · obtain ⟨rfl, rfl⟩ := h.resolve_left ht
      exact lookup_enclosed hq hhead ht
  · -- an empty table is never read, and for any other the query is looked up without its opening
    -- parenthesis
    rintro rfl hne read closed
    have hmore : ")" ++ v = String.ofList (')' :: v.toList) := by
      rw [← String.toList_inj]
      simp
    by_cases ht : t = ""
    · have hnone : ∀ text, ¬ (targets text).Names name := by
        subst ht
        exact not_names_nil
      have hempty := fun query => lookup_of_empty_table query ht
      rw [show wrapped = _ from hempty _, show bare = _ from hempty _, hempty]
      exact ⟨rfl, iff_of_true (.noMatch _) (iff_of_false (hnone _) (hnone _)), fun _ => rfl,
        targets_closed hv⟩
    · obtain ⟨hopened, hclosed⟩ := lookup_opened hhead hv hne ht
      obtain ⟨hiff, hsame⟩ := lookupIn_closed (lower_normalize q.toList) hv t
      rw [show wrapped = _ from hopened, show bare = _ from lookup_of_ne hq ht, hclosed, hmore]
      exact ⟨rfl, hiff, hsame, targets_closed hv⟩
  · intro hne ht whole unread
    refine ⟨fun hcount => ?_, ?_, ?_⟩
    · -- the group does not close before the parenthesis that was put there
      have hinside : outsideFrom 1 q.toList = [] :=
        (depthFrom_of_count_le 0 fun pre hpre => by have := hcount pre hpre; omega).2
      refine lookup_unread hu hv hne ht ?_
      rw [Text.lower, outsideFrom_lowerAfter_eq_nil hinside false]
      decide
    · rintro group rest rfl hgroup
      split
      · exact lookup_passed hu hv hne ht hgroup ‹_›
      · have hchars : (group ++ ")" ++ rest).toList = group.toList ++ ')' :: rest.toList := by
          simp
        refine lookup_unread hu hv hne ht ?_
        rw [hchars, outsideFrom_lower_closed hgroup]
        assumption
    · refine (count_le_or_balanced q.toList).imp_right ?_
      rintro ⟨group, rest, hsplit, hgroup⟩
      refine ⟨String.ofList group, String.ofList rest, ?_, by rwa [String.toList_ofList]⟩
      rw [← String.toList_inj, hsplit]
      simp

/-- A query in parentheses, with a line break after it, with one on either side, and with a second
query after the first one. -/
theorem lookup_wrapped_lines :
    lookup (some ("" ++ "(" ++ "select * from foo where x=1" ++ ")" ++ "")) (some "foo") =
      .clause "where x=1" ∧
    lookup (some ("" ++ "(" ++ "select * from foo where x=1" ++ ")" ++ "\n")) (some "foo") =
      .clause "where x=1)\n" ∧
    lookup (some ("\n" ++ "(" ++ "select * from foo where x=1" ++ ")" ++ "\n")) (some "foo") =
      .noMatch (some Outcome.noTopLevelWhere) ∧
    lookup (some ("\n" ++ "(" ++ "select x from b) union select * from foo where (y=1" ++ ")" ++ ""))
      (some "foo") = .clause "where (y=1)" := by
  have hbare : lookup (some "select * from foo where x=1") (some "foo") = .clause "where x=1" := by
    decide +kernel
  refine ⟨?_, ?_, ?_, ?_⟩
  · exact ((lookup_wrapped "foo" (by decide) (by decide) (by decide) (by decide)).1
      (Or.inr ⟨rfl, rfl⟩)).trans hbare
  · obtain ⟨-, -, hextended, hnamed⟩ := (lookup_wrapped (q := "select * from foo where x=1")
      (u := "") (v := "\n") "foo" (by decide) (by decide) (by decide) (by decide)).2.1 rfl (by decide)
    rw [hextended (hnamed (by decide +kernel) (by decide +kernel)), hbare]
    rfl
  · obtain ⟨hunread, -⟩ := (lookup_wrapped (q := "select * from foo where x=1")
      (u := "\n") (v := "\n") "foo" (by decide) (by decide) (by decide) (by decide)).2.2
      (by decide) (by decide)
    have hbalanced : Balanced "select * from foo where x=1".toList := by decide +kernel
    rw [hunread hbalanced.2]
    decide +kernel
  · obtain ⟨-, hpassed, -⟩ := (lookup_wrapped
      (q := "select x from b) union select * from foo where (y=1")
      (u := "\n") (v := "") "foo" (by decide) (by decide) (by decide) (by decide)).2.2
      (by decide) (by decide)
    rw [hpassed "select x from b" " union select * from foo where (y=1" rfl (by decide +kernel)]
    decide +kernel

/-- A line break on either side is enough: it leaves the table unread, hides the filter, or puts the
parenthesis into the clause. -/
theorem lookup_wrapped_apart :
    (Text.Vacant "\n".toList ∧ "select * from foo".toList.head? ≠ some '(' ∧
      lookup (some ("(" ++ "select * from foo" ++ ")" ++ "\n")) (some "foo") =
        .noMatch (some Outcome.tableMismatch) ∧
      lookup (some "select * from foo") (some "foo") = .noMatch (some Outcome.noWhere)) ∧
    ("select * from foo where x=1".toList.head? ≠ some '(' ∧
      lookup (some ("\n" ++ "(" ++ "select * from foo where x=1" ++ ")")) (some "foo") =
        .noMatch (some Outcome.noTopLevelWhere) ∧
      lookup (some ("(" ++ "select * from foo where x=1" ++ ")" ++ "\n")) (some "foo") =
        .clause "where x=1)\n" ∧
      lookup (some "select * from foo where x=1") (some "foo") = .clause "where x=1") := by
  decide +kernel

end RowGuard
