import RowGuard.Environment.Binding

/-!
# Reading a file of variables again

What a file sets depends on the variables that are there: they come before what the file says, in
references and in the end. But which names the file binds, and which of them to a value, can be told
from its lines alone. Reading it adds those of them that are not set, so once all of them are set,
reading the file again finds nothing left to do.
-/

namespace RowGuard

namespace Variables

/-- A variable that is set stays as it is. -/
theorem get?_setDefault {vars : Variables} {n : String} (h : (vars.get? n).isSome = true)
    (name value : String) : (vars.setDefault name value).get? n = vars.get? n := by
  obtain ⟨v, hv⟩ := Option.isSome_iff_exists.mp h
  rw [setDefault]
  split
  · rfl
  · rw [get?, List.lookup_append, ← get?, hv, Option.some_or]

theorem isSome_get?_setDefault (vars : Variables) (name value : String) :
    ((vars.setDefault name value).get? name).isSome = true := by
  rw [setDefault]
  split
  · assumption
  · rw [get?, List.lookup_append, List.lookup_cons_self, Option.isSome_or, Option.isSome_some,
      Bool.or_true]

/-- Adds those of some variables that are not set. -/
def addUnset (vars : Variables) (bindings : List (String × String)) : Variables :=
  bindings.foldl (fun vars b => vars.setDefault b.1 b.2) vars

/-- Adding more variables leaves alone those that are set. -/
theorem isSome_get?_addUnset {vars : Variables} {n : String} (h : (vars.get? n).isSome = true)
    (bindings : List (String × String)) : ((vars.addUnset bindings).get? n).isSome = true := by
  induction bindings generalizing vars with
  | nil => exact h
  | cons b rest ih => exact ih (by rw [get?_setDefault h]; exact h)

/-- In the end every name is set. -/
theorem isSome_get?_addUnset_of_mem {bindings : List (String × String)} {n : String}
    (h : n ∈ bindings.map Prod.fst) (vars : Variables) :
    ((vars.addUnset bindings).get? n).isSome = true := by
  induction bindings generalizing vars with
  | nil => cases h
  | cons b rest ih =>
      rcases List.mem_cons.mp h with rfl | hrest
      · exact isSome_get?_addUnset (isSome_get?_setDefault vars b.1 b.2) rest
      · exact ih hrest _

/-- Where all of them are set nothing is added. -/
theorem addUnset_of_isSome {bindings : List (String × String)} {vars : Variables}
    (h : ∀ n ∈ bindings.map Prod.fst, (vars.get? n).isSome = true) :
    vars.addUnset bindings = vars := by
  induction bindings with
  | nil => rfl
  | cons b rest ih =>
      obtain ⟨hfirst, hrest⟩ := List.forall_mem_cons.mp h
      have hkept : vars.setDefault b.1 b.2 = vars := if_pos hfirst
      rw [addUnset, List.foldl_cons, hkept]
      exact ih hrest

/-- Adding variables of the same names again changes nothing, whatever their values are now. -/
theorem addUnset_again {bindings others : List (String × String)}
    (h : others.map Prod.fst = bindings.map Prod.fst) (vars : Variables) :
    (vars.addUnset bindings).addUnset others = vars.addUnset bindings := by
  refine addUnset_of_isSome fun n hn => ?_
  rw [h] at hn
  exact isSome_get?_addUnset_of_mem hn vars

end Variables

namespace Binding

/-! ## Setting variables -/

/-- The names that are bound to a value, with their values. -/
def valued (bindings : List (String × Option String)) : List (String × String) :=
  bindings.filterMap fun b => b.2.map fun value => (b.1, value)

/-- If nothing stops it, the names that are bound to a value are added. -/
theorem setAll_of_ok {bindings : List (String × Option String)} {vars : Variables}
    (h : (setAll vars bindings).2 = .ok ()) :
    (setAll vars bindings).1 = vars.addUnset (valued bindings) := by
  induction bindings generalizing vars with
  | nil => rfl
  | cons b rest ih =>
      obtain ⟨name, _ | value⟩ := b
      · exact ih h
      · have hvalued : valued ((name, some value) :: rest) = (name, value) :: valued rest := rfl
        rw [setAll] at h ⊢
        rw [hvalued, Variables.addUnset, List.foldl_cons]
        split at h
        · rename_i hset
          have hkept : vars.setDefault name value = vars := if_pos hset
          rw [if_pos hset, hkept]
          exact ih h
        · rename_i hset
          split at h
          · cases h
          · rename_i hfine
            rw [if_neg hset, if_neg hfine]
            exact ih h

/-- Where all of them are set nothing is done. -/
theorem setAll_of_isSome {bindings : List (String × Option String)} {vars : Variables}
    (h : ∀ n ∈ (valued bindings).map Prod.fst, (vars.get? n).isSome = true) :
    setAll vars bindings = (vars, .ok ()) := by
  induction bindings with
  | nil => rfl
  | cons b rest ih =>
      obtain ⟨name, _ | value⟩ := b
      · exact ih h
      · obtain ⟨hfirst, hrest⟩ := List.forall_mem_cons.mp h
        rw [setAll, if_pos hfirst]
        exact ih hrest

/-- What stops it is a name or a value that the environment refuses. -/
theorem setAll_result (bindings : List (String × Option String)) (vars : Variables) :
    (setAll vars bindings).2 = .ok () ∨ (setAll vars bindings).2 = .error .badContent := by
  induction bindings generalizing vars with
  | nil => exact Or.inl rfl
  | cons b rest ih =>
      obtain ⟨name, value⟩ := b
      cases value with
      | none => exact ih vars
      | some value =>
          rw [setAll]
          split
          · exact ih vars
          · split
            · exact Or.inr rfl
            · exact ih _

/-! ## What a file binds -/

/-- Which names are bound, and which of them to a value. -/
def shape (bindings : List (String × Option String)) : List (String × Bool) :=
  bindings.map fun b => (b.1, b.2.isSome)

theorem any_name_eq_of_shape {done other : List (String × Option String)}
    (h : shape done = shape other) (name : String) :
    done.any (·.1 = name) = other.any (·.1 = name) := by
  have hany : ∀ bindings : List (String × Option String),
      bindings.any (·.1 = name) = (shape bindings).any (·.1 = name) := by
    intro bindings
    rw [shape, List.any_map]
    rfl
  rw [hany, hany, h]

theorem shape_rebind (bindings : List (String × Option String)) (name : String)
    (value : Option String) :
    shape (bindings.map fun b => if b.1 = name then (name, value) else b) =
      (shape bindings).map fun b => if b.1 = name then (name, value.isSome) else b := by
  rw [shape, shape, List.map_map, List.map_map]
  refine List.map_congr_left fun b _ => ?_
  by_cases hb : b.1 = name
  · simp only [Function.comp_apply, hb, if_true]
  · simp only [Function.comp_apply, hb, if_false]

/-- The variables that are there have no say in what is bound. -/
theorem shape_resolved (vars others : Variables) (ls : List (Nat × Line))
    {done other : List (String × Option String)} (h : shape done = shape other) :
    shape (resolved vars done ls) = shape (resolved others other ls) := by
  induction ls generalizing done other with
  | nil => exact h
  | cons l rest ih =>
      obtain ⟨number, line⟩ := l
      cases line with
      | blank => exact ih h
      | unreadable => exact ih h
      | binding name value =>
          rw [resolved, resolved]
          refine ih ?_
          rw [any_name_eq_of_shape h]
          split
          · rw [shape_rebind, shape_rebind, h, Option.isSome_map, Option.isSome_map]
          · simp only [shape, List.map_append] at h ⊢
            rw [h, List.map_singleton, List.map_singleton, Option.isSome_map, Option.isSome_map]

theorem map_fst_valued (bindings : List (String × Option String)) :
    (valued bindings).map Prod.fst =
      (shape bindings).filterMap fun b => if b.2 then some b.1 else none := by
  rw [valued, shape, List.map_filterMap, List.filterMap_map]
  congr 1
  funext ⟨name, value⟩
  cases value <;> rfl

/-- The names of a file that are bound to a value are so whatever variables there are. -/
theorem map_fst_valued_resolved (vars others : Variables) (ls : List (Nat × Line)) :
    (valued (resolved others [] ls)).map Prod.fst =
      (valued (resolved vars [] ls)).map Prod.fst := by
  rw [map_fst_valued, map_fst_valued, shape_resolved others vars ls rfl]

/-- Reading a file adds the names that it binds to a value, unless something stops that; and once it
has, reading the file again does so, too. -/
theorem load_of_ok {vars : Variables} {text : List Char} (h : (load vars text).2.2 = .ok ()) :
    ∃ bindings, (load vars text).1 = vars.addUnset bindings ∧
      ∃ others, others.map Prod.fst = bindings.map Prod.fst ∧
        (load (load vars text).1 text).1 = (load vars text).1.addUnset others ∧
        (load (load vars text).1 text).2.2 = .ok () := by
  let ls := lines 1 text.length (withoutMark text)
  have hadded : (load vars text).1 = vars.addUnset (valued (resolved vars [] ls)) := setAll_of_ok h
  have hnames := map_fst_valued_resolved vars (load vars text).1 ls
  have hset : setAll (load vars text).1 (resolved (load vars text).1 [] ls) =
      ((load vars text).1, .ok ()) := by
    refine setAll_of_isSome fun n hn => ?_
    rw [hnames] at hn
    rw [hadded]
    exact Variables.isSome_get?_addUnset_of_mem hn vars
  have hagain : (load (load vars text).1 text).2.2 = .ok () := congrArg Prod.snd hset
  exact ⟨_, hadded, _, hnames, setAll_of_ok hagain, hagain⟩

end Binding

end RowGuard
