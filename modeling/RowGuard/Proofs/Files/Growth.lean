import Mathlib.Data.Set.Insert
import RowGuard.Files.Store

/-!
# How a store grows

Making directories and touching files takes nothing away: what is there stays there as it is. `Gains`
says so of two stores, and which files the later one has besides. Making directories, as far as it
gets before an error, gains no file; touching one gains just that, and leaves it as it is if it is
there already.
-/

namespace RowGuard.Files

/-! ## Paths in full -/

/-- No double dots are left in a path in full. -/
theorem Path.dots_not_mem_full (cwd : List String) (p : Path) : ".." ∉ (p.full cwd).names := by
  have hfold : ∀ names done : List String, ".." ∉ done → ".." ∉ names.foldl
      (fun done n => if n = ".." then done.dropLast else done ++ [n]) done := by
    intro names
    induction names with
    | nil => exact fun done h => h
    | cons n names ih =>
        refine fun done h => ih _ ?_
        show ".." ∉ if n = ".." then done.dropLast else done ++ [n]
        split
        · exact fun hmem => h (List.dropLast_subset done hmem)
        · rename_i hn
          rw [List.mem_append, List.mem_singleton, not_or]
          exact ⟨h, Ne.symm hn⟩
  exact hfold _ [] List.not_mem_nil

theorem Path.root_full_ne (cwd : List String) (p : Path) : (p.full cwd).root ≠ "" := by
  show (if p.root = "" then "/" else p.root) ≠ ""
  split
  · decide
  · assumption

namespace Store

variable {s t u : Store} {names : List String} {p : Path}

/-- Names without double dots lead to where they say. -/
theorem walk_eq {place found : List String} (h : s.walk place names = .ok found)
    (hdots : ".." ∉ names) : found = place ++ names := by
  induction names generalizing place with
  | nil =>
      rw [walk] at h
      rw [Except.ok.inj h, List.append_nil]
  | cons n names ih =>
      rw [List.mem_cons, not_or] at hdots
      rw [walk] at h
      split at h
      · cases h
      · cases h
      · split at h
        · cases h
        · rw [if_neg (Ne.symm hdots.1)] at h
          rw [ih h hdots.2, List.append_assoc, List.singleton_append]

/-- So does a path in full. -/
theorem locate_full {cwd : List String} (h : s.locate (p.full cwd) = .ok names) :
    names = (p.full cwd).names := by
  rw [locate] at h
  split at h
  · cases h
  · rw [if_neg (p.root_full_ne cwd)] at h
    exact walk_eq h (p.dots_not_mem_full cwd)

/-! ## Entries -/

/-- What is under any names once an entry has been added where nothing was: directories on the way to
it are there, too. -/
theorem find?_add (h : s.find? names = none) (e : Entry) (other : List String) :
    (s.add names e).find? other = if other = names then some e
      else (s.find? other).or (if other.isPrefixOf names then some .directory else none) := by
  have hnone : s.entries.lookup names = none := by
    rw [find?] at h
    cases hlookup : s.entries.lookup names with
    | none => rfl
    | some e' =>
        rw [hlookup] at h
        cases h
  have hadd : (s.add names e).entries.lookup other =
      (s.entries.lookup other).or (if other = names then some e else none) := by
    show (s.entries ++ [(names, e)]).lookup other = _
    rw [List.lookup_append, List.lookup_cons, List.lookup_nil]
    by_cases hother : other = names
    · rw [if_pos hother, beq_iff_eq.mpr hother]
    · rw [if_neg hother, beq_eq_false_iff_ne.mpr hother]
  have hany : (s.add names e).entries.any (fun e => other.isPrefixOf e.1) =
      (s.entries.any (fun e => other.isPrefixOf e.1) || other.isPrefixOf names) := by
    show (s.entries ++ [(names, e)]).any _ = _
    rw [List.any_append, List.any_cons, List.any_nil, Bool.or_false]
  rw [find?, hadd, hany]
  by_cases hother : other = names
  · rw [if_pos hother, if_pos hother, hother, hnone]
    rfl
  · rw [if_neg hother, if_neg hother, Option.or_none, find?]
    cases s.entries.lookup other with
    | some e' => rfl
    | none =>
        dsimp only
        show (if (other.isPrefixOf s.cwd || _) = true then _ else _) = _
        rw [← Bool.or_assoc]
        cases (other.isPrefixOf s.cwd || s.entries.any fun e => other.isPrefixOf e.1) with
        | true => rfl
        | false => rfl

/-- The later store has all that the earlier one has, the given files, and no others besides; those
that are new are empty. -/
structure Gains (files : Set (List String)) (s t : Store) : Prop where
  cwd : t.cwd = s.cwd
  kept : ∀ names e, s.find? names = some e → t.find? names = some e
  there : ∀ names ∈ files, ∃ content, t.find? names = some (.file content)
  file : ∀ names content, t.find? names = some (.file content) →
    s.find? names = some (.file content) ∨
      (s.find? names = none ∧ content = [] ∧ names ∈ files)

theorem Gains.refl (s : Store) : Gains ∅ s s where
  cwd := rfl
  kept := fun _ _ h => h
  there := fun _ h => h.elim
  file := fun _ _ h => Or.inl h

theorem Gains.trans {files more : Set (List String)} (h : Gains files s t) (h' : Gains more t u) :
    Gains (files ∪ more) s u where
  cwd := h'.cwd.trans h.cwd
  kept := fun names e hs => h'.kept names e (h.kept names e hs)
  there := by
    rintro names (hfiles | hmore)
    · obtain ⟨content, ht⟩ := h.there names hfiles
      exact ⟨content, h'.kept names _ ht⟩
    · exact h'.there names hmore
  file := by
    intro names content hu
    rcases h'.file names content hu with ht | ⟨hnone, hempty, hmore⟩
    · rcases h.file names content ht with hs | ⟨hnone, hempty, hfiles⟩
      · exact Or.inl hs
      · exact Or.inr ⟨hnone, hempty, Or.inl hfiles⟩
    · -- what is not there later was not there before
      refine Or.inr ⟨?_, hempty, Or.inr hmore⟩
      cases hs : s.find? names with
      | none => rfl
      | some e => cases hnone.symm.trans (h.kept names e hs)

/-- Making directories first changes nothing in it. -/
theorem Gains.after {files : Set (List String)} (h : Gains ∅ s t) (h' : Gains files t u) :
    Gains files s u := by
  rw [← Set.empty_union files]
  exact h.trans h'

/-- The files of the later store. -/
theorem Gains.file_iff {files : Set (List String)} (h : Gains files s t) (names : List String)
    (content : List UInt8) : t.find? names = some (.file content) ↔
      s.find? names = some (.file content) ∨
        (s.find? names = none ∧ content = [] ∧ names ∈ files) := by
  refine ⟨h.file names content, ?_⟩
  rintro (hs | ⟨hnone, rfl, hfiles⟩)
  · exact h.kept names _ hs
  · obtain ⟨content, ht⟩ := h.there names hfiles
    rcases h.file names content ht with hs | ⟨-, rfl, -⟩
    · cases hnone.symm.trans hs
    · exact ht

/-- An entry that is added where nothing was is gained. -/
theorem gains_add (h : s.find? names = none) {e : Entry} {files : Set (List String)}
    (hthere : ∀ other ∈ files, other = names ∧ ∃ content, e = .file content)
    (hfile : ∀ content, e = .file content → content = [] ∧ names ∈ files) :
    Gains files s (s.add names e) where
  cwd := rfl
  kept := by
    intro other e' hother
    rw [find?_add h, hother, if_neg fun heq => ?_, Option.some_or]
    rw [heq, h] at hother
    cases hother
  there := by
    intro other hmem
    obtain ⟨rfl, content, rfl⟩ := hthere other hmem
    exact ⟨content, by rw [find?_add h, if_pos rfl]⟩
  file := by
    intro other content hfound
    rw [find?_add h] at hfound
    split at hfound
    · rename_i heq
      obtain ⟨hempty, hmem⟩ := hfile content (Option.some.inj hfound)
      rw [heq]
      exact Or.inr ⟨h, hempty, hmem⟩
    · rcases Option.or_eq_some_iff.mp hfound with hs | ⟨-, hdirectory⟩
      · exact Or.inl hs
      · split at hdirectory
        · cases hdirectory
        · cases hdirectory

/-! ## Directories -/

theorem gains_makeOne (h : s.makeOne p = .ok t) : Gains ∅ s t := by
  rw [makeOne] at h
  cases hlocate : s.locate p with
  | error c =>
      rw [hlocate] at h
      cases h
  | ok names =>
      rw [hlocate] at h
      dsimp only [bind, Except.bind] at h
      cases hnone : s.find? names with
      | some e =>
          rw [hnone] at h
          cases h
      | none =>
          rw [hnone] at h
          dsimp only at h
          split at h
          · obtain rfl := Except.ok.inj h
            exact gains_add hnone (fun _ h => h.elim) (fun _ h => by cases h)
          · cases h
          · cases h

theorem gains_ensureOne (s : Store) (p : Path) : Gains ∅ s (s.ensureOne p).1 := by
  rw [ensureOne]
  cases hmake : s.makeOne p with
  | ok t => exact gains_makeOne hmake
  | error c => exact Gains.refl s

/-- Directories are made from the outermost on, and each leaves the files as they are. -/
theorem gains_ensureReversed (s : Store) (root : String) (names : List String) :
    Gains ∅ s (s.ensureReversed root names).1 := by
  induction names generalizing s with
  | nil => exact gains_ensureOne s ⟨root, []⟩
  | cons n outer ih =>
      have hfirst := gains_ensureOne s ⟨root, (n :: outer).reverse⟩
      rw [ensureReversed]
      dsimp only
      split
      · rename_i t hone
        rw [hone] at hfirst
        have houter := ih t
        split
        · rename_i u e hrest
          rw [hrest] at houter
          exact hfirst.after houter
        · rename_i u hrest
          rw [hrest] at houter
          exact (hfirst.after houter).after (gains_ensureOne u _)
      · rename_i t c _ hone
        rw [hone] at hfirst
        exact hfirst
      · rename_i t hone
        rw [hone] at hfirst
        exact hfirst

theorem gains_ensureDirectory (s : Store) (p : Path) : Gains ∅ s (s.ensureDirectory p).1 :=
  gains_ensureReversed s p.root p.names.reverse

/-! ## Files -/

theorem gains_touch {cwd : List String} (h : s.touch (p.full cwd) = .ok t) :
    Gains {(p.full cwd).names} s t := by
  rw [touch] at h
  cases hlocate : s.locate (p.full cwd) with
  | error c =>
      rw [hlocate] at h
      cases h
  | ok names =>
      obtain rfl := locate_full hlocate
      rw [hlocate] at h
      dsimp only at h
      cases hfind : s.find? (p.full cwd).names with
      | none =>
          rw [hfind] at h
          dsimp only at h
          split at h
          · obtain rfl := Except.ok.inj h
            exact gains_add hfind (fun other h => ⟨h, [], rfl⟩)
              (fun content h => ⟨(Entry.file.inj h).symm, rfl⟩)
          · cases h
          · cases h
      | some e =>
          rw [hfind] at h
          cases e with
          | directory => cases h
          | file content =>
              obtain rfl := Except.ok.inj h
              -- the file is there already
              refine ⟨rfl, fun _ _ h => h, fun names h => ⟨content, ?_⟩, fun _ _ h => Or.inl h⟩
              rw [Set.mem_singleton_iff.mp h, hfind]

end Store

end RowGuard.Files
