import RowGuard.Proofs.Yaml.Onward
import RowGuard.Proofs.Yaml.Shift
import RowGuard.Yaml.Document

/-!
# A comment ahead of a document

A scan passes over a comment and the end of its line before it reads the first token. From there on it
is the scan of what follows, only further from the start of the text, which makes no difference.
-/

namespace RowGuard.Yaml

/-- The characters all lie on one line of a document. -/
def IsLine (line : List Char) : Prop := ∀ c ∈ line, isPrintable c = true ∧ isBreak c = false

instance (line : List Char) : Decidable (IsLine line) :=
  List.decidableBAll (fun c => isPrintable c = true ∧ isBreak c = false) line

/-- Within a line only the character and the column count on. -/
theorem Position.exists_skip_line {line : List Char} (h : ∀ c ∈ line, isBreak c = false)
    (rest : List Char) (index number column : Nat) :
    ∃ column', (⟨line ++ rest, index, number, column⟩ : Position).skip line.length =
      ⟨rest, index + line.length, number, column'⟩ := by
  induction line generalizing index column with
  | nil => exact ⟨column, rfl⟩
  | cons c line ih =>
      obtain ⟨hc, hline⟩ := List.forall_mem_cons.mp h
      obtain ⟨column', hskip⟩ := ih hline (index + 1)
        (if c = '\ufeff' then column else column + 1)
      have hnext : (⟨c :: (line ++ rest), index, number, column⟩ : Position).next =
          ⟨line ++ rest, index + 1, number, if c = '\ufeff' then column else column + 1⟩ := by
        simp only [next, hc, Bool.false_and, if_neg Bool.false_ne_true]
      refine ⟨column', ?_⟩
      rw [List.cons_append, List.length_cons, skip, hnext, hskip, Nat.add_assoc,
        Nat.add_comm 1]

/-- A comment ends where its line does. -/
theorem Position.exists_pastComment_line {line : List Char} (hmarked : line.head? = some '#')
    (hline : ∀ c ∈ line, isBreak c = false) (text : List Char) :
    ∃ column, (⟨line ++ '\n' :: text, 0, 0, 0⟩ : Position).pastComment =
      ⟨'\n' :: text, line.length, 0, column⟩ := by
  have hpeek : (⟨line ++ '\n' :: text, 0, 0, 0⟩ : Position).peek = some '#' := by
    rw [peek, ← List.head?_eq_getElem?, List.head?_append, hmarked]
    rfl
  have htake : (line ++ '\n' :: text).takeWhile (fun c => !isBreak c) = line := by
    rw [List.takeWhile_append_of_pos fun c hc => by rw [hline c hc]; rfl]
    exact List.append_nil _
  obtain ⟨column, hskip⟩ := exists_skip_line hline ('\n' :: text) 0 0 0
  rw [Nat.zero_add] at hskip
  refine ⟨column, ?_⟩
  rw [pastComment, if_pos hpeek, past, span, htake]
  exact hskip

namespace Scan

/-- A scan of a text from its start. -/
def start (text : List Char) : Scan := ⟨⟨text, 0, 0, 0⟩, #[], -1, [], true, none, []⟩

/-- Past a comment at its start a scan is the scan of the next line. -/
theorem toNext_comment {line : List Char} (hmarked : line.head? = some '#')
    (hline : ∀ c ∈ line, isBreak c = false) (text : List Char) (fuel : Nat) :
    (start (line ++ '\n' :: text)).toNext (fuel + 1) =
      ((start text).shift (line.length + 1) 1).toNext fuel := by
  obtain ⟨column, hcomment⟩ := Position.exists_pastComment_line hmarked hline text
  have hspaces : (start (line ++ '\n' :: text)).pos.past (· = ' ') =
      (start (line ++ '\n' :: text)).pos := by
    cases line with
    | nil => cases hmarked
    | cons c rest =>
        obtain rfl := Option.some.inj hmarked
        rfl
  have hbreak : (⟨'\n' :: text, line.length, 0, column⟩ : Position).break? =
      some ('\n', (start text).pos.shift (line.length + 1) 1) := by
    have hindex : (start text).pos.index + (line.length + 1) = line.length + 1 := Nat.zero_add _
    rw [Position.shift, hindex]
    rfl
  have hpast : (start (line ++ '\n' :: text)).pos.pastComment = _ := hcomment
  rw [toNext, hspaces, hpast, hbreak]
  rfl

theorem step_comment {line : List Char} (hmarked : line.head? = some '#')
    (hline : ∀ c ∈ line, isBreak c = false) (text : List Char) :
    (start (line ++ '\n' :: text)).step = ((start text).shift (line.length + 1) 1).step := by
  have hnext : (start (line ++ '\n' :: text)).toNext
      ((start (line ++ '\n' :: text)).pos.rest.length + 1) =
      ((start text).shift (line.length + 1) 1).toNext
        (((start text).shift (line.length + 1) 1).pos.rest.length + 1) := by
    rw [toNext_comment hmarked hline]
    refine toNext_of_length_lt ?_ (Nat.lt_succ_self _)
    show text.length < (line ++ '\n' :: text).length
    rw [List.length_append, List.length_cons]
    omega
  rw [step, hnext, step]

end Scan

/-- A comment ahead of a document has no tokens. -/
theorem tokens_comment {line : List Char} (hmarked : line.head? = some '#')
    (hline : ∀ c ∈ line, isBreak c = false) {text : List Char} (hmark : text.head? ≠ some '\ufeff') :
    tokens (line ++ '\n' :: text) = tokens text := by
  have hhead : (line ++ '\n' :: text).head? = some '#' := by
    rw [List.head?_append, hmarked]
    rfl
  have hrun : ∀ fuel, (Scan.start (line ++ '\n' :: text)).run fuel = (Scan.start text).run fuel := by
    intro fuel
    rw [← Scan.run_shift (line.length + 1) 1 (Scan.start text)]
    cases fuel with
    | zero => rfl
    | succ fuel =>
        rw [Scan.run, Scan.run, Scan.step_comment hmarked hline]
        rfl
  have hfuel : (Scan.start text).run ((line ++ '\n' :: text).length + 2) =
      (Scan.start text).run (text.length + 2) := by
    refine Scan.run_of_length_lt ?_ ?_
    · show text.length < _
      rw [List.length_append, List.length_cons]
      omega
    · show text.length < _
      omega
  unfold tokens
  rw [hhead, if_neg (by decide), if_neg hmark]
  exact congrArg Array.toList ((hrun _).trans hfuel)

theorem read_comment {line : List Char} (hmarked : line.head? = some '#') (hline : IsLine line)
    {text : List Char} (hmark : text.head? ≠ some '\ufeff') :
    read (line ++ '\n' :: text) = read text := by
  have hall : (line ++ '\n' :: text).all isPrintable = text.all isPrintable := by
    rw [List.all_append, List.all_eq_true.mpr fun c hc => (hline c hc).1, List.all_cons]
    rfl
  unfold read
  rw [hall, tokens_comment hmarked (fun c hc => (hline c hc).2) hmark]

end RowGuard.Yaml
