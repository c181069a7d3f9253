import Mathlib.Algebra.Group.Nat.Defs
import Mathlib.Tactic.Common
import RowGuard.Text.Quoted

/-!
# Quoted text reads back

A quoted text shows which text it is. Each character can be read off the front of what was written,
whatever follows: a backslash announces a mark, another backslash, a letter for a tab or a line break,
or a letter that says how many hexadecimal digits come, and anything else stands for itself. Which
characters are visible does not matter for that. The first character of a quoted text is the mark
between which the rest was written, so two texts that are quoted alike are the same text.
-/

namespace RowGuard.Text

/-! ## Reading back -/

/-- The worth of a hexadecimal digit. -/
def hexValue (d : Char) : Nat := if d ≤ '9' then d.toNat - '0'.toNat else d.toNat - 'a'.toNat + 10

/-- The number that hexadecimal digits spell. -/
def ofHex (digits : List Char) : Nat := digits.foldl (fun n d => n * 16 + hexValue d) 0

/-- How many digits follow a letter after a backslash, if it announces any. -/
def escapeWidth : Char → Option Nat
  | 'x' => some 2
  | 'u' => some 4
  | 'U' => some 8
  | _ => none

/-- What any other character after a backslash stands for. -/
def escapedAs : Char → Char
  | 't' => '\t'
  | 'n' => '\n'
  | 'r' => '\r'
  | c => c

/-- The first character that was written, and what follows it. -/
def unescape? : List Char → Option (Char × List Char)
  | '\\' :: d :: rest =>
    match escapeWidth d with
    | some width => some (Char.ofNat (ofHex (rest.take width)), rest.drop width)
    | none => some (escapedAs d, rest)
  | c :: rest => some (c, rest)
  | [] => none

/-! ## Hexadecimal digits -/

theorem hexValue_digitChar : ∀ d < 16, hexValue (Nat.digitChar d) = d := by decide

theorem length_hexDigits (width n : Nat) : (hexDigits width n).length = width := by
  induction width generalizing n with
  | zero => rfl
  | succ width ih =>
      rw [hexDigits, List.length_append, ih]
      rfl

/-- The digits of a number spell it, but for what they have no room for. -/
theorem ofHex_hexDigits (width n : Nat) : ofHex (hexDigits width n) = n % 16 ^ width := by
  induction width generalizing n with
  | zero => exact (Nat.mod_one n).symm
  | succ width ih =>
      have hlast : ∀ digits d, ofHex (digits ++ [d]) = ofHex digits * 16 + hexValue d :=
        fun digits d => List.foldl_append
      rw [hexDigits, hlast, ih, hexValue_digitChar _ (Nat.mod_lt n (by decide)), Nat.pow_succ,
        Nat.mul_comm (16 ^ width) 16, Nat.mod_mul]
      omega

/-! ## One character -/

/-- A code point is read back from digits that have room for it. -/
theorem unescape?_hexDigits {letter : Char} {width : Nat} (hwidth : escapeWidth letter = some width)
    {c : Char} (hc : c.toNat < 16 ^ width) (rest : List Char) :
    unescape? ('\\' :: letter :: (hexDigits width c.toNat ++ rest)) = some (c, rest) := by
  have htake : (hexDigits width c.toNat ++ rest).take width = hexDigits width c.toNat :=
    List.take_left' (length_hexDigits _ _)
  have hdrop : (hexDigits width c.toNat ++ rest).drop width = rest :=
    List.drop_left' (length_hexDigits _ _)
  rw [unescape?, hwidth]
  dsimp only
  rw [htake, hdrop, ofHex_hexDigits, Nat.mod_eq_of_lt hc, Char.ofNat_toNat]

theorem unescape?_cons {c : Char} (hc : c ≠ '\\') (rest : List Char) :
    unescape? (c :: rest) = some (c, rest) := by
  cases rest with
  | nil => rw [unescape?.eq_2 c [] (fun _ _ h _ => hc h)]
  | cons d rest => rw [unescape?.eq_2 c (d :: rest) (fun _ _ h _ => hc h)]

/-- Whatever is written for a character, and whatever follows, the character is read back. -/
theorem unescape?_escapeChar {quote : Char} (hquote : quote = '\x27' ∨ quote = '\x22') (c : Char)
    (rest : List Char) : unescape? (escapeChar quote c ++ rest) = some (c, rest) := by
  have hbound : c.toNat < 16 ^ 8 := by
    have hvalid := c.valid
    simp only [UInt32.isValidChar, Nat.isValidChar] at hvalid
    simp only [Char.toNat]
    omega
  rw [escapeChar]
  -- a mark, a tab, the two line breaks, a visible character, and two, four or eight digits
  split_ifs with hmark htab hfeed hreturn hvisible htwo hfour
  · rw [Bool.or_eq_true, decide_eq_true_eq, decide_eq_true_eq] at hmark
    rcases hmark with rfl | rfl
    · rcases hquote with rfl | rfl
      · rfl
      · rfl
    · rfl
  · rw [htab]
    rfl
  · rw [hfeed]
    rfl
  · rw [hreturn]
    rfl
  · rw [Bool.or_eq_true, decide_eq_true_eq, decide_eq_true_eq, not_or] at hmark
    exact unescape?_cons hmark.2 rest
  · exact unescape?_hexDigits rfl htwo rest
  · exact unescape?_hexDigits rfl hfour rest
  · exact unescape?_hexDigits rfl hbound rest

/-! ## Whole texts -/

/-- Texts that are written alike between the same marks are the same. -/
theorem flatMap_escapeChar_injective {quote : Char} (hquote : quote = '\x27' ∨ quote = '\x22') :
    Function.Injective fun text : List Char => text.flatMap (escapeChar quote) := by
  intro text other h
  dsimp only at h
  induction text generalizing other with
  | nil =>
      cases other with
      | nil => rfl
      | cons d other =>
          have hread := congrArg unescape? h
          rw [List.flatMap_cons, unescape?_escapeChar hquote] at hread
          exact absurd hread.symm (Option.some_ne_none _)
  | cons c text ih =>
      cases other with
      | nil =>
          have hread := congrArg unescape? h
          rw [List.flatMap_cons, unescape?_escapeChar hquote] at hread
          exact absurd hread (Option.some_ne_none _)
      | cons d other =>
          have hread := congrArg unescape? h
          rw [List.flatMap_cons, List.flatMap_cons, unescape?_escapeChar hquote,
            unescape?_escapeChar hquote, Option.some.injEq, Prod.mk.injEq] at hread
          rw [hread.1, ih hread.2]

theorem quoteMark_cases (text : List Char) : quoteMark text = '\x27' ∨ quoteMark text = '\x22' := by
  rw [quoteMark]
  split
  · exact Or.inr rfl
  · exact Or.inl rfl

/-- Quoted texts are different where the texts are. -/
theorem quoted_injective : Function.Injective quoted := by
  intro text other h
  rw [quoted, quoted, List.cons_append, List.cons_append, List.cons.injEq] at h
  obtain ⟨hmark, hrest⟩ := h
  rw [hmark] at hrest
  exact flatMap_escapeChar_injective (quoteMark_cases other) (List.append_cancel_right hrest)

end RowGuard.Text
