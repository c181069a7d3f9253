import RowGuard.Text.CaseTable

/-!
# Small and capital letters

Names and keywords are compared in small letters, labels are written in capitals. Both use the
full Unicode mapping, so a text may change its length (`İ` becomes two characters, `ß` becomes
`SS`). The only mapping that looks at its neighbours is the capital sigma: it becomes `ς` after a
letter when no letter follows, and `σ` elsewhere.
-/

namespace RowGuard.Text

/-- The small form of a character by itself. -/
def lowerChar (c : Char) : List Char :=
  if c.toNat < 128 then
    [if 'A' ≤ c && c ≤ 'Z' then Char.ofNat (c.toNat + 32) else c]
  else if c = 'İ' then ['i', '\u0307']
  else [Char.ofNat (Shift.apply c.toNat lowerShifts)]

/-- The capital form of a character. -/
def upperChar (c : Char) : List Char :=
  if c.toNat < 128 then
    [if 'a' ≤ c && c ≤ 'z' then Char.ofNat (c.toNat - 32) else c]
  else match upperExpansions.lookup c.toNat with
    | some image => image.map Char.ofNat
    | none => [Char.ofNat (Shift.apply c.toNat upperShifts)]

/-- Letters whose presence before a sigma puts it inside or at the end of a word. -/
def isCased (c : Char) : Bool := inRanges c.toNat casedRanges

/-- Characters that the sigma rule looks through. -/
def isCaseIgnorable (c : Char) : Bool := inRanges c.toNat caseIgnorableRanges

/-- Whether the first character that counts for the sigma rule is a letter. -/
def startsCased : List Char → Bool
  | [] => false
  | c :: rest => if isCaseIgnorable c then startsCased rest else isCased c

/-- The small form of a text, where `cased` says whether a letter stands just before it. -/
def lowerAfter (cased : Bool) : List Char → List Char
  | [] => []
  | c :: rest =>
    (if c = 'Σ' then [if cased && !startsCased rest then 'ς' else 'σ'] else lowerChar c)
      ++ lowerAfter (if isCaseIgnorable c then cased else isCased c) rest

/-- The small form of a text. -/
def lower (text : List Char) : List Char := lowerAfter false text

/-- The capital form of a text. -/
def upper (text : List Char) : List Char := text.flatMap upperChar

/-- The small form of a name. -/
def lowered (name : String) : String := String.ofList (lower name.toList)

/-- The capital form of a label. -/
def uppered (label : String) : String := String.ofList (upper label.toList)

end RowGuard.Text
