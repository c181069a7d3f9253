import RowGuard.Moment
import RowGuard.Number.Reading
import RowGuard.Text.Case
import RowGuard.Text.Search

/-!
# Values of settings

A settings file may hold any value that its format knows. A mapping keeps its entries in the order
of the file and has each key once. This module says when a value counts as true, which values are
equal as keys, and what a value is as a whole number.
-/

namespace RowGuard

/-- A value of a settings file. -/
inductive Value where
  | null
  | bool (b : Bool)
  | int (n : Int)
  | float (x : Double)
  | str (s : String)
  | list (items : List Value)
  | map (entries : List (Value × Value))
  | date (m : Moment)
  | bytes (content : List UInt8)
  | set (items : List Value)
  /-- An entry of a list that keeps the order of a mapping. -/
  | pair (key value : Value)
  deriving Repr, Inhabited

namespace Value

/-- Whether a value counts as true: anything but null, false, zero and what is empty. -/
def truthy : Value → Bool
  | null => false
  | bool b => b
  | int n => n ≠ 0
  | float x => !x.isZero
  | str s => s ≠ ""
  | list items => !items.isEmpty
  | map entries => !entries.isEmpty
  | date _ => true
  | bytes content => !content.isEmpty
  | set items => !items.isEmpty
  | pair _ _ => true

/-- A value that is a number: truth values count as 0 and 1. -/
def int? : Value → Option Int
  | bool b => some (if b then 1 else 0)
  | int n => some n
  | _ => none

/-- Whether two values are the same key. Numbers are, by their worth, and what is not a number is
one key with itself; so are texts of the same characters and moments at the same instant. A list or
mapping is no key at all. -/
def sameKey : Value → Value → Bool
  | null, null => true
  | str a, str b => a == b
  | date a, date b => a.same b
  | bytes a, bytes b => a == b
  | float x, float y => x == y || x.equals y
  | float x, v => (v.int?.map x.equalsInt).getD false
  | v, float x => (v.int?.map x.equalsInt).getD false
  | a, b =>
    match a.int?, b.int? with
    | some m, some n => m == n
    | _, _ => false

/-- Adds an entry to a mapping. A key that is there already keeps its place and takes the new
value. -/
def put (key value : Value) : List (Value × Value) → List (Value × Value)
  | [] => [(key, value)]
  | (k, v) :: rest => if sameKey k key then (k, value) :: rest else (k, v) :: put key value rest

/-- The value under a text in a mapping. -/
def find? (key : String) : List (Value × Value) → Option Value
  | [] => none
  | (str k, v) :: rest => if k = key then some v else find? key rest
  | _ :: rest => find? key rest

/-- The field of a mapping, or `fallback` where it has none. Only mappings have fields. -/
def field (v : Value) (key : String) (fallback : Value) : Except Fault Value :=
  match v with
  | map entries => .ok ((find? key entries).getD fallback)
  | _ => .error .noSuchField

/-- A field that should be a mapping: absent or empty, it is an empty one. -/
def section? (entries : List (Value × Value)) (key : String) : Value :=
  let v := (find? key entries).getD (map [])
  if v.truthy then v else map []

/-- A value as a whole number. Fractions are dropped, texts are read. -/
def toInt : Value → Except Fault Int
  | bool b => .ok (if b then 1 else 0)
  | int n => .ok n
  | float x =>
    match x, x.truncate? with
    | _, some n => .ok n
    | .infinite _, none => .error .overflow
    | _, none => .error .badContent
  | str s => intOfText 10 s.toList
  | bytes content =>
    if content.all (· < 128) then intOfText 10 (content.map fun b => Char.ofNat b.toNat)
    else .error .badContent
  | _ => .error .wrongKind

end Value

end RowGuard
