import RowGuard.Text.Quoted

/-!
# Identifiers of requests

An identifier is written as 32 hexadecimal digits in five groups. One digit says that it was drawn
at random, and two bits of another say by which layout it is written.
-/

namespace RowGuard.Request

/-- Sets what an identifier drawn at random says about itself in the seventh and the ninth of its
bytes. -/
def markRandom (bytes : List Nat) : List Nat :=
  bytes.zipIdx.map fun (b, i) =>
    if i = 6 then 0x40 + b % 0x10 else if i = 8 then 0x80 + b % 0x40 else b

/-- The digits of bytes from the `start`th on. -/
def digitsOf (bytes : List Nat) (start count : Nat) : List Char :=
  ((bytes.drop start).take count).flatMap (Text.hexDigits 2)

/-- The identifier that sixteen random bytes give. -/
def identifier (bytes : List Nat) : String :=
  let marked := markRandom bytes
  "-".intercalate ([(0, 4), (4, 2), (6, 2), (8, 2), (10, 6)].map fun (start, count) =>
    String.ofList (digitsOf marked start count))

end RowGuard.Request
