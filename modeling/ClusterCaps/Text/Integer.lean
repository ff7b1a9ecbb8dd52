set_option autoImplicit false

namespace ClusterCaps.Text

def isDigit (c : Char) : Bool := 48 ≤ c.toNat && c.toNat ≤ 57

def digitValue (c : Char) : Nat := c.toNat - 48

def decimalFrom (value : Nat) : List Char → Option Nat
  | [] => some value
  | c :: rest => if isDigit c then decimalFrom (value * 10 + digitValue c) rest else none

def decimal? : List Char → Option Nat
  | [] => none
  | c :: rest => decimalFrom 0 (c :: rest)

def signed? : List Char → Option Int
  | '-' :: rest => (decimal? rest).map fun magnitude => -(magnitude : Int)
  | '+' :: rest => (decimal? rest).map fun magnitude => (magnitude : Int)
  | digits => (decimal? digits).map fun magnitude => (magnitude : Int)

def unsigned? : List Char → Option Nat
  | '+' :: rest => decimal? rest
  | digits => decimal? digits

def int32OfInt? (value : Int) : Option Int32 :=
  if -2147483648 ≤ value ∧ value ≤ 2147483647 then some (Int32.ofInt value) else none

def int32? (text : List Char) : Option Int32 := (signed? text).bind int32OfInt?

def uint32? (text : List Char) : Option Nat := (unsigned? text).filter (· < 4294967296)

def ofNat (value : Nat) : String := toString value

def ofInt (value : Int) : String :=
  if value < 0 then "-" ++ ofNat value.natAbs else ofNat value.natAbs

def hexDigits (width value : Nat) : List Char :=
  match width with
  | 0 => []
  | width + 1 => hexDigits width (value / 16) ++ [Nat.digitChar (value % 16)]

def paddedDecimal (width value : Nat) : List Char :=
  match width with
  | 0 => []
  | width + 1 => paddedDecimal width (value / 10) ++ [Nat.digitChar (value % 10)]

example : int32? "-2147483648".toList = some (-2147483648) := by decide +kernel
example : int32? "2147483648".toList = none := by decide +kernel
example : int32? "+007".toList = some 7 := by decide +kernel
example : int32? "-".toList = none := by decide +kernel
example : uint32? "-0".toList = none := by decide +kernel

end ClusterCaps.Text
