import ClusterCaps.Decimal.Binary64
import ClusterCaps.Text.Integer

/-!
The shortest decimal text that reads back as a given double-precision number, nearest to it among
those. Magnitudes from 1e-5 up to, not including, 1e16 are written positionally with at least one
place after the point, all others with an exponent.
-/
set_option autoImplicit false

namespace ClusterCaps.Decimal

structure Rounding where
  value : Nat
  low : Nat
  high : Nat
  denominator : Nat
  closed : Bool

namespace Rounding

-- The interval of a finite magnitude, over a denominator four times as fine as its step.
def ofBinary (number : Binary64) : Rounding :=
  let scaled := 4 * number.significand
  let below := if number.narrowBelow then 1 else 2
  let closed := number.significand % 2 == 0
  if 0 ≤ number.power then
    let unit := Nat.pow 2 number.power.toNat
    ⟨scaled * unit, (scaled - below) * unit, (scaled + 2) * unit, 4, closed⟩
  else
    ⟨scaled, scaled - below, scaled + 2, 4 * Nat.pow 2 (-number.power).toNat, closed⟩

def shift (range : Rounding) (places : Int) : Rounding :=
  if 0 ≤ places then
    let factor := Nat.pow 10 places.toNat
    { range with value := range.value * factor, low := range.low * factor, high := range.high * factor }
  else { range with denominator := range.denominator * Nat.pow 10 (-places).toNat }

def holds (range : Rounding) (whole : Nat) : Bool :=
  let point := whole * range.denominator
  if range.closed then decide (range.low ≤ point ∧ point ≤ range.high)
  else decide (range.low < point ∧ point < range.high)

def nearest? (range : Rounding) : Option Nat :=
  let floor := range.value / range.denominator
  let gap := range.value % range.denominator
  let preferFloor := 2 * gap < range.denominator || (2 * gap == range.denominator && floor % 2 == 0)
  match range.holds floor, range.holds (floor + 1) with
  | true, true => some (if preferFloor then floor else floor + 1)
  | true, false => some floor
  | false, true => some (floor + 1)
  | false, false => none

end Rounding

def magnitude (range : Rounding) : Int :=
  if range.denominator ≤ range.value then
    ((Nat.toDigits 10 (range.value / range.denominator)).length : Int)
  else
    1 - ((Nat.toDigits 10 (range.denominator / range.value)).length : Int)

def search (range : Rounding) (size : Int) (digits : Nat) : Nat → Nat × Int
  | 0 => (range.value / range.denominator, 0)
  | rounds + 1 =>
    let places := (digits : Int) - size
    match (range.shift places).nearest? with
    | some whole => if whole = 0 then search range size (digits + 1) rounds else (whole, -places)
    | none => search range size (digits + 1) rounds

def stripZeros (whole : Nat) (exponent : Int) : Nat → Nat × Int
  | 0 => (whole, exponent)
  | rounds + 1 =>
    if whole % 10 = 0 ∧ whole ≠ 0 then stripZeros (whole / 10) (exponent + 1) rounds
    else (whole, exponent)

def shortest (number : Binary64) : Nat × Int :=
  let range := Rounding.ofBinary number
  let found := search range (magnitude range) 1 20
  stripZeros found.1 found.2 400

def zeros (count : Nat) : List Char := List.replicate count '0'

-- Writes `digits * 10 ^ exponent`. Small numbers are written with an exponent once their point
-- would stand `lowest` places or more before the first digit.
def layout (lowest : Int) (digits : List Char) (exponent : Int) : List Char :=
  let point := (digits.length : Int) + exponent
  if 0 ≤ exponent ∧ point ≤ 16 then digits ++ zeros exponent.toNat ++ ['.', '0']
  else if 0 < point ∧ point ≤ 16 then
    digits.take point.toNat ++ '.' :: digits.drop point.toNat
  else if -lowest < point ∧ point ≤ 0 then '0' :: '.' :: zeros (-point).toNat ++ digits
  else
    let tail := 'e' :: (Text.ofInt (point - 1)).toList
    match digits with
    | [] => tail
    | [digit] => digit :: tail
    | digit :: rest => digit :: '.' :: rest ++ tail

def textFrom (lowest : Int) (number : Binary64) : String :=
  let sign := if number.isNegative then ['-'] else []
  if number.isZero then String.ofList (sign ++ ['0', '.', '0'])
  else
    let found := shortest number
    String.ofList (sign ++ layout lowest (Nat.toDigits 10 found.1) found.2)

def text (number : Binary64) : String := textFrom 5 number

def logText (number : Binary64) : String := textFrom 4 number

end ClusterCaps.Decimal
