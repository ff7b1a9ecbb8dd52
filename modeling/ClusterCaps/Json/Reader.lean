import ClusterCaps.Data
import ClusterCaps.Text.Integer

/-!
Reading JSON text into data. Numbers beyond 64 bits become doubles: their first digits, as many as
64 bits hold, times a power of ten. A number too large for a double, a text with half a surrogate
pair and what is nested too deep are well-formed but no values.
-/
set_option autoImplicit false

namespace ClusterCaps.Json

def isSpace (c : Char) : Bool := c == ' ' || c == '\n' || c == '\t' || c == '\r'

def skipSpace (text : List Char) : List Char := text.dropWhile isSpace

inductive Piece where
  | char (c : Char)
  | unit (code : Nat)

def hexValue? (c : Char) : Option Nat :=
  if Text.isDigit c then some (c.toNat - 48)
  else if 97 ≤ c.toNat ∧ c.toNat ≤ 102 then some (c.toNat - 87)
  else if 65 ≤ c.toNat ∧ c.toNat ≤ 70 then some (c.toNat - 55)
  else none

def hexUnit? (a b c d : Char) : Option Nat :=
  match hexValue? a, hexValue? b, hexValue? c, hexValue? d with
  | some a, some b, some c, some d => some (((a * 16 + b) * 16 + c) * 16 + d)
  | _, _, _, _ => none

def shortEscape? (c : Char) : Option Char :=
  if c = '"' then some '"'
  else if c = '\\' then some '\\'
  else if c = '/' then some '/'
  else if c = 'b' then some (Char.ofNat 8)
  else if c = 'f' then some (Char.ofNat 12)
  else if c = 'n' then some '\n'
  else if c = 'r' then some '\r'
  else if c = 't' then some '\t'
  else none

def pieces? : List Char → Option (List Piece × List Char)
  | [] => none
  | '"' :: rest => some ([], rest)
  | '\\' :: 'u' :: a :: b :: c :: d :: rest =>
    match hexUnit? a b c d, pieces? rest with
    | some code, some (found, tail) => some (.unit code :: found, tail)
    | _, _ => none
  | '\\' :: c :: rest =>
    match shortEscape? c, pieces? rest with
    | some char, some (found, tail) => some (.char char :: found, tail)
    | _, _ => none
  | c :: rest =>
    if c.toNat < 32 ∨ c = '\\' then none
    else (pieces? rest).map fun (found, tail) => (.char c :: found, tail)

def isHighHalf (code : Nat) : Bool := 0xD800 ≤ code && code ≤ 0xDBFF
def isLowHalf (code : Nat) : Bool := 0xDC00 ≤ code && code ≤ 0xDFFF

def characters? : List Piece → Option (List Char)
  | [] => some []
  | .char c :: rest => (characters? rest).map (c :: ·)
  | .unit high :: .unit low :: rest =>
    if isHighHalf high then
      if isLowHalf low then
        (characters? rest).map
          (Char.ofNat (0x10000 + (high - 0xD800) * 0x400 + (low - 0xDC00)) :: ·)
      else none
    else if isLowHalf high then none
    else (characters? (.unit low :: rest)).map (Char.ofNat high :: ·)
  | .unit code :: rest =>
    if isHighHalf code || isLowHalf code then none
    else (characters? rest).map (Char.ofNat code :: ·)

def ofPieces (found : List Piece) : Data :=
  match characters? found with
  | some text => .text (String.ofList text)
  | none => .unreadable

def significandLimit : Nat := 18446744073709551615

-- Gathers digits into a significand until it is full, and counts the digits left over.
def gather (significand full : Nat) : List Char → Nat × Nat × Nat
  | [] => (significand, full, 0)
  | c :: rest =>
    if full = 0 ∧ significand * 10 + Text.digitValue c ≤ significandLimit then
      let (final, left, taken) := gather (significand * 10 + Text.digitValue c) 0 rest
      (final, left, taken + 1)
    else gather significand (full + 1) rest

def powerOfTen (exponent : Nat) : Float := Float.ofScientific 1 false exponent

-- Multiplies or divides by a power of ten, in steps that a double can hold; nothing where the
-- product is too large.
def scale? (value : Float) (exponent : Int) : Nat → Option Float
  | 0 => some value
  | rounds + 1 =>
    if exponent.natAbs ≤ 308 then
      if 0 ≤ exponent then
        let product := value * powerOfTen exponent.natAbs
        if product.isInf then none else some product
      else some (value / powerOfTen exponent.natAbs)
    else if value == 0 then some value
    else if 0 ≤ exponent then none
    else scale? (value / powerOfTen 308) (exponent + 308) rounds

def floatData (negative : Bool) (significand : Nat) (exponent : Int) : Data :=
  match scale? (UInt64.ofNat significand).toFloat exponent (exponent.natAbs / 308 + 2) with
  | some value => .float (Binary64.ofFloat (if negative then -value else value))
  | none => .unreadable

def exponentLimit : Nat := 2147483647

def withExponent (negative : Bool) (significand : Nat) (start : Int) (down : Bool) (exponent : Nat) :
    Data :=
  if exponentLimit < exponent then
    if significand ≠ 0 ∧ !down then .unreadable
    else .float (Binary64.ofFloat (if negative then -0.0 else 0.0))
  else
    let total := if down then start - exponent else start + exponent
    floatData negative significand (max (-2147483648) (min 2147483647 total))

def wholeData (negative : Bool) (digits : List Char) : Data :=
  let (significand, dropped, _) := gather 0 0 digits
  if dropped ≠ 0 then floatData negative significand dropped
  else if !negative then .int significand
  else if significand = 0 ∨ 9223372036854775808 < significand then
    .float (Binary64.ofFloat (-(UInt64.ofNat significand).toFloat))
  else .int (-(significand : Int))

def exponentPart? : List Char → Option (Bool × Nat × List Char)
  | mark :: rest =>
    if mark = 'e' ∨ mark = 'E' then
      let (down, tail) :=
        match rest with
        | '-' :: tail => (true, tail)
        | '+' :: tail => (false, tail)
        | tail => (false, tail)
      (Text.decimal? (tail.takeWhile Text.isDigit)).map fun value =>
        (down, value, tail.dropWhile Text.isDigit)
    else none
  | [] => none

def hasExponent : List Char → Bool
  | c :: _ => c == 'e' || c == 'E'
  | [] => false

def magnitude? (negative : Bool) (text : List Char) : Option (Data × List Char) :=
  let whole := text.takeWhile Text.isDigit
  let rest := text.dropWhile Text.isDigit
  if whole.isEmpty || (whole.head? == some '0' && decide (1 < whole.length)) then none
  else
    let (significand, dropped, _) := gather 0 0 whole
    match rest with
    | '.' :: behind =>
      let places := behind.takeWhile Text.isDigit
      let tail := behind.dropWhile Text.isDigit
      if places.isEmpty then none
      else
        let (significand, _, taken) := gather significand 0 places
        let exponent := (dropped : Int) - taken
        if hasExponent tail then
          (exponentPart? tail).map fun (down, value, tail) =>
            (withExponent negative significand exponent down value, tail)
        else some (floatData negative significand exponent, tail)
    | tail =>
      if hasExponent tail then
        (exponentPart? tail).map fun (down, value, tail) =>
          (withExponent negative significand dropped down value, tail)
      else some (wholeData negative whole, tail)

def number? : List Char → Option (Data × List Char)
  | '-' :: rest => magnitude? true rest
  | rest => magnitude? false rest

def nestingLimit : Nat := 127

-- A list or an object within too many others is well-formed, but no value.
def enclosed (depth : Nat) (data : Data) : Data := if depth = 0 then .unreadable else data

mutual

-- One value and what follows it. The first argument bounds the number of steps, the second one is
-- how deep lists and objects may still be nested.
def value? : Nat → Nat → List Char → Option (Data × List Char)
  | 0, _, _ => none
  | steps + 1, depth, text =>
    match skipSpace text with
    | 'n' :: 'u' :: 'l' :: 'l' :: rest => some (.null, rest)
    | 't' :: 'r' :: 'u' :: 'e' :: rest => some (.bool true, rest)
    | 'f' :: 'a' :: 'l' :: 's' :: 'e' :: rest => some (.bool false, rest)
    | '"' :: rest => (pieces? rest).map fun (found, tail) => (ofPieces found, tail)
    | '[' :: rest =>
      match skipSpace rest with
      | ']' :: tail => some (enclosed depth (.list []), tail)
      | _ => (items? steps (depth - 1) rest).map fun (found, tail) => (enclosed depth (.list found), tail)
    | '\x7b' :: rest =>
      match skipSpace rest with
      | '\x7d' :: tail => some (enclosed depth (.table []), tail)
      | _ => (members? steps (depth - 1) rest).map fun (found, tail) => (enclosed depth (.table found), tail)
    | rest => number? rest

def items? : Nat → Nat → List Char → Option (List Data × List Char)
  | 0, _, _ => none
  | steps + 1, depth, text =>
    match value? steps depth text with
    | none => none
    | some (item, rest) =>
      match skipSpace rest with
      | ']' :: tail => some ([item], tail)
      | ',' :: tail => (items? steps depth tail).map fun (found, tail) => (item :: found, tail)
      | _ => none

def members? : Nat → Nat → List Char → Option (List (Data × Data) × List Char)
  | 0, _, _ => none
  | steps + 1, depth, text =>
    match skipSpace text with
    | '"' :: rest =>
      match pieces? rest with
      | none => none
      | some (found, tail) =>
        match skipSpace tail with
        | ':' :: tail =>
          match value? steps depth tail with
          | none => none
          | some (value, rest) =>
            match skipSpace rest with
            | '\x7d' :: tail => some ([(ofPieces found, value)], tail)
            | ',' :: tail =>
              (members? steps depth tail).map fun (more, tail) => ((ofPieces found, value) :: more, tail)
            | _ => none
        | _ => none
    | _ => none

end

def read? (text : String) : Option Data :=
  let chars := text.toList
  match value? (2 * chars.length + 2) nestingLimit chars with
  | some (data, rest) => if (skipSpace rest).isEmpty then some data else none
  | none => none

end ClusterCaps.Json
