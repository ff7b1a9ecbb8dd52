import ClusterCaps.Json.Reader
import ClusterCaps.Time.Timestamp

set_option autoImplicit false

namespace ClusterCaps.Toml

def isSpace (c : Char) : Bool := c == ' ' || c == '\t'

def skipSpace (text : List Char) : List Char := text.dropWhile isSpace

def isPrintable (c : Char) : Bool := c == '\t' || (32 ≤ c.toNat && c.toNat != 127)

def hexNumber? (digits : List Char) : Option Nat :=
  digits.foldl (fun value c =>
    match value, Json.hexValue? c with
    | some value, some digit => some (value * 16 + digit)
    | _, _ => none) (some 0)

def scalar? (digits : List Char) : Option Char :=
  (hexNumber? digits).bind fun code =>
    if code < 0xD800 ∨ (0xDFFF < code ∧ code < 0x110000) then some (Char.ofNat code) else none

def shortEscape? (c : Char) : Option Char :=
  if c = 'b' then some (Char.ofNat 8)
  else if c = 't' then some '\t'
  else if c = 'n' then some '\n'
  else if c = 'f' then some (Char.ofNat 12)
  else if c = 'r' then some '\r'
  else if c = '"' then some '"'
  else if c = '\\' then some '\\'
  else none

def prepend (text : List Char) : Option (List Char × List Char) → Option (List Char × List Char)
  | some (body, rest) => some (text ++ body, rest)
  | none => none

def basic? : List Char → Option (List Char × List Char)
  | [] => none
  | '"' :: rest => some ([], rest)
  | '\\' :: 'u' :: a :: b :: c :: d :: rest =>
    match scalar? [a, b, c, d] with
    | some char => prepend [char] (basic? rest)
    | none => none
  | '\\' :: 'U' :: a :: b :: c :: d :: e :: f :: g :: h :: rest =>
    match scalar? [a, b, c, d, e, f, g, h] with
    | some char => prepend [char] (basic? rest)
    | none => none
  | '\\' :: c :: rest =>
    match shortEscape? c with
    | some char => prepend [char] (basic? rest)
    | none => none
  | c :: rest => if isPrintable c ∧ c ≠ '\\' then prepend [c] (basic? rest) else none

def literal? : List Char → Option (List Char × List Char)
  | [] => none
  | '\'' :: rest => some ([], rest)
  | c :: rest => if isPrintable c then prepend [c] (literal? rest) else none

def startsLine : List Char → Bool
  | '\n' :: _ => true
  | '\r' :: '\n' :: _ => true
  | _ => false

def quotes (mark : Char) (count : Nat) : List Char := List.replicate count mark

-- A string over several lines, behind its opening quotes. Of the quotes that end it, up to two
-- belong to it. `pending` counts the quotes just read; `skipping` passes over blanks and line ends
-- behind a backslash at the end of a line.
def longBasic? (pending : Nat) (skipping : Bool) : List Char → Option (List Char × List Char)
  | [] => if 3 ≤ pending then some (quotes '"' (pending - 3), []) else none
  | '"' :: rest =>
    if pending = 4 then some (quotes '"' 2, rest) else longBasic? (pending + 1) false rest
  | '\r' :: '\n' :: rest =>
    if 3 ≤ pending then some (quotes '"' (pending - 3), '\r' :: '\n' :: rest)
    else if skipping then longBasic? 0 true rest
    else prepend (quotes '"' pending ++ ['\n']) (longBasic? 0 false rest)
  | '\\' :: 'u' :: a :: b :: c :: d :: rest =>
    if 3 ≤ pending then some (quotes '"' (pending - 3), '\\' :: 'u' :: a :: b :: c :: d :: rest)
    else
      match scalar? [a, b, c, d] with
      | some char => prepend (quotes '"' pending ++ [char]) (longBasic? 0 false rest)
      | none => none
  | '\\' :: 'U' :: a :: b :: c :: d :: e :: f :: g :: h :: rest =>
    if 3 ≤ pending then
      some (quotes '"' (pending - 3), '\\' :: 'U' :: a :: b :: c :: d :: e :: f :: g :: h :: rest)
    else
      match scalar? [a, b, c, d, e, f, g, h] with
      | some char => prepend (quotes '"' pending ++ [char]) (longBasic? 0 false rest)
      | none => none
  | '\\' :: c :: rest =>
    if 3 ≤ pending then some (quotes '"' (pending - 3), '\\' :: c :: rest)
    else if startsLine (skipSpace (c :: rest)) then
      prepend (quotes '"' pending) (longBasic? 0 true (c :: rest))
    else
      match shortEscape? c with
      | some char => prepend (quotes '"' pending ++ [char]) (longBasic? 0 false rest)
      | none => none
  | c :: rest =>
    if 3 ≤ pending then some (quotes '"' (pending - 3), c :: rest)
    else if skipping ∧ (isSpace c ∨ c = '\n') then longBasic? 0 true rest
    else if (isPrintable c ∧ c ≠ '\\') ∨ c = '\n' then
      prepend (quotes '"' pending ++ [c]) (longBasic? 0 false rest)
    else none

def longLiteral? (pending : Nat) : List Char → Option (List Char × List Char)
  | [] => if 3 ≤ pending then some (quotes '\'' (pending - 3), []) else none
  | '\'' :: rest =>
    if pending = 4 then some (quotes '\'' 2, rest) else longLiteral? (pending + 1) rest
  | '\r' :: '\n' :: rest =>
    if 3 ≤ pending then some (quotes '\'' (pending - 3), '\r' :: '\n' :: rest)
    else prepend (quotes '\'' pending ++ ['\n']) (longLiteral? 0 rest)
  | c :: rest =>
    if 3 ≤ pending then some (quotes '\'' (pending - 3), c :: rest)
    else if isPrintable c ∨ c = '\n' then
      prepend (quotes '\'' pending ++ [c]) (longLiteral? 0 rest)
    else none

def skipFirstLine : List Char → List Char
  | '\n' :: rest => rest
  | '\r' :: '\n' :: rest => rest
  | text => text

def string? : List Char → Option (List Char × List Char)
  | '"' :: '"' :: '"' :: rest => longBasic? 0 false (skipFirstLine rest)
  | '"' :: rest => basic? rest
  | '\'' :: '\'' :: '\'' :: rest => longLiteral? 0 (skipFirstLine rest)
  | '\'' :: rest => literal? rest
  | _ => none

def digitRun? (isDigit : Char → Bool) : List Char → Option (List Char)
  | [] => none
  | [c] => if isDigit c then some [c] else none
  | c :: '_' :: rest => if isDigit c then (digitRun? isDigit rest).map (c :: ·) else none
  | c :: rest => if isDigit c then (digitRun? isDigit rest).map (c :: ·) else none

def inRadix (radix : Nat) (c : Char) : Bool :=
  match Json.hexValue? c with
  | some value => value < radix
  | none => false

def radixValue (radix : Nat) (digits : List Char) : Nat :=
  digits.foldl (fun value c => value * radix + (Json.hexValue? c).getD 0) 0

def fits (value : Int) : Bool := -9223372036854775808 ≤ value && value ≤ 9223372036854775807

def wholeDigits? (text : List Char) : Option (List Char) :=
  (digitRun? Text.isDigit text).filter fun digits =>
    digits.length == 1 || digits.head? != some '0'

def decimalInt? (negative : Bool) (text : List Char) : Option Data :=
  (wholeDigits? text).bind fun digits =>
    let magnitude : Int := radixValue 10 digits
    let value := if negative then -magnitude else magnitude
    if fits value then some (.int value) else none

def radixInt? (radix : Nat) (text : List Char) : Option Data :=
  (digitRun? (inRadix radix) text).bind fun digits =>
    let value : Int := radixValue radix digits
    if fits value then some (.int value) else none

def splitAtChar (stop : Char → Bool) (text : List Char) : List Char × Option (List Char) :=
  match text.dropWhile fun c => !stop c with
  | [] => (text, none)
  | _ :: rest => (text.takeWhile fun c => !stop c, some rest)

def exponent? : List Char → Option Int
  | '-' :: rest => (digitRun? Text.isDigit rest).map fun digits => -(radixValue 10 digits : Int)
  | '+' :: rest => (digitRun? Text.isDigit rest).map fun digits => (radixValue 10 digits : Int)
  | rest => (digitRun? Text.isDigit rest).map fun digits => (radixValue 10 digits : Int)

def nearestFloat (digits : List Char) (exponent : Int) : Float :=
  let value := radixValue 10 digits
  let size := (digits.length : Int) + exponent
  if value = 0 ∨ size < -400 then 0.0
  else if 400 < size then 1.0 / 0.0
  else if 0 ≤ exponent then Float.ofScientific value false exponent.toNat
  else Float.ofScientific value true (-exponent).toNat

def floatOf (negative : Bool) (digits : List Char) (exponent : Int) : Option Data :=
  let value := nearestFloat (digits.dropWhile (· == '0')) exponent
  if negative then some (.float (Binary64.ofFloat (-value)))
  else if value.isInf then none
  else some (.float (Binary64.ofFloat value))

def decimalFloat? (negative : Bool) (text : List Char) : Option Data := do
  let (body, power) := splitAtChar (fun c => c == 'e' || c == 'E') text
  let exponent ← match power with
    | none => some 0
    | some rest => exponent? rest
  match splitAtChar (· == '.') body with
  | (whole, some places) =>
    let wholeDigits ← wholeDigits? whole
    let placeDigits ← digitRun? Text.isDigit places
    floatOf negative (wholeDigits ++ placeDigits) (exponent - placeDigits.length)
  | (whole, none) =>
    if power.isNone then none
    else
      let wholeDigits ← wholeDigits? whole
      floatOf negative wholeDigits exponent

def magnitude? (negative : Bool) (text : List Char) : Option Data :=
  if text = ['i', 'n', 'f'] then
    some (.float (if negative then Binary64.negativeInfinity else Binary64.infinity))
  else if text = ['n', 'a', 'n'] then some (.float Binary64.nan)
  else (decimalInt? negative text).or (decimalFloat? negative text)

def dateText? : List Char → Option (List Char × List Char)
  | a :: b :: c :: d :: '-' :: e :: f :: '-' :: g :: h :: rest =>
    let year := [a, b, c, d]
    if (year ++ [e, f, g, h]).all Text.isDigit then
      let month := radixValue 10 [e, f]
      let day := radixValue 10 [g, h]
      if 1 ≤ month ∧ month ≤ 12 ∧ 1 ≤ day ∧
          day ≤ Timestamp.monthLength (radixValue 10 year) month then
        some (year ++ '-' :: e :: f :: '-' :: [g, h], rest)
      else none
    else none
  | _ => none

def placesText (digits : List Char) : List Char :=
  match ((digits.take 9).reverse.dropWhile (· == '0')).reverse with
  | [] => []
  | places => '.' :: places

def timeText? : List Char → Option (List Char × List Char)
  | a :: b :: ':' :: c :: d :: ':' :: e :: f :: rest =>
    if [a, b, c, d, e, f].all Text.isDigit then
      if radixValue 10 [a, b] ≤ 23 ∧ radixValue 10 [c, d] ≤ 59 ∧ radixValue 10 [e, f] ≤ 60 then
        let clock := a :: b :: ':' :: c :: d :: ':' :: [e, f]
        match rest with
        | '.' :: behind =>
          let digits := behind.takeWhile Text.isDigit
          if digits.isEmpty then none
          else some (clock ++ placesText digits, behind.dropWhile Text.isDigit)
        | rest => some (clock, rest)
      else none
    else none
  | _ => none

def offsetText? : List Char → Option (List Char)
  | [] => some []
  | ['Z'] => some ['Z']
  | ['z'] => some ['Z']
  | [sign, a, b, ':', c, d] =>
    if (sign = '+' ∨ sign = '-') ∧ [a, b, c, d].all Text.isDigit ∧ radixValue 10 [a, b] ≤ 23 ∧
        radixValue 10 [c, d] ≤ 59 then
      some [sign, a, b, ':', c, d]
    else none
  | _ => none

def isTimeMark (c : Char) : Bool := c == 'T' || c == 't' || c == ' '

def momentText? (text : List Char) : Option (List Char) :=
  match dateText? text with
  | some (date, []) => some date
  | some (date, mark :: rest) =>
    if isTimeMark mark then
      (timeText? rest).bind fun (time, tail) =>
        (offsetText? tail).map fun offset => date ++ 'T' :: time ++ offset
    else none
  | none =>
    match timeText? text with
    | some (time, []) => some time
    | _ => none

-- A moment is a table with one entry that no other table has.
def momentData (text : List Char) : Data :=
  .table [(.text "$__toml_private_datetime", .text (String.ofList text))]

def word? : List Char → Option Data
  | ['t', 'r', 'u', 'e'] => some (.bool true)
  | ['f', 'a', 'l', 's', 'e'] => some (.bool false)
  | '0' :: 'x' :: rest => radixInt? 16 rest
  | '0' :: 'o' :: rest => radixInt? 8 rest
  | '0' :: 'b' :: rest => radixInt? 2 rest
  | '+' :: rest => magnitude? false rest
  | '-' :: rest => magnitude? true rest
  | text => ((momentText? text).map momentData).or (magnitude? false text)

def isWordChar (c : Char) : Bool :=
  Text.isDigit c || (65 ≤ c.toNat && c.toNat ≤ 90) || (97 ≤ c.toNat && c.toNat ≤ 122) ||
    c == '_' || c == '-' || c == '+' || c == '.' || c == ':'

def takeWord (text : List Char) : List Char × List Char :=
  let word := text.takeWhile isWordChar
  let rest := text.dropWhile isWordChar
  match rest with
  | ' ' :: a :: b :: ':' :: _ =>
    if (dateText? word).any (·.2.isEmpty) && Text.isDigit a && Text.isDigit b then
      (word ++ ' ' :: (rest.drop 1).takeWhile isWordChar, (rest.drop 1).dropWhile isWordChar)
    else (word, rest)
  | _ => (word, rest)

end ClusterCaps.Toml
