import ClusterCaps.Text.Blank
import ClusterCaps.Text.Scan
import ClusterCaps.Text.Integer

set_option autoImplicit false

namespace ClusterCaps

-- Seconds since the start of 1970. In a leap second the nanoseconds run on beyond a thousand
-- million.
structure Timestamp where
  seconds : Int
  nanos : Nat
deriving DecidableEq, Repr

namespace Timestamp

def epoch : Timestamp := ⟨0, 0⟩

structure Date where
  year : Int
  month : Nat
  day : Nat
deriving DecidableEq, Repr

def isLeapYear (year : Int) : Bool :=
  year % 4 == 0 && (year % 100 != 0 || year % 400 == 0)

def monthLength (year : Int) (month : Nat) : Nat :=
  if month = 2 then (if isLeapYear year then 29 else 28)
  else if month = 4 ∨ month = 6 ∨ month = 9 ∨ month = 11 then 30
  else 31

-- Days from the start of 1970, counted in years that begin in March.
def daysOfDate (date : Date) : Int :=
  let year := if date.month ≤ 2 then date.year - 1 else date.year
  let era := year.fdiv 400
  let yearOfEra := year - era * 400
  let monthFromMarch : Int := if 2 < date.month then (date.month : Int) - 3 else (date.month : Int) + 9
  let dayOfYear := (153 * monthFromMarch + 2) / 5 + date.day - 1
  let dayOfEra := yearOfEra * 365 + yearOfEra / 4 - yearOfEra / 100 + dayOfYear
  era * 146097 + dayOfEra - 719468

def dateOfDays (days : Int) : Date :=
  let shifted := days + 719468
  let era := shifted.fdiv 146097
  let dayOfEra := shifted - era * 146097
  let yearOfEra := (dayOfEra - dayOfEra / 1460 + dayOfEra / 36524 - dayOfEra / 146096) / 365
  let dayOfYear := dayOfEra - (365 * yearOfEra + yearOfEra / 4 - yearOfEra / 100)
  let monthFromMarch := (5 * dayOfYear + 2) / 153
  let day := dayOfYear - (153 * monthFromMarch + 2) / 5 + 1
  let month := if monthFromMarch < 10 then monthFromMarch + 3 else monthFromMarch - 9
  ⟨yearOfEra + era * 400 + (if month ≤ 2 then 1 else 0), month.toNat, day.toNat⟩

def date (time : Timestamp) : Date := dateOfDays (time.seconds.fdiv 86400)

def secondOfDay (time : Timestamp) : Nat := (time.seconds.fmod 86400).toNat

def isLeap (time : Timestamp) : Bool := 1000000000 ≤ time.nanos

def yearText (year : Int) : List Char :=
  if 0 ≤ year ∧ year ≤ 9999 then Text.paddedDecimal 4 year.toNat
  else
    let digits := Nat.toDigits 10 year.natAbs
    (if year < 0 then '-' else '+') :: (List.replicate (4 - digits.length) '0' ++ digits)

def fractionText (nanos : Nat) : List Char :=
  if nanos = 0 then []
  else if nanos % 1000000 = 0 then '.' :: Text.paddedDecimal 3 (nanos / 1000000)
  else if nanos % 1000 = 0 then '.' :: Text.paddedDecimal 6 (nanos / 1000)
  else '.' :: Text.paddedDecimal 9 nanos

def chars (time : Timestamp) : List Char :=
  let date := time.date
  let second := time.secondOfDay
  let leap := 1000000000 ≤ time.nanos
  yearText date.year ++ '-' :: Text.paddedDecimal 2 date.month ++ '-' ::
    Text.paddedDecimal 2 date.day ++ 'T' :: Text.paddedDecimal 2 (second / 3600) ++ ':' ::
    Text.paddedDecimal 2 (second / 60 % 60) ++ ':' ::
    Text.paddedDecimal 2 (second % 60 + if leap then 1 else 0) ++
    fractionText (if leap then time.nanos - 1000000000 else time.nanos) ++ ['Z']

def text (time : Timestamp) : String := String.ofList time.chars

def number? (limit : Nat) (text : List Char) : Option (Nat × List Char) :=
  let text := Text.trimStart text
  let digits := (text.take limit).takeWhile Text.isDigit
  (Text.decimal? digits).map fun value => (value, text.drop digits.length)

def bounded? (low high : Nat) (text : List Char) : Option (Nat × List Char) :=
  (number? 2 text).filter fun found => low ≤ found.1 && found.1 ≤ high

def year? (text : List Char) : Option (Int × List Char) :=
  match Text.trimStart text with
  | '-' :: rest =>
    let digits := rest.takeWhile Text.isDigit
    (Text.decimal? digits).map fun value => (-(value : Int), rest.drop digits.length)
  | '+' :: rest =>
    let digits := rest.takeWhile Text.isDigit
    (Text.decimal? digits).map fun value => ((value : Int), rest.drop digits.length)
  | rest => (number? 4 rest).map fun found => ((found.1 : Int), found.2)

def mark? (mark : Char) (text : List Char) : Option (List Char) :=
  match Text.trimStart text with
  | c :: rest => if c = mark then some rest else none
  | [] => none

-- Nanoseconds from the digits behind a point; digits after the ninth do not count.
def fraction? : List Char → Option (Nat × List Char)
  | '.' :: rest =>
    let digits := rest.takeWhile Text.isDigit
    let kept := digits.take 9
    (Text.decimal? kept).map fun value =>
      (value * Nat.pow 10 (9 - kept.length), rest.drop digits.length)
  | rest => some (0, rest)

def twoDigits? : List Char → Option (Nat × List Char)
  | a :: b :: rest =>
    if Text.isDigit a ∧ Text.isDigit b then
      some (Text.digitValue a * 10 + Text.digitValue b, rest)
    else none
  | _ => none

def offsetMagnitude? (text : List Char) : Option (Int × List Char) :=
  match twoDigits? text with
  | none => none
  | some (hours, rest) =>
    match twoDigits? (rest.dropWhile fun c => c == ':' || Text.isBlank c) with
    | none => none
    | some (minutes, rest) =>
      if minutes < 60 then some ((hours * 3600 + minutes * 60 : Int), rest) else none

def offset? (text : List Char) : Option (Int × List Char) :=
  match text with
  | 'Z' :: rest => some (0, rest)
  | 'z' :: rest => some (0, rest)
  | '+' :: rest => offsetMagnitude? rest
  | '-' :: rest => (offsetMagnitude? rest).map fun found => (-found.1, found.2)
  | a :: b :: c :: rest =>
    if [a, b, c].map Text.asciiLower = ['u', 't', 'c'] then some (0, rest)
    else if a.toNat = 0x2212 then
      (offsetMagnitude? (b :: c :: rest)).map fun found => (-found.1, found.2)
    else none
  | _ => none

def yearLimit : Int := 262142

def date? (text : List Char) : Option (Date × List Char) := do
  let (year, text) ← year? text
  let text ← mark? '-' text
  let (month, text) ← bounded? 1 12 text
  let text ← mark? '-' text
  let (day, text) ← bounded? 1 31 text
  if monthLength year month < day ∨ year < -yearLimit ∨ yearLimit < year then none
  else some (⟨year, month, day⟩, text)

def clock? (text : List Char) : Option ((Nat × Nat) × List Char) := do
  let (hour, text) ← bounded? 0 23 text
  let text ← mark? ':' text
  let (minute, text) ← bounded? 0 59 text
  let text ← mark? ':' text
  let (second, text) ← bounded? 0 60 text
  let (nanos, text) ← fraction? text
  if second = 60 then some ((hour * 3600 + minute * 60 + 59, nanos + 1000000000), text)
  else some ((hour * 3600 + minute * 60 + second, nanos), text)

def ofChars? (text : List Char) : Option Timestamp := do
  let (date, text) ← date? text
  match text with
  | c :: rest =>
    if c = 'T' ∨ c = 't' ∨ c = ' ' then
      let ((second, nanos), rest) ← clock? rest
      let (offset, rest) ← offset? (Text.trimStart rest)
      if (Text.trimStart rest).isEmpty ∧ offset.natAbs < 86400 then
        some ⟨daysOfDate date * 86400 + second - offset, nanos⟩
      else none
    else none
  | [] => none

def ofText? (text : String) : Option Timestamp := ofChars? text.toList

example : (ofText? "2024-02-29T23:59:60.5+01:30").map text = some "2024-02-29T22:29:60.500Z" := by
  decide +kernel
example : ofText? "2023-02-29T00:00:00Z" = none := by decide +kernel

end Timestamp

end ClusterCaps
