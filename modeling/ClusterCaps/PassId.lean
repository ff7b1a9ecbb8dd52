import ClusterCaps.Text.Bytes
import ClusterCaps.Time.Timestamp

set_option autoImplicit false

namespace ClusterCaps

structure PassId where
  text : String
deriving DecidableEq, Repr

namespace PassId

def alphabet : List Char := "abcdefghijklmnopqrstuvwxyz234567".toList

def isSuffixChar (c : Char) : Bool :=
  (97 ≤ c.toNat && c.toNat ≤ 122) || (50 ≤ c.toNat && c.toNat ≤ 55)

-- The form of a name: marks in fixed places, eight and six digits, four characters. Places are offsets in bytes;
-- where the text cannot be cut at one of them there is no answer.
def wellFormed? (text : List Char) : Option Bool :=
  let bytes := Text.bytes text
  let marked := (Text.dropPrefix? ['s', 'c', '-'] text).isSome && bytes[11]? == some 45 && bytes[18]? == some 45
  if bytes.length ≠ 23 then some false
  else if !marked then some false
  else do
    let date ← Text.slice? text 3 11
    let clock ← Text.slice? text 12 18
    let suffix ← Text.slice? text 19 23
    return date.all Text.isDigit && clock.all Text.isDigit && suffix.all isSuffixChar

def parse? (text : String) : Option PassId :=
  if wellFormed? text.toList = some true then some ⟨text⟩ else none

def seed (bytes : List UInt8) : Nat :=
  (bytes.take 3).foldl (fun value byte => value * 256 + byte.toNat) 0 % Nat.pow 2 20

def suffix (seed : Nat) : List Char :=
  [32768, 1024, 32, 1].map fun unit => alphabet.getD (seed / unit % 32) 'a'

def generate (time : Timestamp) (bytes : List UInt8) : PassId :=
  let date := time.date
  let second := time.secondOfDay
  ⟨String.ofList <|
    's' :: 'c' :: '-' :: Timestamp.yearText date.year ++ Text.paddedDecimal 2 date.month ++
      Text.paddedDecimal 2 date.day ++ '-' :: Text.paddedDecimal 2 (second / 3600) ++
      Text.paddedDecimal 2 (second / 60 % 60) ++
      Text.paddedDecimal 2 (second % 60 + if time.isLeap then 1 else 0) ++ '-' :: suffix (seed bytes)⟩

end PassId

end ClusterCaps
