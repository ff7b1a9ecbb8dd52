import ClusterCaps.Data
import ClusterCaps.Text.Integer

/-!
Reading data for a purpose. A decoder answers nothing where the data do not have the shape that its
type asks for; it gives no reason, since reasons are never shown.
-/
set_option autoImplicit false

namespace ClusterCaps

abbrev Decoder (α : Type) := Dialect → Data → Option α

namespace Decode

def isNullWord (word : String) : Bool :=
  word == "null" || word == "Null" || word == "NULL" || word == "~"

def boolWord? (word : String) : Option Bool :=
  if word == "true" || word == "True" || word == "TRUE" then some true
  else if word == "false" || word == "False" || word == "FALSE" then some false
  else none

def radixDigit? (radix : Nat) (c : Char) : Option Nat :=
  let value :=
    if Text.isDigit c then c.toNat - 48
    else if 97 ≤ c.toNat ∧ c.toNat ≤ 122 then c.toNat - 87
    else if 65 ≤ c.toNat ∧ c.toNat ≤ 90 then c.toNat - 55
    else 36
  if value < radix then some value else none

def radixFrom (radix value : Nat) : List Char → Option Nat
  | [] => some value
  | c :: rest =>
    match radixDigit? radix c with
    | some digit => radixFrom radix (value * radix + digit) rest
    | none => none

def radixNumber? (radix : Nat) : List Char → Option Nat
  | [] => none
  | c :: rest => radixFrom radix 0 (c :: rest)

-- Digits behind one of the marks for hexadecimal, octal and binary numbers, or decimal digits
-- without a leading zero.
def magnitudeWord? : List Char → Option Nat
  | '0' :: 'x' :: digits => radixNumber? 16 digits
  | '0' :: 'o' :: digits => radixNumber? 8 digits
  | '0' :: 'b' :: digits => radixNumber? 2 digits
  | ['0'] => some 0
  | '0' :: _ => none
  | digits => Text.decimal? digits

def intWord? : List Char → Option Int
  | '-' :: rest => (magnitudeWord? rest).map fun magnitude => -(magnitude : Int)
  | '+' :: rest => (magnitudeWord? rest).map fun magnitude => (magnitude : Int)
  | rest => (magnitudeWord? rest).map fun magnitude => (magnitude : Int)

def natWord? : List Char → Option Nat
  | '+' :: rest => magnitudeWord? rest
  | rest => magnitudeWord? rest

def boolTag : String := "tag:yaml.org,2002:bool"

def intTag : String := "tag:yaml.org,2002:int"

def nullTag : String := "tag:yaml.org,2002:null"

def bool : Decoder Bool
  | _, .bool value => some value
  | _, .bare word => boolWord? word
  | _, .tagged tag (.literal word) => if tag = boolTag then boolWord? word else none
  | dialect, .tagged _ data => bool dialect data
  | _, _ => none

def text : Decoder String
  | _, .text value => some value
  | _, .bare word => some word
  | _, .literal lines => some lines
  | dialect, .tagged _ data => text dialect data
  | _, _ => none

def int : Decoder Int
  | _, .int value => some value
  | _, .bare word => intWord? word.toList
  | _, .tagged tag (.literal word) => if tag = intTag then intWord? word.toList else none
  | dialect, .tagged _ data => int dialect data
  | _, _ => none

def int32 : Decoder Int32 := fun dialect data => (int dialect data).bind Text.int32OfInt?

def natBelow (bound : Nat) : Decoder Nat
  | _, .int value => if 0 ≤ value ∧ value < bound then some value.toNat else none
  | _, .bare word => (natWord? word.toList).filter (· < bound)
  | _, .tagged tag (.literal word) =>
    if tag = intTag then (natWord? word.toList).filter (· < bound) else none
  | dialect, .tagged _ data => natBelow bound dialect data
  | _, _ => none

-- Only a scalar without quotes can say that there is no value, and one tagged as null must.
def optional {α : Type} (decode : Decoder α) : Decoder (Option α)
  | _, .null => some none
  | dialect, .bare word =>
    if word == "" || isNullWord word then some none else (decode dialect (.bare word)).map some
  | dialect, .tagged tag (.bare word) =>
    if tag = nullTag then (if isNullWord word then some none else none)
    else (decode dialect (.tagged tag (.bare word))).map some
  | dialect, data => (decode dialect data).map some

def items {α : Type} (decode : Data → Option α) : List Data → Option (List α)
  | [] => some []
  | item :: rest =>
    match decode item, items decode rest with
    | some value, some values => some (value :: values)
    | _, _ => none

def list {α : Type} (decode : Decoder α) : Decoder (List α)
  | dialect, .list values => items (decode dialect) values
  | dialect, .tagged _ data => list decode dialect data
  | _, .bare word => if word == "" then some [] else none
  | _, _ => none

def textSet : Decoder (List String) := fun dialect data =>
  (list text dialect data).map Text.sortedSet

def members {α : Type} (dialect : Dialect) (decode : Data → Option α) :
    List (Data × Data) → Option (List (String × α))
  | [] => some []
  | (key, value) :: rest =>
    match text dialect key, decode value, members dialect decode rest with
    | some name, some value, some values => some ((name, value) :: values)
    | _, _, _ => none

-- A map by name, ascending; of two values for one name the later counts.
def map {α : Type} (decode : Decoder α) : Decoder (List (String × α))
  | dialect, .table entries => (members dialect (decode dialect) entries).map NameMap.ofList
  | dialect, .tagged _ data => map decode dialect data
  | _, .bare word => if word == "" then some [] else none
  | _, _ => none

def lookup {α : Type} (name : String) : List (String × α) → Option α
  | [] => none
  | (key, value) :: rest => if key = name then some value else lookup name rest

def isUnit : Dialect → Data → Bool
  | .json, .null => true
  | .toml, .table [] => true
  | .toml, .list [] => true
  | .yaml, .bare word => word == "" || isNullWord word
  | _, _ => false

-- One of some named values: its name, or its name with nothing under it.
def choice {α : Type} (names : List (String × α)) : Decoder α
  | _, .text name => lookup name names
  | _, .bare name => lookup name names
  | _, .literal name => lookup name names
  | .yaml, .tagged tag value =>
    match tag.toList with
    | '!' :: name => if isUnit .yaml value then lookup (String.ofList name) names else none
    | _ => (text .yaml value).bind fun name => lookup name names
  | .json, .table [(.text name, value)] => if isUnit .json value then lookup name names else none
  | .toml, .table [(.text name, value)] => if isUnit .toml value then lookup name names else none
  | _, _ => none

structure Fields where
  given : List (String × Data)
  positional : Bool

namespace Fields

def collect (dialect : Dialect) (names : List String) :
    List (Data × Data) → Option (List (String × Data))
  | [] => some []
  | (key, value) :: rest =>
    match text dialect key, collect dialect names rest with
    | some name, some given =>
      if !names.contains name then some given
      else if given.any (fun entry => entry.1 == name) then none
      else some ((name, value) :: given)
    | _, _ => none

def ofEntries (dialect : Dialect) (names : List String) (entries : List (Data × Data)) :
    Option Fields :=
  (collect dialect names entries).map fun given => ⟨given, false⟩

def ofItems (dialect : Dialect) (names : List String) (values : List Data) : Option Fields :=
  match dialect with
  | .json => if values.length ≤ names.length then some ⟨names.zip values, true⟩ else none
  | .toml => some ⟨names.zip values, true⟩
  | .yaml => none

def ofData? (names : List String) : Decoder Fields
  | dialect, .table entries => ofEntries dialect names entries
  | dialect, .tagged _ data => ofData? names dialect data
  | dialect, .list values => ofItems dialect names values
  | _, .bare word => if word == "" then some ⟨[], false⟩ else none
  | _, _ => none

def value? (fields : Fields) (name : String) : Option Data := lookup name fields.given

def required {α : Type} (fields : Fields) (dialect : Dialect) (name : String)
    (decode : Decoder α) : Option α :=
  (fields.value? name).bind (decode dialect)

def withDefault {α : Type} (fields : Fields) (dialect : Dialect) (name : String)
    (decode : Decoder α) (default : α) : Option α :=
  match fields.value? name with
  | some data => decode dialect data
  | none => some default

-- A field that may be absent by name, but not by position.
def optional {α : Type} (fields : Fields) (dialect : Dialect) (name : String)
    (decode : Decoder α) : Option (Option α) :=
  match fields.value? name with
  | some data => Decode.optional decode dialect data
  | none => if fields.positional then none else some none

def optionalWithDefault {α : Type} (fields : Fields) (dialect : Dialect) (name : String)
    (decode : Decoder α) : Option (Option α) :=
  fields.withDefault dialect name (Decode.optional decode) none

end Fields

end Decode

end ClusterCaps
