set_option autoImplicit false

namespace ClusterCaps.Text

def dropPrefix? : List Char → List Char → Option (List Char)
  | [], rest => some rest
  | _ :: _, [] => none
  | p :: ps, c :: rest => if p = c then dropPrefix? ps rest else none

def after? (piece : List Char) : List Char → Option (List Char)
  | [] => dropPrefix? piece []
  | c :: rest =>
    match dropPrefix? piece (c :: rest) with
    | some tail => some tail
    | none => after? piece rest

def upTo? (stop : Char) : List Char → Option (List Char)
  | [] => none
  | c :: rest => if c = stop then some [] else (upTo? stop rest).map (c :: ·)

def splitOn (separator : Char) : List Char → List (List Char)
  | [] => [[]]
  | c :: rest =>
    if c = separator then [] :: splitOn separator rest
    else
      match splitOn separator rest with
      | [] => [[c]]
      | piece :: pieces => (c :: piece) :: pieces

def startsWith (beginning text : String) : Bool :=
  (dropPrefix? beginning.toList text.toList).isSome

def contains (piece text : String) : Bool := (after? piece.toList text.toList).isSome

def isAsciiUpper (c : Char) : Bool := 65 ≤ c.toNat && c.toNat ≤ 90

def asciiLower (c : Char) : Char := if isAsciiUpper c then Char.ofNat (c.toNat + 32) else c

def asciiLowered (text : String) : String := String.ofList (text.toList.map asciiLower)

def sameIgnoringAsciiCase (left right : String) : Bool :=
  left.toList.map asciiLower == right.toList.map asciiLower

def joined (separator : String) : List String → String
  | [] => ""
  | [text] => text
  | text :: rest => text ++ separator ++ joined separator rest

-- Byte order of UTF-8, which is the order of code points.
def precedes (left right : String) : Bool := decide (left.toList < right.toList)

def insertSorted (text : String) : List String → List String
  | [] => [text]
  | head :: tail =>
    if text = head then head :: tail
    else if precedes text head then text :: head :: tail
    else head :: insertSorted text tail

def sortedSet (texts : List String) : List String := texts.foldr insertSorted []

theorem splitOn_ne_nil (separator : Char) (text : List Char) : splitOn separator text ≠ [] := by
  cases text with
  | nil => simp [splitOn]
  | cons c rest =>
    unfold splitOn
    split
    · simp
    · split <;> simp

theorem dropPrefix?_append (beginning rest : List Char) :
    dropPrefix? beginning (beginning ++ rest) = some rest := by
  induction beginning with
  | nil => rfl
  | cons p ps ih => simpa [dropPrefix?] using ih

theorem eq_append_of_dropPrefix? (beginning text rest : List Char)
    (h : dropPrefix? beginning text = some rest) : text = beginning ++ rest := by
  induction beginning generalizing text with
  | nil => simpa [dropPrefix?] using h
  | cons p ps ih =>
    cases text with
    | nil => simp [dropPrefix?] at h
    | cons c cs =>
      by_cases same : p = c
      · subst same
        simp only [dropPrefix?, if_true] at h
        simp [ih cs h]
      · simp [dropPrefix?, same] at h

end ClusterCaps.Text
