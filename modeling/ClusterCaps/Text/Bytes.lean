set_option autoImplicit false

namespace ClusterCaps.Text

def bytes (text : List Char) : List UInt8 := text.flatMap String.utf8EncodeChar

theorem bytes_of_string (text : String) : bytes text.toList = text.toUTF8.data.toList := by
  rw [String.toUTF8_eq_toByteArray]
  conv => rhs; rw [← String.ofList_toList (s := text)]
  exact List.toList_data_toByteArray.symm

-- What stands before an offset and behind it. Inside a character and beyond the end there is no cut.
def cut? : List Char → Nat → Option (List Char × List Char)
  | text, 0 => some ([], text)
  | [], _ + 1 => none
  | c :: rest, offset + 1 =>
    if c.utf8Size ≤ offset + 1 then
      (cut? rest (offset + 1 - c.utf8Size)).map fun parts => (c :: parts.1, parts.2)
    else none

def slice? (text : List Char) (start stop : Nat) : Option (List Char) := do
  let upToStop ← cut? text stop
  let fromStart ← cut? upToStop.1 start
  return fromStart.2

end ClusterCaps.Text
