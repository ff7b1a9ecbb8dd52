set_option autoImplicit false

namespace ClusterCaps.Text

def isBlank (c : Char) : Bool :=
  let code := c.toNat
  (9 ≤ code && code ≤ 13) || code == 0x20 || code == 0x85 || code == 0xA0 || code == 0x1680 ||
    (0x2000 ≤ code && code ≤ 0x200A) || code == 0x2028 || code == 0x2029 || code == 0x202F ||
    code == 0x205F || code == 0x3000

def trimStart (text : List Char) : List Char := text.dropWhile isBlank

def trimEnd (text : List Char) : List Char := (text.reverse.dropWhile isBlank).reverse

def trim (text : List Char) : List Char := trimEnd (trimStart text)

def trimmed (text : String) : String := String.ofList (trim text.toList)

def allBlank (text : String) : Bool := text.toList.all isBlank

theorem trim_nil : trim [] = [] := rfl

theorem isBlank_of_isWhitespace (c : Char) (h : c.isWhitespace) : isBlank c := by
  simp only [Char.isWhitespace, Bool.or_eq_true, decide_eq_true_eq] at h
  rcases h with ((rfl | rfl) | rfl) | rfl <;> decide

example : (List.range 0x100 ++ List.range' 0x2000 0x60).countP (fun code => isBlank (Char.ofNat code)) = 23 := by
  decide +kernel

end ClusterCaps.Text
