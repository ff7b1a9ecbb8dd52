import ClusterCaps.Text.Printable
import ClusterCaps.Text.Integer

set_option autoImplicit false

namespace ClusterCaps.Text

def hexOf (value : Nat) : List Char := Nat.toDigits 16 value

def quotedChar (c : Char) : List Char :=
  if c = '"' then ['\\', '"']
  else if c = '\\' then ['\\', '\\']
  else if c = '\n' then ['\\', 'n']
  else if c = '\r' then ['\\', 'r']
  else if c = '\t' then ['\\', 't']
  else if c.toNat = 0 then ['\\', '0']
  else if needsCodePoint c then ['\\', 'u', '\x7b'] ++ hexOf c.toNat ++ ['\x7d']
  else [c]

def quoted (text : String) : String :=
  String.ofList ('"' :: text.toList.flatMap quotedChar ++ ['"'])

end ClusterCaps.Text
