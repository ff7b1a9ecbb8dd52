import ClusterCaps.Text.Integer

set_option autoImplicit false

namespace ClusterCaps.Yaml

def isBreak (c : Char) : Bool :=
  c == '\n' || c == '\r' || c.toNat == 0x85 || c.toNat == 0x2028 || c.toNat == 0x2029

def isBlank (c : Char) : Bool := c == ' ' || c == '\t'

def isAllowed (c : Char) : Bool :=
  let code := c.toNat
  code == 9 || code == 10 || code == 13 || (32 ≤ code && code ≤ 126) || code == 0x85 ||
    (0xA0 ≤ code && code ≤ 0xD7FF) || (0xE000 ≤ code && code ≤ 0xFFFD) || 0x10000 ≤ code

def isNameChar (c : Char) : Bool :=
  Text.isDigit c || (65 ≤ c.toNat && c.toNat ≤ 90) || (97 ≤ c.toNat && c.toNat ≤ 122) ||
    c == '_' || c == '-'

structure Cursor where
  text : List Char
  line : Nat
  column : Nat
  index : Nat

namespace Cursor

def start (text : List Char) : Cursor := ⟨text, 0, 0, 0⟩

def peek? (cursor : Cursor) : Option Char := cursor.text.head?

def isAt (cursor : Cursor) (c : Char) : Bool := cursor.text.head? == some c

def ahead? (cursor : Cursor) (distance : Nat) : Option Char := cursor.text[distance]?

def blankOrEnd : Option Char → Bool
  | none => true
  | some c => isBlank c || isBreak c

def breakOrEnd : Option Char → Bool
  | none => true
  | some c => isBreak c

def atBlank (cursor : Cursor) : Bool :=
  match cursor.peek? with
  | some c => isBlank c
  | none => false

def atBreak (cursor : Cursor) : Bool :=
  match cursor.peek? with
  | some c => isBreak c
  | none => false

def skip (cursor : Cursor) (count : Nat) : Cursor :=
  { cursor with
    text := cursor.text.drop count, column := cursor.column + count, index := cursor.index + count }

-- Passes over a line end, and says how it reads: all but two of them as a line feed.
def takeBreak (cursor : Cursor) : List Char × Cursor :=
  match cursor.text with
  | '\r' :: '\n' :: rest => (['\n'], ⟨rest, cursor.line + 1, 0, cursor.index + 2⟩)
  | c :: rest =>
    if isBreak c then
      (if c.toNat = 0x2028 ∨ c.toNat = 0x2029 then [c] else ['\n'],
        ⟨rest, cursor.line + 1, 0, cursor.index + 1⟩)
    else ([], cursor)
  | [] => ([], cursor)

def skipWhile (cursor : Cursor) (kind : Char → Bool) : Cursor :=
  cursor.skip (cursor.text.takeWhile kind).length

def takeWhile (cursor : Cursor) (kind : Char → Bool) : List Char × Cursor :=
  let taken := cursor.text.takeWhile kind
  (taken, cursor.skip taken.length)

def atDocumentMark (cursor : Cursor) (mark : Char) : Bool :=
  cursor.column == 0 && cursor.text.take 3 == [mark, mark, mark] && blankOrEnd (cursor.ahead? 3)

def atAnyDocumentMark (cursor : Cursor) : Bool :=
  cursor.atDocumentMark '-' || cursor.atDocumentMark '.'

end Cursor

end ClusterCaps.Yaml
