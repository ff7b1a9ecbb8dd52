import ClusterCaps.Text.Integer

set_option autoImplicit false

namespace ClusterCaps.Digest

def roundConstants : Array UInt32 := #[
  0x428a2f98, 0x71374491, 0xb5c0fbcf, 0xe9b5dba5, 0x3956c25b, 0x59f111f1, 0x923f82a4, 0xab1c5ed5,
  0xd807aa98, 0x12835b01, 0x243185be, 0x550c7dc3, 0x72be5d74, 0x80deb1fe, 0x9bdc06a7, 0xc19bf174,
  0xe49b69c1, 0xefbe4786, 0x0fc19dc6, 0x240ca1cc, 0x2de92c6f, 0x4a7484aa, 0x5cb0a9dc, 0x76f988da,
  0x983e5152, 0xa831c66d, 0xb00327c8, 0xbf597fc7, 0xc6e00bf3, 0xd5a79147, 0x06ca6351, 0x14292967,
  0x27b70a85, 0x2e1b2138, 0x4d2c6dfc, 0x53380d13, 0x650a7354, 0x766a0abb, 0x81c2c92e, 0x92722c85,
  0xa2bfe8a1, 0xa81a664b, 0xc24b8b70, 0xc76c51a3, 0xd192e819, 0xd6990624, 0xf40e3585, 0x106aa070,
  0x19a4c116, 0x1e376c08, 0x2748774c, 0x34b0bcb5, 0x391c0cb3, 0x4ed8aa4a, 0x5b9cca4f, 0x682e6ff3,
  0x748f82ee, 0x78a5636f, 0x84c87814, 0x8cc70208, 0x90befffa, 0xa4506ceb, 0xbef9a3f7, 0xc67178f2]

structure Words where
  a : UInt32
  b : UInt32
  c : UInt32
  d : UInt32
  e : UInt32
  f : UInt32
  g : UInt32
  h : UInt32
deriving DecidableEq, Repr

def start : Words :=
  ⟨0x6a09e667, 0xbb67ae85, 0x3c6ef372, 0xa54ff53a, 0x510e527f, 0x9b05688c, 0x1f83d9ab, 0x5be0cd19⟩

def rotate (word : UInt32) (count : UInt32) : UInt32 := (word >>> count) ||| (word <<< (32 - count))

def wordOfBytes (a b c d : UInt8) : UInt32 :=
  (a.toUInt32 <<< 24) ||| (b.toUInt32 <<< 16) ||| (c.toUInt32 <<< 8) ||| d.toUInt32

def blockWords (block : ByteArray) (offset : Nat) : Array UInt32 :=
  (Array.range 16).map fun i =>
    let at_ := offset + 4 * i
    wordOfBytes (block.get! at_) (block.get! (at_ + 1)) (block.get! (at_ + 2)) (block.get! (at_ + 3))

def schedule (words : Array UInt32) : Array UInt32 :=
  (List.range 48).foldl (fun (ws : Array UInt32) i =>
    let w := fun k => ws.getD (i + 16 - k) 0
    let s0 := rotate (w 15) 7 ^^^ rotate (w 15) 18 ^^^ (w 15 >>> 3)
    let s1 := rotate (w 2) 17 ^^^ rotate (w 2) 19 ^^^ (w 2 >>> 10)
    ws.push (w 16 + s0 + w 7 + s1)) words

def compressRound (s : Words) (constant word : UInt32) : Words :=
  let s1 := rotate s.e 6 ^^^ rotate s.e 11 ^^^ rotate s.e 25
  let choice := (s.e &&& s.f) ^^^ ((s.e ^^^ 0xFFFFFFFF) &&& s.g)
  let first := s.h + s1 + choice + constant + word
  let s0 := rotate s.a 2 ^^^ rotate s.a 13 ^^^ rotate s.a 22
  let majority := (s.a &&& s.b) ^^^ (s.a &&& s.c) ^^^ (s.b &&& s.c)
  ⟨first + (s0 + majority), s.a, s.b, s.c, s.d + first, s.e, s.f, s.g⟩

def compress (s : Words) (words : Array UInt32) : Words :=
  let t := (List.range 64).foldl
    (fun acc i => compressRound acc (roundConstants.getD i 0) (words.getD i 0)) s
  ⟨s.a + t.a, s.b + t.b, s.c + t.c, s.d + t.d, s.e + t.e, s.f + t.f, s.g + t.g, s.h + t.h⟩

def padded (message : ByteArray) : ByteArray :=
  let size := message.size
  let fill := (119 - size % 64) % 64
  let zeros := (List.range fill).foldl (fun (acc : ByteArray) _ => acc.push 0) (message.push 0x80)
  (List.range 8).foldl
    (fun (acc : ByteArray) i => acc.push (UInt8.ofNat (8 * size / Nat.pow 2 (8 * (7 - i))))) zeros

def digestWords (message : ByteArray) : Words :=
  let whole := padded message
  (List.range (whole.size / 64)).foldl
    (fun state i => compress state (schedule (blockWords whole (64 * i)))) start

def sha256 (message : ByteArray) : String :=
  let s := digestWords message
  String.ofList <|
    [s.a, s.b, s.c, s.d, s.e, s.f, s.g, s.h].flatMap fun word => Text.hexDigits 8 word.toNat

def sha256OfText (text : String) : String := sha256 text.toUTF8

end ClusterCaps.Digest
