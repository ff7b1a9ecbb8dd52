set_option autoImplicit false

namespace ClusterCaps

structure Binary64 where
  bits : UInt64
deriving DecidableEq, Repr

namespace Binary64

def ofFloat (value : Float) : Binary64 := ⟨value.toBits⟩
def toFloat (value : Binary64) : Float := Float.ofBits value.bits

def nan : Binary64 := ⟨0x7FF8000000000000⟩
def infinity : Binary64 := ⟨0x7FF0000000000000⟩
def negativeInfinity : Binary64 := ⟨0xFFF0000000000000⟩

def isNegative (value : Binary64) : Bool := value.bits.toNat / Nat.pow 2 63 == 1
def exponentField (value : Binary64) : Nat := value.bits.toNat / Nat.pow 2 52 % 2048
def fractionField (value : Binary64) : Nat := value.bits.toNat % Nat.pow 2 52
def isFinite (value : Binary64) : Bool := value.exponentField != 2047
def isZero (value : Binary64) : Bool := value.exponentField == 0 && value.fractionField == 0

def significand (value : Binary64) : Nat :=
  if value.exponentField = 0 then value.fractionField else Nat.pow 2 52 + value.fractionField

def power (value : Binary64) : Int :=
  if value.exponentField = 0 then -1074 else (value.exponentField : Int) - 1075

-- The next number below is half a step away, as at every power of two.
def narrowBelow (value : Binary64) : Bool :=
  value.fractionField == 0 && decide (1 < value.exponentField)

end Binary64

end ClusterCaps
