namespace OptionalContainers

structure Binary64 where
  bits : UInt64
  deriving DecidableEq, Repr

namespace Binary64

def infinityBits : Nat := 0x7ff0000000000000

def signBit : Nat := 0x8000000000000000

def isNegative (x : Binary64) : Bool :=
  signBit ≤ x.bits.toNat

def magnitude (x : Binary64) : Nat :=
  x.bits.toNat % signBit

def isNaN (x : Binary64) : Bool :=
  infinityBits < x.magnitude

def isInfinite (x : Binary64) : Bool :=
  x.magnitude == infinityBits

/-- Increases with the value; both zeros have the key 0, and every NaN the one key above all. -/
def key (x : Binary64) : Int :=
  if x.isNaN then signBit
  else if x.isNegative then -(x.magnitude : Int)
  else x.magnitude

instance : BEq Binary64 where
  beq x y := !x.isNaN && !y.isNaN && x.key == y.key

instance : Ord Binary64 where
  compare x y := compare x.key y.key

def settledBits (x : Binary64) : UInt64 :=
  if x.isNaN then 0x7ff8000000000000
  else if x.magnitude = 0 then 0
  else x.bits

instance : Hashable Binary64 where
  hash := settledBits

def writtenBits (x : Binary64) : Nat :=
  if x.isNaN then 0x7ff8000000000000 else x.bits.toNat

theorem beq_def (x y : Binary64) :
    (x == y) = (!x.isNaN && !y.isNaN && x.key == y.key) := rfl

theorem beq_self_iff (x : Binary64) : (x == x) = true ↔ x.isNaN = false := by
  simp [beq_def]

theorem beq_symm (x y : Binary64) : (x == y) = (y == x) := by
  simp only [beq_def, Bool.and_comm (!x.isNaN), BEq.comm (a := x.key)]

theorem beq_trans {x y z : Binary64} (hxy : (x == y) = true) (hyz : (y == z) = true) :
    (x == z) = true := by
  simp_all [beq_def]

theorem bits_toNat (x : Binary64) :
    x.bits.toNat = (if x.isNegative then signBit else 0) + x.magnitude := by
  have hlt : x.bits.toNat < 2 * signBit := x.bits.toNat_lt
  simp only [isNegative, magnitude, decide_eq_true_eq]
  split
  · rw [Nat.mod_eq_sub_mod (by assumption), Nat.mod_eq_of_lt (by omega)]
    omega
  · rw [Nat.mod_eq_of_lt (by omega)]
    omega

theorem bits_eq_of_key_eq {x y : Binary64} (hx : x.isNaN = false) (hy : y.isNaN = false)
    (hkey : x.key = y.key) (hzero : x.magnitude ≠ 0) : x.bits = y.bits := by
  apply UInt64.toNat_inj.mp
  rw [bits_toNat x, bits_toNat y]
  simp only [key, hx, hy, Bool.false_eq_true, if_false] at hkey
  cases hnx : x.isNegative <;> cases hny : y.isNegative <;>
    simp only [hnx, hny, Bool.false_eq_true, if_true, if_false] at hkey ⊢ <;> omega

theorem magnitude_eq_of_key_eq {x y : Binary64} (hx : x.isNaN = false) (hy : y.isNaN = false)
    (hkey : x.key = y.key) : x.magnitude = y.magnitude := by
  simp only [key, hx, hy, Bool.false_eq_true, if_false] at hkey
  split at hkey <;> split at hkey <;> omega

theorem hash_eq_of_beq {x y : Binary64} (h : (x == y) = true) : hash x = hash y := by
  simp only [beq_def, Bool.and_eq_true, beq_iff_eq, Bool.not_eq_true'] at h
  obtain ⟨⟨hx, hy⟩, hkey⟩ := h
  have hmag := magnitude_eq_of_key_eq hx hy hkey
  show settledBits x = settledBits y
  simp only [settledBits, hx, hy, Bool.false_eq_true, if_false, ← hmag]
  split
  · rfl
  next hzero => exact bits_eq_of_key_eq hx hy hkey hzero

instance : LawfulHashable Binary64 where
  hash_eq _ _ := hash_eq_of_beq

end Binary64

end OptionalContainers
