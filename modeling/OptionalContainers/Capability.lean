namespace OptionalContainers

class Items (σ : Type) (α : outParam Type) where
  items : σ → List α

class Sized (σ : Type) where
  size : σ → Nat

/-- Membership counts a map's keys as its members. -/
class Members (σ α : Type) extends Sized σ where
  hasMember : σ → α → Bool

export Items (items)
export Sized (size)
export Members (hasMember)

def offered {σ α : Type} [Items σ α] : Option σ → List α
  | none => []
  | some container => items container

class Probe (α β : Type) where
  form : α → β

instance {α : Type} : Probe α α where
  form x := x

instance : Probe String String.Slice where
  form := String.toSlice

class LawfulProbe (α β : Type) [Probe α β] [BEq α] [Hashable α] [BEq β] [Hashable β] : Prop where
  form_beq (a b : α) : ((Probe.form a : β) == Probe.form b) = (a == b)
  hash_form (a : α) : hash (Probe.form a : β) = hash a

instance {α : Type} [BEq α] [Hashable α] : LawfulProbe α α where
  form_beq _ _ := rfl
  hash_form _ := rfl

instance : LawfulProbe String String.Slice where
  form_beq a b := by
    rw [Bool.eq_iff_iff]
    simp [Probe.form, String.Slice.beq_eq_true_iff]
  hash_form a := congrArg String.hash (String.copy_toSlice)

theorem hash_eq_of_form_beq {α β : Type} [Probe α β] [BEq α] [Hashable α] [BEq β] [Hashable β]
    [LawfulProbe α β] [LawfulHashable β] {x : α} {probe : β}
    (h : (Probe.form x == probe) = true) : hash x = hash probe :=
  (LawfulProbe.hash_form x).symm.trans (LawfulHashable.hash_eq _ _ h)

/-- The stored element stands on the left of the comparison. -/
def scan {α : Type} [BEq α] (xs : List α) (x : α) : Bool :=
  xs.any (· == x)

theorem scan_eq_true_iff {α : Type} [BEq α] {xs : List α} {x : α} :
    scan xs x = true ↔ ∃ y ∈ xs, (y == x) = true := by
  simp [scan]

theorem scan_append {α : Type} [BEq α] (xs ys : List α) (x : α) :
    scan (xs ++ ys) x = (scan xs x || scan ys x) := by
  simp [scan]

end OptionalContainers
