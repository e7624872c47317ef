import OptionalContainers.Distinct.Index

namespace OptionalContainers

inductive Stage (α : Type) where
  | scanned (elements : List α)
  | indexed (index : Index α)

namespace Stage

variable {α β : Type}

def scanLimit : Nat := 8

/-- The capacity is a hint of any size: no storage is reserved for it, so that no allocation fails
for one that is too large. -/
def withCapacity (capacity : Nat) : Stage α :=
  if scanLimit < capacity then .indexed .empty else .scanned []

def elements : Stage α → List α
  | .scanned xs => xs
  | .indexed ix => ix.elements.toList

def contains [Probe α β] [BEq β] [Hashable β] (stage : Stage α) (probe : β) : Bool :=
  match stage with
  | .scanned xs => xs.any (Probe.form · == probe)
  | .indexed ix => (ix.place? probe).isSome

def promote [BEq α] [Hashable α] (xs : List α) (x : α) : Index α :=
  ((Index.empty.insertAll xs).insert x).2

def insert [BEq α] [Hashable α] : Stage α → α → Bool × Stage α
  | .scanned xs, x =>
      if scan xs x then (false, .scanned xs)
      else if xs.length < scanLimit then (true, .scanned (xs ++ [x]))
      else (true, .indexed (promote xs x))
  | .indexed ix, x => ((ix.insert x).1, .indexed (ix.insert x).2)

theorem elements_withCapacity (capacity : Nat) :
    (withCapacity capacity : Stage α).elements = [] := by
  unfold withCapacity
  split <;> rfl

end Stage

end OptionalContainers
