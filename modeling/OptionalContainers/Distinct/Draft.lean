import OptionalContainers.Distinct.Stage

namespace OptionalContainers

structure Draft (α : Type) where
  stage : Stage α
  refused : Nat

namespace Draft

variable {α : Type}

def withCapacity (capacity : Nat) : Draft α :=
  ⟨.withCapacity capacity, 0⟩

def empty : Draft α :=
  withCapacity 0

def elements (d : Draft α) : List α :=
  d.stage.elements

def length (d : Draft α) : Nat :=
  match d.stage with
  | .scanned xs => xs.length
  | .indexed ix => ix.elements.size

def isEmpty (d : Draft α) : Bool :=
  d.length == 0

theorem length_eq (d : Draft α) : d.length = d.elements.length := by
  obtain ⟨stage, refused⟩ := d
  cases stage <;> simp [length, elements, Stage.elements]

variable [BEq α] [Hashable α]

def insert (d : Draft α) (x : α) : Bool × Draft α :=
  let (isNew, stage) := d.stage.insert x
  (isNew, ⟨stage, if isNew then d.refused else d.refused + 1⟩)

def extend (d : Draft α) (xs : List α) : Draft α :=
  xs.foldl (fun d x => (d.insert x).2) d

theorem extend_append (d : Draft α) (xs ys : List α) :
    d.extend (xs ++ ys) = (d.extend xs).extend ys := by
  simp [extend]

end Draft

end OptionalContainers
