import OptionalContainers.Capability

namespace OptionalContainers

variable {σ ω : Type}

def sizeOrZero [Sized σ] (container : Option σ) : Nat :=
  match container with
  | some c => size c
  | none => 0

def isEmptyOrAbsent [Sized σ] (container : Option σ) : Bool :=
  sizeOrZero container == 0

def arrayLength {α : Type} [Items σ α] (array : Option σ) : Nat :=
  (offered array).length

def arrayCopy {α : Type} [Items σ α] (array : Option σ) : Array α :=
  (offered array).toArray

def orEmpty [EmptyCollection σ] (container : Option σ) : σ :=
  container.getD ∅

inductive Lent (σ ω : Type) where
  | borrowed (container : σ)
  | owned (container : ω)
  deriving Repr

namespace Lent

def isBorrowed : Lent σ ω → Bool
  | .borrowed _ => true
  | .owned _ => false

instance [EmptyCollection ω] : EmptyCollection (Lent σ ω) where
  emptyCollection := .owned ∅

end Lent

def lend [EmptyCollection ω] : Option σ → Lent σ ω
  | some container => .borrowed container
  | none => .owned ∅

instance emptyString : EmptyCollection String where
  emptyCollection := ""

theorem isBorrowed_lend [EmptyCollection ω] (container : Option σ) :
    (lend container : Lent σ ω).isBorrowed = container.isSome := by
  cases container <;> rfl

end OptionalContainers
