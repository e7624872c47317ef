import OptionalContainers.Container.Hashed
import OptionalContainers.Distinct.Draft
import OptionalContainers.Target
import OptionalContainers.View.Stored

namespace OptionalContainers

structure SetView (α : Type) where
  stored : Stored (Stage α)
  filled : stored.Filled (·.elements ≠ [])

namespace SetView

variable {α β σ ρ : Type}

def empty : SetView α :=
  ⟨.empty, trivial⟩

def elements (v : SetView α) : List α :=
  v.stored.listed (·.elements)

def isEmpty (v : SetView α) : Bool :=
  v.stored.isEmpty

def length (v : SetView α) : Nat :=
  v.elements.length

def first? (v : SetView α) : Option α :=
  v.elements.head?

def shares (v w : SetView α) : Bool :=
  v.stored.shares w.stored

def contains [Probe α β] [BEq β] [Hashable β] (v : SetView α) (probe : β) : Bool :=
  match v.stored.content? with
  | some stage => stage.contains probe
  | none => false

variable [BEq α] [Hashable α]

instance : BEq (SetView α) where
  beq v w := v.shares w || (v.length == w.length && v.elements.all (w.contains ·))

end SetView

def Draft.build {α : Type} (d : Draft α) : Journaled (SetView α) := do
  report (.setBuilt d.length d.refused)
  if filled : d.stage.elements ≠ [] then
    let cell ← freshCell
    pure ⟨.held cell d.stage, filled⟩
  else
    pure .empty

namespace SetView

variable {α β σ ρ : Type} [BEq α] [Hashable α]

def collectWith (capacity : Nat) (xs : List α) : Journaled (SetView α) :=
  ((Draft.withCapacity capacity).extend xs).build

def collect (xs : List α) : Journaled (SetView α) :=
  collectWith xs.length xs

def ofContainer [Items σ α] : Option σ → Journaled (SetView α)
  | none => pure empty
  | some container => collect (items container)

def literal : List α → Journaled (SetView α)
  | [] => pure empty
  | x :: rest => collect (x :: rest)

/-- The elements of the first container followed by those of the second that are not among
them; the draft expects as many of the first as the hint says. The sum of the two numbers does
not wrap around at the width of a machine word. -/
def concatWith [Items σ α] [Items ρ α] (expected : Nat) (container : Option σ)
    (appended : Option ρ) : Journaled (SetView α) := do
  let more := offered appended
  let draft :=
    ((Draft.withCapacity (expected + more.length)).extend (offered container)).extend more
  report (.setConcatenated more.length draft.length)
  draft.build

def concat [Items σ α] [Items ρ α] (container : Option σ) (appended : Option ρ) :
    Journaled (SetView α) :=
  concatWith (offered container).length container appended

def wrap : Option (HashedSet α) → Journaled (Option (SetView α))
  | none => pure none
  | some s => some <$> collect s.elements

def toDraft (v : SetView α) : Draft α :=
  (Draft.withCapacity v.length).extend v.elements

end SetView

namespace SetView

variable {α : Type}

theorem isEmpty_eq (v : SetView α) : v.isEmpty = v.elements.isEmpty :=
  v.filled.isEmpty_eq

theorem elements_build (d : Draft α) (journal : Journal) :
    (d.build.run journal).1.elements = d.elements := by
  simp only [Draft.build, StateT.run_bind]
  split
  · rfl
  next h => exact (Decidable.not_not.mp h).symm

end SetView

variable {α β : Type}

instance : Items (SetView α) α where
  items := SetView.elements

instance [Probe α β] [BEq β] [Hashable β] : Members (SetView α) β where
  size := SetView.length
  hasMember v := v.contains

instance : ElementTarget (SetView α) α :=
  .readOnly "ImmutableSet"

instance : EmptyCollection (SetView α) where
  emptyCollection := SetView.empty

end OptionalContainers
