import OptionalContainers.Capability
import OptionalContainers.Imprint
import OptionalContainers.Target
import OptionalContainers.View.Stored

namespace OptionalContainers

structure SequenceView (α : Type) where
  stored : Stored (List α)
  filled : stored.Filled (· ≠ [])

namespace SequenceView

variable {α : Type}

def empty : SequenceView α :=
  ⟨.empty, trivial⟩

def ofList : List α → Journaled (SequenceView α)
  | [] => pure empty
  | x :: rest => do
      let cell ← freshCell
      pure ⟨.held cell (x :: rest), List.cons_ne_nil x rest⟩

def ofArray {σ : Type} [Items σ α] (array : Option σ) : Journaled (SequenceView α) :=
  ofList (offered array)

def wrap : Option (List α) → Journaled (Option (SequenceView α))
  | none => pure none
  | some xs => some <$> ofList xs

def elements (v : SequenceView α) : List α :=
  v.stored.listed id

def isEmpty (v : SequenceView α) : Bool :=
  v.stored.isEmpty

def length (v : SequenceView α) : Nat :=
  v.elements.length

def get? (v : SequenceView α) (place : Nat) : Option α :=
  v.elements[place]?

def first? (v : SequenceView α) : Option α :=
  v.elements.head?

def shares (v w : SequenceView α) : Bool :=
  v.stored.shares w.stored

instance [BEq α] : BEq (SequenceView α) where
  beq v w := v.shares w || v.elements == w.elements

instance [Imprint α] : Imprint (SequenceView α) where
  imprint v := imprint v.elements

theorem isEmpty_eq (v : SequenceView α) : v.isEmpty = v.elements.isEmpty :=
  v.filled.isEmpty_eq

theorem elements_ofList (xs : List α) (journal : Journal) :
    ((ofList xs).run journal).1.elements = xs := by
  cases xs <;> rfl

end SequenceView

variable {α : Type}

instance : Items (SequenceView α) α where
  items := SequenceView.elements

instance [BEq α] : Members (SequenceView α) α where
  size := SequenceView.length
  hasMember v := scan v.elements

instance : ElementTarget (SequenceView α) α :=
  .readOnly "ImmutableList"

instance : EmptyCollection (SequenceView α) where
  emptyCollection := SequenceView.empty

end OptionalContainers
