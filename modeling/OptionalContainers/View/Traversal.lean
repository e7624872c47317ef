import OptionalContainers.View.Sequence

namespace OptionalContainers

structure TraversalView (α : Type) where
  sequence : SequenceView α

namespace TraversalView

variable {α : Type}

def empty : TraversalView α :=
  ⟨.empty⟩

def ofList (xs : List α) : Journaled (TraversalView α) :=
  TraversalView.mk <$> SequenceView.ofList xs

def elements (v : TraversalView α) : List α :=
  v.sequence.elements

def isEmpty (v : TraversalView α) : Bool :=
  v.sequence.isEmpty

def length (v : TraversalView α) : Nat :=
  v.sequence.length

def shares (v w : TraversalView α) : Bool :=
  v.sequence.shares w.sequence

instance [BEq α] : BEq (TraversalView α) where
  beq v w := v.sequence == w.sequence

theorem elements_ofList (xs : List α) (journal : Journal) :
    ((ofList xs).run journal).1.elements = xs :=
  SequenceView.elements_ofList xs journal

end TraversalView

variable {α : Type}

instance : Items (TraversalView α) α where
  items := TraversalView.elements

instance [BEq α] : Members (TraversalView α) α where
  size := TraversalView.length
  hasMember v := scan v.elements

instance : ElementTarget (TraversalView α) α :=
  .readOnly "ImmutableIterable"

instance : EmptyCollection (TraversalView α) where
  emptyCollection := TraversalView.empty

end OptionalContainers
