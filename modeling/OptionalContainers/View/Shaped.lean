import OptionalContainers.View.Set
import OptionalContainers.View.Traversal

namespace OptionalContainers

inductive Shape where
  | sequence
  | set
  | mapping
  deriving DecidableEq, Repr

def Shape.name : Shape → String
  | .sequence => "sequence"
  | .set => "set"
  | .mapping => "mapping"

def Shape.all : List Shape :=
  [.sequence, .set, .mapping]

inductive Shaped (α : Type) [BEq α] where
  | sequence (elements : List α)
  | set (elements : HashedSet α)
  | traversal (elements : List α)

inductive ShapedView (α : Type) where
  | sequence (view : SequenceView α)
  | set (view : SetView α)
  | traversal (view : TraversalView α)

variable {α β τ : Type}

def Shaped.shape [BEq α] : Shaped α → Shape
  | .sequence _ => .sequence
  | .set _ => .set
  | .traversal _ => .sequence

namespace ShapedView

def shape : ShapedView α → Shape
  | .sequence _ => .sequence
  | .set _ => .set
  | .traversal _ => .sequence

def ofShaped [BEq α] [Hashable α] : Shaped α → Journaled (ShapedView α)
  | .sequence xs => .sequence <$> SequenceView.ofList xs
  | .set s => .set <$> SetView.collect s.elements
  | .traversal xs => .traversal <$> TraversalView.ofList xs

def wrap [BEq α] [Hashable α] : Option (Shaped α) → Journaled (Option (ShapedView α))
  | none => pure none
  | some container => some <$> ofShaped container

def elements : ShapedView α → List α
  | .sequence v => v.elements
  | .set v => v.elements
  | .traversal v => v.elements

def length : ShapedView α → Nat
  | .sequence v => v.length
  | .set v => v.length
  | .traversal v => v.length

def isEmpty (v : ShapedView α) : Bool :=
  v.length == 0

def sequence? : ShapedView α → Option (SequenceView α)
  | .sequence v => some v
  | _ => none

def set? : ShapedView α → Option (SetView α)
  | .set v => some v
  | _ => none

def hasMember [BEq α] [Hashable α] : ShapedView α → α → Bool
  | .sequence v, x => OptionalContainers.hasMember v x
  | .set v, x => v.contains x
  | .traversal v, x => OptionalContainers.hasMember v x

def attempt (update : {σ : Type} → [ElementTarget σ α] → EStateM Fault σ β) :
    EStateM Fault (ShapedView α) β
  | .sequence v => retarget .sequence (update v)
  | .set v => retarget .set (update v)
  | .traversal v => retarget .traversal (update v)

def pour (xs : List α) : ShapedView α → Poured (ShapedView α) α
  | .sequence v => (ElementTarget.addAll xs v).mapTarget .sequence
  | .set v => (ElementTarget.addAll xs v).mapTarget .set
  | .traversal v => (ElementTarget.addAll xs v).mapTarget .traversal

theorem length_eq (v : ShapedView α) : v.length = v.elements.length := by
  cases v <;> rfl

end ShapedView

instance : Items (ShapedView α) α where
  items := ShapedView.elements

instance [BEq α] [Hashable α] : Members (ShapedView α) α where
  size := ShapedView.length
  hasMember := ShapedView.hasMember

instance : ElementTarget (ShapedView α) α where
  add x := ShapedView.attempt (ElementTarget.add x)
  addAll := ShapedView.pour
  remove x := ShapedView.attempt (ElementTarget.remove x)
  clear := ShapedView.attempt ElementTarget.clear

end OptionalContainers
