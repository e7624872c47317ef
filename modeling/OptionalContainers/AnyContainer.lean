import OptionalContainers.Absent
import OptionalContainers.Container.Limited
import OptionalContainers.Container.Sequence
import OptionalContainers.View.Mapping
import OptionalContainers.View.Shaped

namespace OptionalContainers

inductive ElementKind where
  | window
  | vector
  | array
  | deque
  | chain
  | hashedSet
  | sortedSet
  | sequenceView
  | setView
  | traversalView
  | shapedSequence
  | shapedSet
  | shapedTraversal
  deriving DecidableEq, Repr

inductive MapKind where
  | hashed
  | sorted
  | view
  deriving DecidableEq, Repr

inductive AnyContainer (α ν : Type) [BEq α] where
  | window (container : Window α)
  | vector {n : Nat} (container : Vector α n)
  | array (container : Array α)
  | deque (container : Deque α)
  | chain (container : List α)
  | hashedSet (container : HashedSet α)
  | sortedSet (container : SortedSet α)
  | hashedMap (container : HashedMap α ν)
  | sortedMap (container : SortedMap α ν)
  | sequenceView (container : SequenceView α)
  | setView (container : SetView α)
  | mappingView (container : MappingView α ν)
  | traversalView (container : TraversalView α)
  | shapedView (container : ShapedView α)
  | limited (container : LimitedSequence α)

structure MemberTest (α : Type) where
  size : Nat
  hasMember : α → Bool

def MemberTest.of {σ α : Type} [Members σ α] (container : σ) : MemberTest α :=
  ⟨OptionalContainers.size container, OptionalContainers.hasMember container⟩

structure ElementUpdate (α γ : Type) where
  σ : Type
  target : ElementTarget σ α
  state : σ
  result : σ → γ

structure MappingUpdate (κ ν γ : Type) where
  σ : Type
  target : MappingTarget σ κ ν
  state : σ
  result : σ → γ

namespace AnyContainer

variable {α ν : Type} [BEq α]

section

variable [Hashable α] [Ord α]

def ofElements (xs : List α) : ElementKind → Journaled (AnyContainer α ν)
  | .window => pure (.window (Window.whole xs))
  | .vector => pure (.vector xs.toArray.toVector)
  | .array => pure (.array xs.toArray)
  | .deque => pure (.deque (Deque.ofList xs))
  | .chain => pure (.chain xs)
  | .hashedSet => pure (.hashedSet (HashedSet.ofList xs))
  | .sortedSet => pure (.sortedSet (SortedSet.ofList xs))
  | .sequenceView => .sequenceView <$> SequenceView.ofList xs
  | .setView => .setView <$> SetView.collect xs
  | .traversalView => .traversalView <$> TraversalView.ofList xs
  | .shapedSequence => .shapedView <$> ShapedView.ofShaped (.sequence xs)
  | .shapedSet => .shapedView <$> ShapedView.ofShaped (.set (HashedSet.ofList xs))
  | .shapedTraversal => .shapedView <$> ShapedView.ofShaped (.traversal xs)

def ofEntries (entries : List (α × ν)) : MapKind → Journaled (AnyContainer α ν)
  | .hashed => pure (.hashedMap (HashedMap.ofList entries))
  | .sorted => pure (.sortedMap (SortedMap.ofList entries))
  | .view => .mappingView <$> MappingView.ofList entries

def emptyElements : ElementKind → AnyContainer α ν
  | .window => .window ∅
  | .vector => .vector #v[]
  | .array => .array ∅
  | .deque => .deque ∅
  | .chain => .chain ∅
  | .hashedSet => .hashedSet ∅
  | .sortedSet => .sortedSet ∅
  | .sequenceView => .sequenceView ∅
  | .setView => .setView ∅
  | .traversalView => .traversalView ∅
  | .shapedSequence => .shapedView (.sequence ∅)
  | .shapedSet => .shapedView (.set ∅)
  | .shapedTraversal => .shapedView (.traversal ∅)

def emptyEntries : MapKind → AnyContainer α ν
  | .hashed => .hashedMap ∅
  | .sorted => .sortedMap ∅
  | .view => .mappingView ∅

def memberTest : AnyContainer α ν → MemberTest α
  | .window c => .of c
  | .vector c => .of c
  | .array c => .of c
  | .deque c => .of c
  | .chain c => .of c
  | .hashedSet c => .of c
  | .sortedSet c => .of c
  | .hashedMap c => .of c
  | .sortedMap c => .of c
  | .sequenceView c => .of c
  | .setView c => .of c
  | .mappingView c => .of c
  | .traversalView c => .of c
  | .shapedView c => .of c
  | .limited c => .of c

instance : Members (AnyContainer α ν) α where
  size c := c.memberTest.size
  hasMember c := c.memberTest.hasMember

def isEmpty : AnyContainer α ν → Bool
  | .sequenceView c => c.isEmpty
  | .setView c => c.isEmpty
  | .mappingView c => c.isEmpty
  | .traversalView c => c.isEmpty
  | .shapedView c => c.isEmpty
  | c => size c == 0

end

def elements : AnyContainer α ν → List α
  | .window c => items c
  | .vector c => items c
  | .array c => items c
  | .deque c => items c
  | .chain c => items c
  | .hashedSet c => items c
  | .sortedSet c => items c
  | .hashedMap c => c.keys
  | .sortedMap c => c.keys
  | .sequenceView c => items c
  | .setView c => items c
  | .mappingView c => c.keys
  | .traversalView c => items c
  | .shapedView c => items c
  | .limited c => items c

instance : Items (AnyContainer α ν) α where
  items := elements

def entries? : AnyContainer α ν → Option (List (α × ν))
  | .hashedMap c => some c.entries
  | .sortedMap c => some c.entries
  | .mappingView c => some c.entries
  | _ => none

def get? [Ord α] : AnyContainer α ν → α → Option ν
  | .hashedMap c, k => c.get? k
  | .sortedMap c, k => c.get? k
  | .mappingView c, k => c.get? k
  | _, _ => none

def first? : AnyContainer α ν → Option α
  | .sequenceView c => c.first?
  | .setView c => c.first?
  | c => c.elements.head?

def place? (c : AnyContainer α ν) (place : Nat) : Option α :=
  match c with
  | .sequenceView c => c.get? place
  | c => c.elements[place]?

def shaped? : AnyContainer α ν → Option (ShapedView α)
  | .shapedView c => some c
  | _ => none

def set? : AnyContainer α ν → Option (SetView α)
  | .setView c => some c
  | _ => none

def mapping? : AnyContainer α ν → Option (MappingView α ν)
  | .mappingView c => some c
  | _ => none

/-- Windows and vectors have a fixed length and take no elements, and a map takes entries. -/
def elementUpdate? [Ord α] [Nullable α] :
    AnyContainer α ν → Option (ElementUpdate α (AnyContainer α ν))
  | .array c => some ⟨_, inferInstance, c, .array⟩
  | .deque c => some ⟨_, inferInstance, c, .deque⟩
  | .chain c => some ⟨_, inferInstance, c, .chain⟩
  | .hashedSet c => some ⟨_, inferInstance, c, .hashedSet⟩
  | .sortedSet c => some ⟨_, inferInstance, c, .sortedSet⟩
  | .sequenceView c => some ⟨_, inferInstance, c, .sequenceView⟩
  | .setView c => some ⟨_, inferInstance, c, .setView⟩
  | .traversalView c => some ⟨_, inferInstance, c, .traversalView⟩
  | .shapedView c => some ⟨_, inferInstance, c, .shapedView⟩
  | .limited c => some ⟨_, inferInstance, c, .limited⟩
  | _ => none

def mappingUpdate? [Ord α] :
    AnyContainer α ν → Option (MappingUpdate α ν (AnyContainer α ν))
  | .hashedMap c => some ⟨_, inferInstance, c, .hashedMap⟩
  | .sortedMap c => some ⟨_, inferInstance, c, .sortedMap⟩
  | .mappingView c => some ⟨_, inferInstance, c, .mappingView⟩
  | _ => none

def shares? : AnyContainer α ν → AnyContainer α ν → Option Bool
  | .sequenceView a, .sequenceView b => some (a.shares b)
  | .setView a, .setView b => some (a.shares b)
  | .mappingView a, .mappingView b => some (a.shares b)
  | .traversalView a, .traversalView b => some (a.shares b)
  | _, _ => none

def equal? [Hashable α] [BEq ν] : AnyContainer α ν → AnyContainer α ν → Option Bool
  | .sequenceView a, .sequenceView b => some (a == b)
  | .setView a, .setView b => some (a == b)
  | .mappingView a, .mappingView b => some (a == b)
  | .traversalView a, .traversalView b => some (a == b)
  | _, _ => none

end AnyContainer

end OptionalContainers
