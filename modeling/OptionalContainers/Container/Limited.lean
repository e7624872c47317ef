import OptionalContainers.Container.Sorted

namespace OptionalContainers

variable {α κ ν : Type}

class Nullable (α : Type) where
  isNull : α → Bool

instance : Nullable (Option α) where
  isNull := Option.isNone

structure LimitedSequence (α : Type) where
  limit : Nat
  elements : List α

namespace LimitedSequence

def add [Nullable α] (x : α) : EStateM Fault (LimitedSequence α) Bool := fun s =>
  if Nullable.isNull x then .ok false s
  else if s.elements.length < s.limit then .ok true { s with elements := s.elements ++ [x] }
  else refuse "add" "Bounded" s

instance [Nullable α] : ElementTarget (LimitedSequence α) α where
  add := add
  remove _ := refuse "remove" "Bounded"
  clear := always fun s => ((), { s with elements := [] })

end LimitedSequence

structure LimitedMap (κ ν : Type) where
  puts : Nat
  held : SortedMap κ ν

namespace LimitedMap

variable [Ord κ]

def put (k : κ) (v : ν) : EStateM Fault (LimitedMap κ ν) (Option ν) := fun m =>
  match m.puts with
  | 0 => refuse "put" "BoundedMap" m
  | puts + 1 => .ok (m.held.insert k v).1 ⟨puts, (m.held.insert k v).2⟩

instance : MappingTarget (LimitedMap κ ν) κ ν where
  put := put
  removeKey _ := refuse "remove" "BoundedMap"
  clearEntries := refuse "clear" "BoundedMap"

end LimitedMap

instance [BEq α] : Members (LimitedSequence α) α where
  size s := s.elements.length
  hasMember s := scan s.elements

instance : Items (LimitedSequence α) α where
  items := LimitedSequence.elements

end OptionalContainers
