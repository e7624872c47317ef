import OptionalContainers.Container.Hashed
import OptionalContainers.View.Stored

namespace OptionalContainers

structure MappingView (κ ν : Type) [BEq κ] where
  stored : Stored (HashedMap κ ν)
  filled : stored.Filled (·.entries ≠ [])

namespace MappingView

variable {κ ν : Type} [BEq κ]

def empty : MappingView κ ν :=
  ⟨.empty, trivial⟩

def ofMap (m : HashedMap κ ν) : Journaled (MappingView κ ν) :=
  if filled : m.entries ≠ [] then do
    let cell ← freshCell
    pure ⟨.held cell m, filled⟩
  else
    pure empty

def ofList (entries : List (κ × ν)) : Journaled (MappingView κ ν) :=
  ofMap (HashedMap.ofList entries)

def wrap : Option (HashedMap κ ν) → Journaled (Option (MappingView κ ν))
  | none => pure none
  | some m => some <$> ofMap m

def map? (v : MappingView κ ν) : Option (HashedMap κ ν) :=
  v.stored.content?

def entries (v : MappingView κ ν) : List (κ × ν) :=
  v.stored.listed (·.entries)

def keys (v : MappingView κ ν) : List κ :=
  v.entries.map (·.1)

def values (v : MappingView κ ν) : List ν :=
  v.entries.map (·.2)

def isEmpty (v : MappingView κ ν) : Bool :=
  v.stored.isEmpty

def length (v : MappingView κ ν) : Nat :=
  v.entries.length

def get? (v : MappingView κ ν) (k : κ) : Option ν :=
  v.map?.bind (·.get? k)

def containsKey (v : MappingView κ ν) (k : κ) : Bool :=
  (v.get? k).isSome

def shares (v w : MappingView κ ν) : Bool :=
  v.stored.shares w.stored

instance [BEq ν] : BEq (MappingView κ ν) where
  beq v w :=
    v.shares w ||
      match v.map?, w.map? with
      | some a, some b => a == b
      | _, _ => false

theorem isEmpty_eq (v : MappingView κ ν) : v.isEmpty = v.entries.isEmpty :=
  v.filled.isEmpty_eq

theorem entries_ofMap (m : HashedMap κ ν) (journal : Journal) :
    ((ofMap m).run journal).1.entries = m.entries := by
  unfold ofMap
  split
  · rfl
  next h => rw [Decidable.not_not.mp h]; rfl

end MappingView

variable {κ ν : Type} [BEq κ]

instance : Members (MappingView κ ν) κ where
  size := MappingView.length
  hasMember := MappingView.containsKey

instance : MappingTarget (MappingView κ ν) κ ν :=
  .readOnly "ImmutableMap"

instance : EmptyCollection (MappingView κ ν) where
  emptyCollection := MappingView.empty

end OptionalContainers
