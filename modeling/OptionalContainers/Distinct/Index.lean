import OptionalContainers.Capability
import Std.Data.HashMap

namespace OptionalContainers

/-- Elements in the order they came, and for each hash word the places of the elements that
have it. -/
structure Index (α : Type) where
  elements : Array α
  buckets : Std.HashMap UInt64 (Array Nat)

namespace Index

variable {α β : Type}

def empty : Index α :=
  ⟨#[], ∅⟩

def bucket (ix : Index α) (word : UInt64) : Array Nat :=
  ix.buckets.getD word #[]

def place? [Probe α β] [BEq β] [Hashable β] (ix : Index α) (probe : β) : Option Nat :=
  (ix.bucket (hash probe)).find? fun place =>
    ix.elements[place]?.any (Probe.form · == probe)

def append [Hashable α] (ix : Index α) (x : α) : Index α where
  elements := ix.elements.push x
  buckets := ix.buckets.insert (hash x) ((ix.bucket (hash x)).push ix.elements.size)

def insert [BEq α] [Hashable α] (ix : Index α) (x : α) : Bool × Index α :=
  match ix.place? x with
  | some _ => (false, ix)
  | none => (true, ix.append x)

def insertAll [BEq α] [Hashable α] (ix : Index α) (xs : List α) : Index α :=
  xs.foldl (fun ix x => (ix.insert x).2) ix

theorem bucket_empty (word : UInt64) : (empty : Index α).bucket word = #[] := by
  simp [bucket, empty]

theorem bucket_append [Hashable α] (ix : Index α) (x : α) (word : UInt64) :
    (ix.append x).bucket word =
      if word = hash x then (ix.bucket word).push ix.elements.size else ix.bucket word := by
  simp only [bucket, append, Std.HashMap.getD_insert, beq_iff_eq]
  by_cases h : hash x = word
  · subst h
    simp
  · simp [h, Ne.symm h]

def WellPlaced [Hashable α] (ix : Index α) : Prop :=
  ∀ word place, place ∈ ix.bucket word ↔ ∃ x, ix.elements[place]? = some x ∧ hash x = word

theorem wellPlaced_empty [Hashable α] : (empty : Index α).WellPlaced := by
  intro word place
  rw [bucket_empty]
  simp [empty]

theorem wellPlaced_append [Hashable α] {ix : Index α} (h : ix.WellPlaced) (x : α) :
    (ix.append x).WellPlaced := by
  intro word place
  have hget : (ix.append x).elements[place]? =
      if place = ix.elements.size then some x else ix.elements[place]? :=
    Array.getElem?_push
  have hend : ∀ y, ix.elements[ix.elements.size]? ≠ some y := by simp
  rw [bucket_append, hget]
  by_cases hword : word = hash x
  · rw [if_pos hword, Array.mem_push, h word place]
    by_cases hplace : place = ix.elements.size
    · simp [hplace, hword]
    · simp [hplace]
  · rw [if_neg hword, h word place]
    by_cases hplace : place = ix.elements.size
    · simp [hplace, Ne.symm hword]
    · simp [hplace]

theorem wellPlaced_insert [BEq α] [Hashable α] {ix : Index α} (h : ix.WellPlaced) (x : α) :
    (ix.insert x).2.WellPlaced := by
  unfold insert
  split
  · exact h
  · exact wellPlaced_append h x

theorem wellPlaced_insertAll [BEq α] [Hashable α] {ix : Index α} (h : ix.WellPlaced) (xs : List α) :
    (ix.insertAll xs).WellPlaced := by
  induction xs generalizing ix with
  | nil => exact h
  | cons x rest ih => exact ih (wellPlaced_insert h x)

theorem elements_insert [BEq α] [Hashable α] (ix : Index α) (x : α) :
    (ix.insert x).2.elements =
      if (ix.place? x).isSome then ix.elements else ix.elements.push x := by
  unfold insert
  split <;> simp_all [append]

theorem insert_fst [BEq α] [Hashable α] (ix : Index α) (x : α) :
    (ix.insert x).1 = !(ix.place? x).isSome := by
  unfold insert
  split <;> simp_all

end Index

end OptionalContainers
