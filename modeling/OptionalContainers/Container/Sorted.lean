import OptionalContainers.Capability
import OptionalContainers.Target

namespace OptionalContainers

variable {α κ ν : Type}

/-- A set in ascending order; only the order decides which elements are the same. -/
structure SortedSet (α : Type) where
  elements : List α

namespace SortedSet

variable [Ord α]

def empty : SortedSet α :=
  ⟨[]⟩

def place (x : α) : List α → Bool × List α
  | [] => (true, [x])
  | y :: rest =>
      match compare x y with
      | .lt => (true, x :: y :: rest)
      | .eq => (false, y :: rest)
      | .gt => ((place x rest).1, y :: (place x rest).2)

def insert (s : SortedSet α) (x : α) : Bool × SortedSet α :=
  ((place x s.elements).1, ⟨(place x s.elements).2⟩)

def contains (s : SortedSet α) (x : α) : Bool :=
  s.elements.any (compare x · == .eq)

def erase (s : SortedSet α) (x : α) : Bool × SortedSet α :=
  (s.contains x, ⟨s.elements.eraseP (compare x · == .eq)⟩)

def ofList (xs : List α) : SortedSet α :=
  xs.foldl (fun s x => (s.insert x).2) empty

theorem mem_place {x y : α} {xs : List α} (h : y ∈ (place x xs).2) : y = x ∨ y ∈ xs := by
  induction xs with
  | nil => simpa [place] using h
  | cons z rest ih =>
      simp only [place] at h
      split at h
      · simpa using h
      · exact .inr h
      · rcases List.mem_cons.mp h with rfl | h
        · simp
        · rcases ih h with rfl | h <;> simp [*]

theorem mem_place_of_mem {x y : α} {xs : List α} (h : y ∈ xs) : y ∈ (place x xs).2 := by
  induction xs with
  | nil => simp at h
  | cons z rest ih =>
      simp only [place]
      split
      · exact List.mem_cons_of_mem _ h
      · exact h
      · rcases List.mem_cons.mp h with rfl | h
        · simp
        · exact List.mem_cons_of_mem _ (ih h)

theorem ascending_place [Std.TransOrd α] {xs : List α} (x : α)
    (h : xs.Pairwise (compare · · = .lt)) : (place x xs).2.Pairwise (compare · · = .lt) := by
  induction xs with
  | nil => simp [place]
  | cons y rest ih =>
      obtain ⟨hy, hrest⟩ := List.pairwise_cons.mp h
      simp only [place]
      split
      next hxy =>
        refine List.pairwise_cons.mpr ⟨fun z hz => ?_, h⟩
        rcases List.mem_cons.mp hz with rfl | hz
        · exact hxy
        · exact Std.TransCmp.lt_trans hxy (hy z hz)
      next => exact h
      next hxy =>
        refine List.pairwise_cons.mpr ⟨fun z hz => ?_, ih hrest⟩
        rcases mem_place hz with rfl | hz
        · exact Std.OrientedCmp.lt_of_gt hxy
        · exact hy z hz

end SortedSet

structure SortedMap (κ ν : Type) where
  entries : List (κ × ν)

namespace SortedMap

variable [Ord κ]

def empty : SortedMap κ ν :=
  ⟨[]⟩

def placeEntry (k : κ) (v : ν) : List (κ × ν) → Option ν × List (κ × ν)
  | [] => (none, [(k, v)])
  | (key, held) :: rest =>
      match compare k key with
      | .lt => (none, (k, v) :: (key, held) :: rest)
      | .eq => (some held, (key, v) :: rest)
      | .gt => ((placeEntry k v rest).1, (key, held) :: (placeEntry k v rest).2)

def insert (m : SortedMap κ ν) (k : κ) (v : ν) : Option ν × SortedMap κ ν :=
  ((placeEntry k v m.entries).1, ⟨(placeEntry k v m.entries).2⟩)

def get? (m : SortedMap κ ν) (k : κ) : Option ν :=
  (m.entries.find? (compare k ·.1 == .eq)).map (·.2)

def erase (m : SortedMap κ ν) (k : κ) : Option ν × SortedMap κ ν :=
  (m.get? k, ⟨m.entries.eraseP (compare k ·.1 == .eq)⟩)

def ofList (entries : List (κ × ν)) : SortedMap κ ν :=
  entries.foldl (fun m e => (m.insert e.1 e.2).2) empty

def keys (m : SortedMap κ ν) : List κ :=
  m.entries.map (·.1)

theorem keys_placeEntry (k : κ) (v : ν) (entries : List (κ × ν)) :
    (placeEntry k v entries).2.map (·.1) = (SortedSet.place k (entries.map (·.1))).2 := by
  induction entries with
  | nil => rfl
  | cons entry rest ih =>
      simp only [placeEntry, SortedSet.place, List.map_cons]
      split <;> simp_all

theorem get?_cons (key : κ) (held : ν) (rest : List (κ × ν)) (name : κ) :
    (⟨(key, held) :: rest⟩ : SortedMap κ ν).get? name =
      if compare name key = .eq then some held else (⟨rest⟩ : SortedMap κ ν).get? name := by
  simp only [get?, List.find?_cons]
  split <;> simp_all

theorem get?_placeEntry [Std.TransOrd κ] (k : κ) (v : ν) (entries : List (κ × ν)) (name : κ) :
    (⟨(placeEntry k v entries).2⟩ : SortedMap κ ν).get? name =
      if compare name k = .eq then some v else (⟨entries⟩ : SortedMap κ ν).get? name := by
  induction entries with
  | nil => exact get?_cons k v [] name
  | cons entry rest ih =>
      obtain ⟨key, held⟩ := entry
      simp only [placeEntry]
      split
      · rw [get?_cons]
      next hkey =>
        have hsame : compare name key = compare name k :=
          (Std.TransCmp.congr_right hkey).symm
        rw [get?_cons, get?_cons, hsame]
        split <;> rfl
      next hkey =>
        rw [get?_cons, get?_cons, ih]
        by_cases hk : compare name k = .eq
        · have hother : ¬ compare name key = .eq := by
            rw [Std.TransCmp.congr_left hk, hkey]
            simp
          rw [if_neg hother, if_pos hk, if_pos hk]
        · rw [if_neg hk, if_neg hk]

theorem get?_insert [Std.TransOrd κ] (m : SortedMap κ ν) (k : κ) (v : ν) (name : κ) :
    (m.insert k v).2.get? name = if compare name k = .eq then some v else m.get? name :=
  get?_placeEntry k v m.entries name

theorem keys_insert (m : SortedMap κ ν) (k : κ) (v : ν) :
    (m.insert k v).2.keys = (SortedSet.place k m.keys).2 :=
  keys_placeEntry k v m.entries

end SortedMap

instance : Items (SortedSet α) α where
  items := SortedSet.elements

instance [Ord α] : Members (SortedSet α) α where
  size s := s.elements.length
  hasMember := SortedSet.contains

instance [Ord α] : ElementTarget (SortedSet α) α where
  add x := always (SortedSet.insert · x)
  remove x := always (SortedSet.erase · x)
  clear := always fun _ => ((), SortedSet.empty)

instance [Ord κ] : Members (SortedMap κ ν) κ where
  size m := m.entries.length
  hasMember m k := (m.get? k).isSome

instance [Ord κ] : MappingTarget (SortedMap κ ν) κ ν where
  put k v := always fun m => m.insert k v
  removeKey k := always fun m => m.erase k
  clearEntries := always fun _ => ((), SortedMap.empty)

instance [Ord α] : EmptyCollection (SortedSet α) where
  emptyCollection := SortedSet.empty

instance [Ord κ] : EmptyCollection (SortedMap κ ν) where
  emptyCollection := SortedMap.empty

instance [BEq α] : BEq (SortedSet α) where
  beq a b := a.elements == b.elements

instance [BEq κ] [BEq ν] : BEq (SortedMap κ ν) where
  beq a b := a.entries == b.entries

end OptionalContainers
