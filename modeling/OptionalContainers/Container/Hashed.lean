import OptionalContainers.Distinct.FirstOccurrences
import OptionalContainers.Target

namespace OptionalContainers

variable {α κ ν : Type}

/-- A set without an order of its own: the order its elements are listed in carries no meaning. -/
structure HashedSet (α : Type) [BEq α] where
  elements : List α
  distinct : Distinct elements

namespace HashedSet

variable [BEq α]

def empty : HashedSet α :=
  ⟨[], .nil⟩

def insert (s : HashedSet α) (x : α) : Bool × HashedSet α :=
  match h : scan s.elements x with
  | true => (false, s)
  | false => (true, ⟨s.elements ++ [x], s.distinct.append_new h⟩)

def erase (s : HashedSet α) (x : α) : Bool × HashedSet α :=
  (scan s.elements x, ⟨s.elements.eraseP (· == x), s.distinct.sublist List.eraseP_sublist⟩)

def ofList (xs : List α) : HashedSet α :=
  xs.foldl (fun s x => (s.insert x).2) empty

theorem elements_insert (s : HashedSet α) (x : α) :
    (s.insert x).2.elements = addNew s.elements x := by
  unfold insert addNew
  split <;> simp_all

theorem elements_ofList (xs : List α) : (ofList xs).elements = firstOccurrences xs := by
  suffices h : ∀ s : HashedSet α,
      (xs.foldl (fun s x => (s.insert x).2) s).elements = xs.foldl addNew s.elements from h empty
  induction xs with
  | nil => exact fun _ => rfl
  | cons x rest ih =>
      intro s
      rw [List.foldl_cons, List.foldl_cons, ih, elements_insert]

theorem insert_fst (s : HashedSet α) (x : α) : (s.insert x).1 = !scan s.elements x := by
  unfold insert
  split <;> simp_all

def agrees (a b : HashedSet α) : Bool :=
  a.elements.length == b.elements.length && a.elements.all (scan b.elements)

instance : BEq (HashedSet α) where
  beq := agrees

end HashedSet

/-- Puts the value under the key: an equal key that is present keeps its spelling and its place. -/
def putEntry [BEq κ] (k : κ) (v : ν) : List (κ × ν) → Option ν × List (κ × ν)
  | [] => (none, [(k, v)])
  | (key, held) :: rest =>
      if key == k then (some held, (key, v) :: rest)
      else ((putEntry k v rest).1, (key, held) :: (putEntry k v rest).2)

def lookup [BEq κ] (entries : List (κ × ν)) (k : κ) : Option ν :=
  (entries.find? (·.1 == k)).map (·.2)

theorem keys_putEntry [BEq κ] (k : κ) (v : ν) (entries : List (κ × ν)) :
    (putEntry k v entries).2.map (·.1) =
      if scan (entries.map (·.1)) k then entries.map (·.1) else entries.map (·.1) ++ [k] := by
  induction entries with
  | nil => simp [putEntry, scan]
  | cons entry rest ih =>
      simp only [putEntry]
      split
      next h => simp [scan, h]
      next h =>
        simp only [Bool.not_eq_true] at h
        have hk : scan (entry.1 :: rest.map (·.1)) k = scan (rest.map (·.1)) k := by
          simp [scan, h]
        rw [List.map_cons, List.map_cons, ih, hk]
        by_cases hr : scan (rest.map (·.1)) k = true
        · rw [if_pos hr, if_pos hr]
        · rw [if_neg hr, if_neg hr, List.cons_append]

theorem putEntry_fst [BEq κ] (k : κ) (v : ν) (entries : List (κ × ν)) :
    (putEntry k v entries).1 = lookup entries k := by
  induction entries with
  | nil => rfl
  | cons entry rest ih =>
      simp only [putEntry, lookup, List.find?_cons] at ih ⊢
      split <;> simp_all

theorem putEntry_of_new [BEq κ] {k : κ} {entries : List (κ × ν)}
    (h : scan (entries.map (·.1)) k = false) (v : ν) :
    (putEntry k v entries).2 = entries ++ [(k, v)] := by
  induction entries with
  | nil => rfl
  | cons entry rest ih =>
      obtain ⟨key, held⟩ := entry
      obtain ⟨hkey, hrest⟩ : (key == k) = false ∧ scan (rest.map (·.1)) k = false := by
        simpa [scan] using h
      simp [putEntry, hkey, ih hrest]

theorem lookup_cons [BEq κ] (key : κ) (held : ν) (rest : List (κ × ν)) (k : κ) :
    lookup ((key, held) :: rest) k = if key == k then some held else lookup rest k := by
  simp only [lookup, List.find?_cons]
  split <;> simp_all

theorem lookup_putEntry [BEq κ] [PartialEquivBEq κ] (k : κ) (v : ν) (entries : List (κ × ν))
    (name : κ) :
    lookup (putEntry k v entries).2 name = if k == name then some v else lookup entries name := by
  induction entries with
  | nil => simp [putEntry, lookup_cons]
  | cons entry rest ih =>
      obtain ⟨key, held⟩ := entry
      simp only [putEntry]
      split
      next hkey =>
        have hsame : (key == name) = (k == name) := BEq.congr_left hkey
        rw [lookup_cons, lookup_cons, hsame]
        split <;> rfl
      next hkey =>
        rw [lookup_cons, lookup_cons, ih]
        by_cases hk : (k == name) = true
        · have hother : ¬ (key == name) = true := fun h =>
            hkey (PartialEquivBEq.trans h (BEq.symm hk))
          rw [if_neg hother, if_pos hk, if_pos hk]
        · rw [if_neg hk, if_neg hk]

structure HashedMap (κ ν : Type) [BEq κ] where
  entries : List (κ × ν)
  distinct : Distinct (entries.map (·.1))

namespace HashedMap

variable [BEq κ]

def empty : HashedMap κ ν :=
  ⟨[], .nil⟩

theorem distinct_putEntry (m : HashedMap κ ν) (k : κ) (v : ν) :
    Distinct ((putEntry k v m.entries).2.map (·.1)) := by
  rw [keys_putEntry]
  split
  · exact m.distinct
  · exact m.distinct.append_new (by simp_all)

def insert (m : HashedMap κ ν) (k : κ) (v : ν) : Option ν × HashedMap κ ν :=
  ((putEntry k v m.entries).1, ⟨(putEntry k v m.entries).2, m.distinct_putEntry k v⟩)

def get? (m : HashedMap κ ν) (k : κ) : Option ν :=
  lookup m.entries k

def erase (m : HashedMap κ ν) (k : κ) : Option ν × HashedMap κ ν :=
  (m.get? k,
    ⟨m.entries.eraseP (·.1 == k),
      m.distinct.sublist (List.Sublist.map Prod.fst List.eraseP_sublist)⟩)

def ofList (entries : List (κ × ν)) : HashedMap κ ν :=
  entries.foldl (fun m e => (m.insert e.1 e.2).2) empty

def keys (m : HashedMap κ ν) : List κ :=
  m.entries.map (·.1)

def agrees [BEq ν] (a b : HashedMap κ ν) : Bool :=
  a.entries.length == b.entries.length &&
    a.entries.all fun e => (b.get? e.1).any (e.2 == ·)

instance [BEq ν] : BEq (HashedMap κ ν) where
  beq := agrees

theorem entries_foldl_insert {entries : List (κ × ν)} (m : HashedMap κ ν)
    (h : Distinct ((m.entries ++ entries).map (·.1))) :
    (entries.foldl (fun m e => (m.insert e.1 e.2).2) m).entries = m.entries ++ entries := by
  induction entries generalizing m with
  | nil => simp
  | cons entry rest ih =>
      have hnew : scan (m.entries.map (·.1)) entry.1 = false := by
        rw [List.map_append] at h
        exact h.scan_eq_false
      have hstep : (m.insert entry.1 entry.2).2.entries = m.entries ++ [entry] :=
        putEntry_of_new hnew entry.2
      rw [List.foldl_cons, ih, hstep, List.append_assoc, List.singleton_append]
      rw [hstep, List.append_assoc, List.singleton_append]
      exact h

theorem entries_ofList {entries : List (κ × ν)} (h : Distinct (entries.map (·.1))) :
    (ofList entries).entries = entries :=
  entries_foldl_insert empty h

theorem insert_fst (m : HashedMap κ ν) (k : κ) (v : ν) : (m.insert k v).1 = m.get? k :=
  putEntry_fst k v m.entries

theorem get?_insert [PartialEquivBEq κ] (m : HashedMap κ ν) (k : κ) (v : ν) (name : κ) :
    (m.insert k v).2.get? name = if k == name then some v else m.get? name :=
  lookup_putEntry k v m.entries name

theorem keys_insert (m : HashedMap κ ν) (k : κ) (v : ν) :
    (m.insert k v).2.keys = if scan m.keys k then m.keys else m.keys ++ [k] :=
  keys_putEntry k v m.entries

end HashedMap

instance [BEq α] : Items (HashedSet α) α where
  items := HashedSet.elements

instance [BEq α] : Members (HashedSet α) α where
  size s := s.elements.length
  hasMember s := scan s.elements

instance [BEq α] : ElementTarget (HashedSet α) α where
  add x := always (HashedSet.insert · x)
  remove x := always (HashedSet.erase · x)
  clear := always fun _ => ((), HashedSet.empty)

instance [BEq κ] : Members (HashedMap κ ν) κ where
  size m := m.entries.length
  hasMember m k := (m.get? k).isSome

instance [BEq κ] : MappingTarget (HashedMap κ ν) κ ν where
  put k v := always fun m => m.insert k v
  removeKey k := always fun m => m.erase k
  clearEntries := always fun _ => ((), HashedMap.empty)

instance [BEq α] : EmptyCollection (HashedSet α) where
  emptyCollection := HashedSet.empty

instance [BEq κ] : EmptyCollection (HashedMap κ ν) where
  emptyCollection := HashedMap.empty

end OptionalContainers
