import OptionalContainers.Property.Store

namespace OptionalContainers

namespace SortedSet

variable {α : Type} [Ord α]

theorem mem_place_iff [Std.LawfulEqOrd α] {x y : α} {xs : List α} :
    y ∈ (place x xs).2 ↔ y = x ∨ y ∈ xs := by
  refine ⟨mem_place, ?_⟩
  rintro (rfl | h)
  · induction xs with
    | nil => simp [place]
    | cons z rest ih =>
        simp only [place]
        split
        · simp
        next heq => simp [Std.LawfulEqOrd.eq_of_compare heq]
        · exact List.mem_cons_of_mem _ ih
  · exact mem_place_of_mem h

theorem nodup_of_ascending [Std.ReflOrd α] {xs : List α}
    (h : xs.Pairwise (compare · · = .lt)) : xs.Nodup := by
  refine h.imp fun {a b} hlt heq => ?_
  rw [heq, Std.ReflOrd.compare_self] at hlt
  cases hlt

end SortedSet

theorem lookup_isSome {κ ν : Type} [BEq κ] [LawfulBEq κ] {entries : List (κ × ν)} {k : κ} :
    (lookup entries k).isSome = true ↔ k ∈ entries.map (·.1) := by
  simp [lookup]

namespace Property.Store

theorem mem_insertNames {names : SortedSet String} {new : List String} {name : String} :
    name ∈ (insertNames names new).elements ↔ name ∈ new ∨ name ∈ names.elements := by
  induction new generalizing names with
  | nil => simp [insertNames]
  | cons x rest ih =>
      have hstep := @ih (names.insert x).2
      simp only [SortedSet.insert, SortedSet.mem_place_iff] at hstep
      simp only [insertNames, List.foldl_cons, List.mem_cons, or_assoc] at hstep ⊢
      exact hstep.trans or_left_comm

theorem ascending_insertNames {names : SortedSet String}
    (h : names.elements.Pairwise (compare · · = .lt)) (new : List String) :
    (insertNames names new).elements.Pairwise (compare · · = .lt) := by
  induction new generalizing names with
  | nil => exact h
  | cons x rest ih => exact ih (SortedSet.ascending_place x h)

theorem mem_collectNames {tables : List Table} {name : String} :
    name ∈ (collectNames tables).elements ↔ name ∈ tables.flatMap HashedMap.keys := by
  induction tables with
  | nil => simp [collectNames, SortedSet.empty]
  | cons table inner ih =>
      rw [collectNames, mem_insertNames, ih, List.flatMap_cons, List.mem_append]

theorem ascending_collectNames (tables : List Table) :
    (collectNames tables).elements.Pairwise (compare · · = .lt) := by
  induction tables with
  | nil => exact .nil
  | cons table inner ih => exact ascending_insertNames ih table.keys

def mentioned (s : Store) : List String :=
  firstOccurrences (s.layers.flatMap HashedMap.keys)

theorem mem_mentioned_iff {s : Store} {name : String} :
    name ∈ s.mentioned ↔ ∃ table ∈ s.layers, (table.get? name).isSome = true := by
  simp only [mentioned, mem_firstOccurrences, List.mem_flatMap, HashedMap.get?, lookup_isSome,
    HashedMap.keys]

theorem mem_names_iff {s : Store} {name : String} : name ∈ s.names ↔ name ∈ s.mentioned := by
  rw [names, mem_collectNames, mentioned, mem_firstOccurrences]

theorem names_perm_mentioned (s : Store) : s.names.Perm s.mentioned := by
  have hnames : s.names.Nodup := SortedSet.nodup_of_ascending (ascending_collectNames s.layers)
  have hmentioned : s.mentioned.Nodup := (distinct_firstOccurrences _).nodup
  exact (List.perm_ext_iff_of_nodup hnames hmentioned).mpr fun _ => mem_names_iff

end Property.Store

end OptionalContainers
