import OptionalContainers.Binary64
import OptionalContainers.View.Set

namespace OptionalContainers

variable {α β : Type}

namespace Index

theorem isSome_place? [Probe α β] [BEq α] [Hashable α] [BEq β] [Hashable β] [LawfulProbe α β]
    [LawfulHashable β] {ix : Index α} (h : ix.WellPlaced) (probe : β) :
    (ix.place? probe).isSome = ix.elements.toList.any (Probe.form · == probe) := by
  rw [Bool.eq_iff_iff, place?, Array.find?_isSome, List.any_eq_true]
  constructor
  · rintro ⟨place, -, hfound⟩
    obtain ⟨x, hx, heq⟩ := (Option.any_eq_true _ _).mp hfound
    exact ⟨x, Array.mem_toList_iff.mpr (Array.mem_of_getElem? hx), heq⟩
  · rintro ⟨x, hx, heq⟩
    obtain ⟨place, hplace⟩ := Array.getElem?_of_mem (Array.mem_toList_iff.mp hx)
    refine ⟨place, (h _ _).mpr ⟨x, hplace, hash_eq_of_form_beq heq⟩, ?_⟩
    simpa [hplace] using heq

variable [BEq α] [Hashable α] [LawfulHashable α]

theorem isSome_place?_eq_scan {ix : Index α} (h : ix.WellPlaced) (x : α) :
    (ix.place? x).isSome = scan ix.elements.toList x :=
  isSome_place? h x

theorem toList_insert {ix : Index α} (h : ix.WellPlaced) (x : α) :
    (ix.insert x).2.elements.toList = addNew ix.elements.toList x := by
  rw [elements_insert, isSome_place?_eq_scan h, addNew]
  split <;> simp

theorem toList_insertAll {ix : Index α} (h : ix.WellPlaced) (xs : List α) :
    (ix.insertAll xs).elements.toList = xs.foldl addNew ix.elements.toList := by
  induction xs generalizing ix with
  | nil => rfl
  | cons x rest ih =>
      rw [List.foldl_cons, ← toList_insert h]
      exact ih (wellPlaced_insert h x)

end Index

namespace Stage

def Sound [Hashable α] : Stage α → Prop
  | .scanned xs => xs.length ≤ scanLimit
  | .indexed ix => ix.WellPlaced

theorem sound_withCapacity [Hashable α] (capacity : Nat) :
    (withCapacity capacity : Stage α).Sound := by
  unfold withCapacity
  split
  · exact Index.wellPlaced_empty
  · exact Nat.zero_le _

theorem contains_eq_any [Probe α β] [BEq α] [Hashable α] [BEq β] [Hashable β] [LawfulProbe α β]
    [LawfulHashable β] {stage : Stage α} (h : stage.Sound) (probe : β) :
    stage.contains probe = stage.elements.any (Probe.form · == probe) := by
  cases stage with
  | scanned xs => rfl
  | indexed ix => exact Index.isSome_place? h probe

variable [BEq α] [Hashable α]

theorem wellPlaced_promote (xs : List α) (x : α) : (promote xs x).WellPlaced :=
  Index.wellPlaced_insert (Index.wellPlaced_insertAll Index.wellPlaced_empty xs) x

theorem sound_insert {stage : Stage α} (h : stage.Sound) (x : α) : (stage.insert x).2.Sound := by
  cases stage with
  | scanned xs =>
      simp only [insert]
      split
      · exact h
      · split
        next hroom => simpa [Sound] using Nat.succ_le_of_lt hroom
        next => exact wellPlaced_promote xs x
  | indexed ix => exact Index.wellPlaced_insert h x

variable [LawfulHashable α]

theorem toList_promote {xs : List α} (h : Distinct xs) (x : α) :
    (promote xs x).elements.toList = addNew xs x := by
  have hall : (Index.empty.insertAll xs).elements.toList = xs := by
    rw [Index.toList_insertAll Index.wellPlaced_empty]
    exact firstOccurrences_of_distinct h
  rw [promote, Index.toList_insert (Index.wellPlaced_insertAll Index.wellPlaced_empty xs), hall]

theorem elements_insert {stage : Stage α} (h : stage.Sound) (hd : Distinct stage.elements)
    (x : α) : (stage.insert x).2.elements = addNew stage.elements x := by
  cases stage with
  | scanned xs =>
      have hadd : scan xs x = false → addNew xs x = xs ++ [x] := fun hx => by simp [addNew, hx]
      simp only [insert]
      split
      next hx => simp [elements, addNew, hx]
      next hx =>
        simp only [Bool.not_eq_true] at hx
        split
        · simp [elements, hadd hx]
        · exact toList_promote hd x
  | indexed ix => exact Index.toList_insert h x

theorem insert_fst {stage : Stage α} (h : stage.Sound) (x : α) :
    (stage.insert x).1 = !scan stage.elements x := by
  cases stage with
  | scanned xs =>
      simp only [insert, elements]
      split
      next hx => simp [hx]
      next hx => split <;> simp_all
  | indexed ix =>
      simp only [insert, elements]
      rw [Index.insert_fst, Index.isSome_place?_eq_scan h]

end Stage

inductive Offer (α : Type) where
  | single (x : α)
  | several (xs : List α)
  deriving Repr

def Offer.elements : Offer α → List α
  | .single x => [x]
  | .several xs => xs

namespace Draft

variable [BEq α] [Hashable α]

def offer (d : Draft α) : Offer α → Draft α
  | .single x => (d.insert x).2
  | .several xs => d.extend xs

def offerAll (d : Draft α) (offers : List (Offer α)) : Draft α :=
  offers.foldl offer d

def accepted (d : Draft α) : List α → List α
  | [] => []
  | x :: rest =>
      match d.insert x with
      | (true, grown) => x :: grown.accepted rest
      | (false, same) => same.accepted rest

theorem offer_eq_extend (d : Draft α) (o : Offer α) : d.offer o = d.extend o.elements := by
  cases o <;> rfl

theorem offerAll_eq_extend (d : Draft α) (offers : List (Offer α)) :
    d.offerAll offers = d.extend (offers.flatMap Offer.elements) := by
  induction offers generalizing d with
  | nil => rfl
  | cons o rest ih =>
      rw [List.flatMap_cons, extend_append, ← offer_eq_extend]
      exact ih (d.offer o)

structure Holds (d : Draft α) (kept : List α) : Prop where
  elements : d.elements = kept
  sound : d.stage.Sound
  distinct : Distinct kept

theorem holds_withCapacity (capacity : Nat) : (withCapacity capacity : Draft α).Holds [] where
  elements := Stage.elements_withCapacity capacity
  sound := Stage.sound_withCapacity capacity
  distinct := .nil

variable {d : Draft α} {kept : List α} [LawfulHashable α]

theorem Holds.insert_fst (h : d.Holds kept) (x : α) : (d.insert x).1 = !scan kept x := by
  obtain ⟨rfl, hsound, -⟩ := h
  exact Stage.insert_fst hsound x

theorem Holds.insert (h : d.Holds kept) (x : α) : (d.insert x).2.Holds (addNew kept x) := by
  obtain ⟨rfl, hsound, hdistinct⟩ := h
  exact ⟨Stage.elements_insert hsound hdistinct x, Stage.sound_insert hsound x,
    distinct_addNew hdistinct x⟩

theorem Holds.extend (h : d.Holds kept) (xs : List α) :
    (d.extend xs).Holds (xs.foldl addNew kept) := by
  induction xs generalizing d kept with
  | nil => exact h
  | cons x rest ih => exact ih (h.insert x)

theorem Holds.append_accepted (h : d.Holds kept) (xs : List α) :
    kept ++ d.accepted xs = xs.foldl addNew kept := by
  induction xs generalizing d kept with
  | nil => simp [accepted]
  | cons x rest ih =>
      have hnext := ih (h.insert x)
      have hanswer := h.insert_fst x
      rw [List.foldl_cons, ← hnext]
      simp only [accepted]
      split
      next grown heq =>
        have hx : addNew kept x = kept ++ [x] := by simp_all [addNew]
        simp [hx, heq]
      next same heq =>
        have hx : addNew kept x = kept := by simp_all [addNew]
        simp [hx, heq]

theorem holds_extend_withCapacity (capacity : Nat) (xs : List α) :
    ((withCapacity capacity).extend xs).Holds (firstOccurrences xs) :=
  (holds_withCapacity capacity).extend xs

theorem accepted_withCapacity (capacity : Nat) (xs : List α) :
    (withCapacity capacity).accepted xs = firstOccurrences xs :=
  (holds_withCapacity capacity).append_accepted xs

theorem offerAll_keeps_accepted (capacity : Nat) (offers : List (Offer α)) :
    let offered := offers.flatMap Offer.elements
    let kept := (withCapacity capacity).accepted offered
    let draft := (withCapacity capacity).offerAll offers
    (∀ x, (draft.insert x).1 = true ↔ ∀ y ∈ kept, (y == x) = false) ∧
      draft.length = kept.length ∧
      (draft.isEmpty = true ↔ kept.length = 0) ∧
      (∀ journal, (draft.build.run journal).1.elements = kept) ∧
      kept = firstOccurrences offered := by
  intro offered kept draft
  have hkept : kept = firstOccurrences offered := accepted_withCapacity capacity offered
  have hdraft : draft.Holds kept := by
    rw [hkept]
    simpa only [draft, offerAll_eq_extend] using holds_extend_withCapacity capacity offered
  have hlength : draft.length = kept.length := by
    rw [length_eq, hdraft.elements]
  refine ⟨fun x => ?_, hlength, ?_, fun journal => ?_, hkept⟩
  · rw [hdraft.insert_fst]
    simp [scan]
  · simp [isEmpty, hlength]
  · rw [SetView.elements_build, hdraft.elements]

theorem offerAll_keeps_every_nan :
    let nan : Binary64 := ⟨0x7ff8000000000000⟩
    let minusZero : Binary64 := ⟨0x8000000000000000⟩
    let offers := [.several (.replicate 9 nan), .single minusZero, .single ⟨0⟩]
    let draft := (withCapacity 0).offerAll offers
    (draft.insert ⟨0⟩).1 = false ∧ draft.length = 10 ∧
      ∀ journal, (draft.build.run journal).1.elements = .replicate 9 nan ++ [minusZero] := by
  intro nan minusZero offers draft
  obtain ⟨hanswer, hlength, -, hbuild, hkept⟩ := offerAll_keeps_accepted 0 offers
  have hfirst : firstOccurrences (offers.flatMap Offer.elements) =
      .replicate 9 nan ++ [minusZero] := by decide
  rw [hkept, hfirst] at hanswer hlength hbuild
  refine ⟨?_, hlength, hbuild⟩
  rw [← Bool.not_eq_true, hanswer]
  decide

end Draft

end OptionalContainers
