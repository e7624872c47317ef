import Mathlib.Logic.ExistsUnique
import OptionalContainers.Proofs.Distinct.Answers

namespace OptionalContainers

variable {α β : Type}

theorem Distinct.place_eq [BEq α] [PartialEquivBEq α] {xs : List α} (h : Distinct xs)
    {place other : Nat} {x y : α} (hx : xs[place]? = some x) (hy : xs[other]? = some y)
    (heq : (x == y) = true) : place = other := by
  obtain ⟨hplace, rfl⟩ := List.getElem?_eq_some_iff.mp hx
  obtain ⟨hother, rfl⟩ := List.getElem?_eq_some_iff.mp hy
  have hapart := List.pairwise_iff_getElem.mp h
  rcases Nat.lt_trichotomy place other with hlt | rfl | hlt
  · have hne := hapart place other hplace hother hlt
    exact (Bool.false_ne_true (hne.symm.trans heq)).elim
  · rfl
  · have hne := hapart other place hother hplace hlt
    exact (Bool.false_ne_true (hne.symm.trans (BEq.symm heq))).elim

namespace Index

section

variable [Hashable α] {ix : Index α}

theorem WellPlaced.place_lt (h : ix.WellPlaced) {word : UInt64} {place : Nat}
    (hplace : place ∈ ix.bucket word) : place < ix.elements.size := by
  obtain ⟨x, hx, -⟩ := (h word place).mp hplace
  exact (Array.getElem?_eq_some_iff.mp hx).1

theorem WellPlaced.existsUnique_word (h : ix.WellPlaced) {place : Nat}
    (hplace : place < ix.elements.size) : ∃! word, place ∈ ix.bucket word := by
  have hget : ix.elements[place]? = some ix.elements[place] := Array.getElem?_eq_getElem hplace
  refine ⟨hash ix.elements[place], (h _ _).mpr ⟨_, hget, rfl⟩, fun word hword => ?_⟩
  obtain ⟨x, hx, rfl⟩ := (h word place).mp hword
  rw [Option.some.inj (hx.symm.trans hget)]

def Ascending (ix : Index α) : Prop :=
  ∀ word, (ix.bucket word).toList.Pairwise (· < ·)

omit [Hashable α] in
theorem ascending_empty : (empty : Index α).Ascending := by
  intro word
  rw [bucket_empty]
  exact .nil

theorem ascending_append (h : ix.WellPlaced) (hasc : ix.Ascending) (x : α) :
    (ix.append x).Ascending := by
  intro word
  rw [bucket_append]
  split
  · rw [Array.toList_push, List.pairwise_append]
    refine ⟨hasc word, List.pairwise_singleton _ _, fun place hplace last hlast => ?_⟩
    rw [List.mem_singleton.mp hlast]
    exact h.place_lt (Array.mem_toList_iff.mp hplace)
  · exact hasc word

end

section

variable [BEq α] [Hashable α]

structure Consistent (ix : Index α) : Prop where
  ascending : ix.Ascending
  wellPlaced : ix.WellPlaced
  distinct : Distinct ix.elements.toList

theorem consistent_empty : (empty : Index α).Consistent :=
  ⟨ascending_empty, wellPlaced_empty, .nil⟩

def answers (ix : Index α) : List α → List Bool
  | [] => []
  | x :: rest => (ix.insert x).1 :: answers (ix.insert x).2 rest

theorem answers_of_distinct {ix : Index α} {xs : List α}
    (h : Distinct (ix.elements.toList ++ xs)) : ix.answers xs = List.replicate xs.length true := by
  induction xs generalizing ix with
  | nil => rfl
  | cons x rest ih =>
      have hinsert : ix.insert x = (true, ix.append x) := insert_of_new h.scan_eq_false
      have hrest : Distinct ((ix.append x).elements.toList ++ rest) := by
        rw [toList_append, List.append_assoc, List.singleton_append]
        exact h
      rw [answers, hinsert, ih hrest]
      rfl

theorem insertAll_append_singleton (ix : Index α) (xs : List α) (x : α) :
    ix.insertAll (xs ++ [x]) = ((ix.insertAll xs).insert x).2 :=
  List.foldl_concat ..

variable [LawfulHashable α]

theorem Consistent.insert {ix : Index α} (h : ix.Consistent) (x : α) :
    (ix.insert x).2.Consistent := by
  cases hx : scan ix.elements.toList x with
  | false =>
      rw [insert_of_new hx]
      refine ⟨ascending_append h.wellPlaced h.ascending x, wellPlaced_append h.wellPlaced x, ?_⟩
      rw [toList_append]
      exact h.distinct.append_new hx
  | true =>
      have hheld : (ix.place? x).isSome = true :=
        (isSome_place?_eq_scan h.wellPlaced x).trans hx
      obtain ⟨place, hplace⟩ := Option.isSome_iff_exists.mp hheld
      rw [Index.insert, hplace]
      exact h

theorem Consistent.insertAll {ix : Index α} (h : ix.Consistent) (xs : List α) :
    (ix.insertAll xs).Consistent := by
  induction xs generalizing ix with
  | nil => exact h
  | cons x rest ih => exact ih (h.insert x)

end

section

variable [Probe α β] [BEq β]

/-- A search that reads the elements one after another where the places say they lie. It comes
to no end at a place where there is no element. -/
def readThrough (elements : Array α) (probe : β) : List Nat → Option (Option Nat)
  | [] => some none
  | place :: rest =>
      elements[place]?.bind fun x =>
        if Probe.form x == probe then some (some place) else readThrough elements probe rest

theorem readThrough_eq {elements : Array α} {places : List Nat}
    (h : ∀ place ∈ places, place < elements.size) (probe : β) :
    readThrough elements probe places =
      some (places.find? fun place => elements[place]?.any (Probe.form · == probe)) := by
  induction places with
  | nil => rfl
  | cons place rest ih =>
      obtain ⟨hplace, hrest⟩ := List.forall_mem_cons.mp h
      rw [readThrough, List.find?_cons, Array.getElem?_eq_getElem hplace, Option.bind_some,
        Option.any_some, ih hrest]
      split <;> simp_all

variable [BEq α] [Hashable α] [Hashable β]

structure Locates (ix : Index α) (probe : β) : Prop where
  readThrough_eq : readThrough ix.elements probe (ix.bucket (hash probe)).toList =
    some (ix.place? probe)
  place?_eq_some_iff (place : Nat) :
    ix.place? probe = some place ↔
      ∃ x, ix.elements[place]? = some x ∧ (Probe.form x == probe) = true
  place?_eq_none_iff :
    ix.place? probe = none ↔ ∀ x ∈ ix.elements, (Probe.form x == probe) = false

omit [BEq α] [Hashable α] in
theorem exists_of_place? {ix : Index α} {probe : β} {place : Nat}
    (h : ix.place? probe = some place) :
    ∃ x, ix.elements[place]? = some x ∧ (Probe.form x == probe) = true := by
  let equal : Nat → Bool := fun place => ix.elements[place]?.any (Probe.form · == probe)
  have hfound : equal place = true := Array.find?_some h
  exact (Option.any_eq_true _ _).mp hfound

variable [LawfulProbe α β] [PartialEquivBEq β]

theorem beq_of_form_beq {x y : α} {probe : β} (hx : (Probe.form x == probe) = true)
    (hy : (Probe.form y == probe) = true) : (x == y) = true := by
  rw [← LawfulProbe.form_beq (β := β)]
  exact PartialEquivBEq.trans hx (BEq.symm hy)

theorem Consistent.locates [PartialEquivBEq α] [LawfulHashable β] {ix : Index α}
    (h : ix.Consistent) (probe : β) : ix.Locates probe where
  readThrough_eq := by
    have hwithin : ∀ place ∈ (ix.bucket (hash probe)).toList, place < ix.elements.size :=
      fun place hplace => h.wellPlaced.place_lt (Array.mem_toList_iff.mp hplace)
    rw [Index.readThrough_eq hwithin, Array.find?_toList, place?]
  place?_eq_some_iff place := by
    refine ⟨exists_of_place?, ?_⟩
    rintro ⟨x, hx, heq⟩
    have hfound : (ix.place? probe).isSome = true := by
      rw [isSome_place? h.wellPlaced, List.any_eq_true]
      exact ⟨x, Array.mem_toList_iff.mpr (Array.mem_of_getElem? hx), heq⟩
    obtain ⟨found, hplace⟩ := Option.isSome_iff_exists.mp hfound
    obtain ⟨y, hy, hyq⟩ := exists_of_place? hplace
    rw [← Array.getElem?_toList] at hx hy
    rw [hplace, h.distinct.place_eq hy hx (beq_of_form_beq hyq heq)]
  place?_eq_none_iff := by
    rw [← Option.not_isSome_iff_eq_none, isSome_place? h.wellPlaced, Bool.not_eq_true,
      List.any_eq_false]
    simp only [Array.mem_toList_iff, Bool.not_eq_true]

end

end Index

variable [BEq α] [Hashable α]

namespace Stage

def Grown : Stage α → Prop
  | .scanned _ => True
  | .indexed ix => ∃ xs, ix = Index.empty.insertAll xs

theorem promote_eq (xs : List α) (x : α) : promote xs x = Index.empty.insertAll (xs ++ [x]) :=
  (Index.empty.insertAll_append_singleton xs x).symm

theorem grown_insert {stage : Stage α} (h : stage.Grown) (x : α) : (stage.insert x).2.Grown := by
  cases stage with
  | scanned xs =>
      rw [insert]
      split
      · trivial
      · split
        · trivial
        · exact ⟨xs ++ [x], promote_eq xs x⟩
  | indexed ix =>
      obtain ⟨xs, rfl⟩ := h
      exact ⟨xs ++ [x], (Index.empty.insertAll_append_singleton xs x).symm⟩

theorem insert_indexed_cases {xs : List α} {x : α} {ix : Index α}
    (h : ((Stage.scanned xs).insert x).2 = .indexed ix) :
    scanLimit ≤ xs.length ∧ scan xs x = false ∧ ((Stage.scanned xs).insert x).1 = true ∧
      ix = promote xs x := by
  simp only [insert] at h ⊢
  split at h
  · cases h
  next hx =>
    split at h
    · cases h
    next hfull =>
      rw [if_neg hx, if_neg hfull]
      exact ⟨Nat.le_of_not_lt hfull, by simpa using hx, rfl, (Stage.indexed.inj h).symm⟩

theorem grown_withCapacity (capacity : Nat) : (withCapacity capacity : Stage α).Grown := by
  unfold withCapacity
  split
  · exact ⟨[], rfl⟩
  · trivial

structure Promoted (xs : List α) (x : α) (ix : Index α) : Prop where
  elements_eq : ix.elements.toList = xs ++ [x]
  answers_eq : Index.empty.answers (xs ++ [x]) = List.replicate (xs.length + 1) true
  grown : ix = Index.empty.insertAll (xs ++ [x])

theorem promoted_promote {xs : List α} {x : α} (h : Distinct xs) (hx : scan xs x = false) :
    Promoted xs x (promote xs x) where
  elements_eq := toList_promote_of_new h hx
  answers_eq := by
    have hall : Distinct ((Index.empty : Index α).elements.toList ++ (xs ++ [x])) :=
      h.append_new hx
    rw [Index.answers_of_distinct hall, List.length_append, List.length_singleton]
  grown := promote_eq xs x

end Stage

theorem Draft.grown_offerAll (capacity : Nat) (offers : List (Offer α)) :
    ((withCapacity capacity).offerAll offers).stage.Grown := by
  rw [offerAll_eq_extend]
  generalize offers.flatMap Offer.elements = xs
  suffices h : ∀ d : Draft α, d.stage.Grown → (d.extend xs).stage.Grown from
    h _ (Stage.grown_withCapacity capacity)
  induction xs with
  | nil => exact fun d h => h
  | cons x rest ih => exact fun d h => ih _ (Stage.grown_insert h x)

theorem buckets_locate_elements [PartialEquivBEq α] [LawfulHashable α] :
    (∀ xs : List α,
      let ix := Index.empty.insertAll xs
      (∀ word, (ix.bucket word).toList.Pairwise (· < ·) ∧
          ∀ place, place ∈ ix.bucket word ↔
            ∃ x, ix.elements[place]? = some x ∧ hash x = word) ∧
        (∀ place, place < ix.elements.size ↔ ∃! word, place ∈ ix.bucket word) ∧
        (∀ (place other : Nat) (x y : α), place ≠ other → ix.elements[place]? = some x →
          ix.elements[other]? = some y → (x == y) = false) ∧
        ∀ (β : Type) [Probe α β] [BEq β] [Hashable β] [LawfulProbe α β] [PartialEquivBEq β]
          [LawfulHashable β] (probe : β), ix.Locates probe) ∧
      ∀ (capacity : Nat) (offers : List (Offer α)),
        let d := (Draft.withCapacity capacity).offerAll offers
        (∀ ix, d.stage = .indexed ix → ∃ xs, ix = Index.empty.insertAll xs) ∧
          ∀ xs, d.stage = .scanned xs → xs.length ≤ 8 ∧
            ∀ x ix, (d.insert x).2.stage = .indexed ix →
              xs.length = 8 ∧ (d.insert x).1 = true ∧ Stage.Promoted xs x ix := by
  refine ⟨fun xs => ?_, fun capacity offers => ?_⟩
  · intro ix
    have h : ix.Consistent := Index.consistent_empty.insertAll xs
    refine ⟨fun word => ⟨h.ascending word, h.wellPlaced word⟩, fun place => ⟨?_, ?_⟩, ?_, ?_⟩
    · exact h.wellPlaced.existsUnique_word
    · rintro ⟨word, hword, -⟩
      exact h.wellPlaced.place_lt hword
    · intro place other x y hne hx hy
      rw [← Array.getElem?_toList] at hx hy
      exact Bool.eq_false_iff.mpr fun heq => hne (h.distinct.place_eq hx hy heq)
    · intro β _ _ _ _ _ _ probe
      exact h.locates probe
  · intro d
    have hgrown : d.stage.Grown := Draft.grown_offerAll capacity offers
    have hextend : d = (Draft.withCapacity capacity).extend (offers.flatMap Offer.elements) :=
      Draft.offerAll_eq_extend _ offers
    have hsound : d.stage.Sound := hextend ▸ (Draft.holds_extend_withCapacity capacity _).sound
    have hapart : d.stage.Apart :=
      hextend ▸ (Draft.counted_extend_withCapacity capacity _).apart
    refine ⟨fun ix hix => ?_, fun xs hxs => ?_⟩
    · rwa [hix] at hgrown
    · rw [hxs] at hsound hapart
      refine ⟨hsound, fun x ix hix => ?_⟩
      have hinsert : ((Stage.scanned xs).insert x).2 = .indexed ix := hxs ▸ hix
      obtain ⟨hfull, hx, hanswer, rfl⟩ := Stage.insert_indexed_cases hinsert
      refine ⟨Nat.le_antisymm hsound hfull, ?_, Stage.promoted_promote hapart hx⟩
      rw [← hanswer, ← hxs]
      rfl

theorem buckets_of_parities :
    let _parity : Hashable Nat := ⟨fun n => (n % 2).toUInt64⟩
    let ix := Index.empty.insertAll [4, 7, 4, 9, 2, 7]
    let d := (Draft.withCapacity 0).offerAll [.several (List.range 8), .single 3]
    (ix.place? 9 = some 2 ∧ ix.place? 5 = none ∧ ∃! word, 3 ∈ ix.bucket word) ∧
      ∃ grown, (d.insert 8).2.stage = .indexed grown ∧ grown.elements.toList = List.range 9 := by
  intro parity ix d
  obtain ⟨hindex, hdraft⟩ := buckets_locate_elements (α := Nat)
  obtain ⟨-, hword, -, hlocates⟩ := hindex [4, 7, 4, 9, 2, 7]
  have helements : ix.elements.toList = [4, 7, 9, 2] :=
    Index.toList_insertAll Index.wellPlaced_empty _
  have hlocate := fun n : Nat => hlocates Nat n
  have hscanned : d.stage = .scanned (List.range 8) := rfl
  obtain ⟨-, hpromote⟩ := (hdraft 0 [.several (List.range 8), .single 3]).2 _ hscanned
  have hindexed : (d.insert 8).2.stage = .indexed (Stage.promote (List.range 8) 8) := by
    show (d.stage.insert 8).2 = _
    rw [hscanned]
    rfl
  refine ⟨⟨?_, ?_, ?_⟩, _, hindexed, (hpromote 8 _ hindexed).2.2.elements_eq⟩
  · refine ((hlocate 9).place?_eq_some_iff 2).mpr ⟨9, ?_, rfl⟩
    rw [← Array.getElem?_toList, helements]
    rfl
  · have hother : ∀ x ∈ ix.elements.toList, (x == 5) = false := by
      rw [helements]
      decide
    exact (hlocate 5).place?_eq_none_iff.mpr fun x hx => hother x (Array.mem_toList_iff.mpr hx)
  · refine (hword 3).mp ?_
    rw [← Array.length_toList, helements]
    decide

end OptionalContainers
