import OptionalContainers.Proofs.Search.FirstMatch
import OptionalContainers.Proofs.Target.SetMerging

namespace OptionalContainers

variable {α ν μ : Type} [BEq α]

def Overlap (xs ys : List α) : Prop :=
  ∃ x ∈ xs, ∃ y ∈ ys, (x == y) = true

section

variable {xs ys zs : List α}

theorem overlap_comm [PartialEquivBEq α] : Overlap xs ys ↔ Overlap ys xs := by
  constructor
  · rintro ⟨x, hx, y, hy, hxy⟩
    exact ⟨y, hy, x, hx, BEq.symm hxy⟩
  · rintro ⟨y, hy, x, hx, hyx⟩
    exact ⟨x, hx, y, hy, BEq.symm hyx⟩

theorem overlap_iff_right : Overlap xs ys ↔ ∃ y ∈ ys, ∃ x ∈ xs, (x == y) = true := by
  constructor
  · rintro ⟨x, hx, y, hy, hxy⟩
    exact ⟨y, hy, x, hx, hxy⟩
  · rintro ⟨y, hy, x, hx, hxy⟩
    exact ⟨x, hx, y, hy, hxy⟩

theorem SameItems.overlap_iff [EquivBEq α] (h : SameItems xs ys) :
    Overlap xs zs ↔ Overlap ys zs := by
  simp only [overlap_iff_right, ← scan_eq_true_iff, sameItems_iff_scan.mp h]

theorem not_overlap_nil_left : ¬ Overlap [] ys :=
  fun ⟨_, hx, _⟩ => List.not_mem_nil hx

theorem not_overlap_nil_right : ¬ Overlap xs [] :=
  fun ⟨_, _, _, hy, _⟩ => List.not_mem_nil hy

theorem AnyContainer.Holds.intersects_iff [Hashable α] [Ord α] [EquivBEq α] [LawfulHashable α]
    [Std.LawfulBEqOrd α] {c : AnyContainer α ν} (h : c.Holds xs) (candidates : Option (List α)) :
    (intersects (some c) candidates).1 = true ↔ Overlap xs (offered candidates) := by
  cases candidates with
  | none =>
      have hnone : (firstMatch (some c) (none : Option (List α))).1 = none := by
        rw [h.firstMatch_eq]
        split <;> rfl
      rw [h.searchedAs.intersects_eq, hnone]
      exact iff_of_false Bool.false_ne_true not_overlap_nil_right
  | some ys =>
      rw [h.searchedAs.intersects_iff, overlap_iff_right]
      rfl

end

/-- One side of an intersection, with the hash that its own index uses. -/
structure Side (α ν : Type) [BEq α] where
  container? : Option (AnyContainer α ν)
  [hashing : Hashable α]
  [lawful : LawfulHashable α]

namespace Side

variable [Ord α]

def meets (a : Side α ν) (candidates : Option (List α)) : Bool :=
  letI := a.hashing
  (intersects a.container? candidates).1

inductive Built : Side α ν → List α → Prop
  | absent [Hashable α] [LawfulHashable α] : Built ⟨none⟩ []
  | elements [Hashable α] [LawfulHashable α] (xs : List α) (kind : ElementKind)
      (journal : Journal) : Built ⟨some ((AnyContainer.ofElements xs kind).run journal).1⟩ xs
  | entries [Hashable α] [LawfulHashable α] (entries : List (α × ν)) (kind : MapKind)
      (journal : Journal) :
      Built ⟨some ((AnyContainer.ofEntries entries kind).run journal).1⟩ (entries.map (·.1))
  | setView [Hashable α] [LawfulHashable α] {journal later : Journal} {v : SetView α}
      {xs : List α} (made : SetView.Made journal v later xs) : Built ⟨some (.setView v)⟩ xs
  | shapedSet [Hashable α] [LawfulHashable α] {journal later : Journal} {v : SetView α}
      {xs : List α} (made : SetView.Made journal v later xs) :
      Built ⟨some (.shapedView (.set v))⟩ xs
  | held [Hashable α] [LawfulHashable α] {c : AnyContainer α ν} (h : c.Constructed) :
      Built ⟨some c⟩ c.elements

variable [EquivBEq α] [Std.LawfulBEqOrd α] {a : Side α ν} {b : Side α μ} {xs ys : List α}

theorem Built.holds (h : a.Built xs) :
    (a.container? = none ∧ xs = []) ∨
      letI := a.hashing
      ∃ c, a.container? = some c ∧ c.Holds xs := by
  cases h with
  | absent => exact .inl ⟨rfl, rfl⟩
  | elements _ kind journal => exact .inr ⟨_, rfl, AnyContainer.holds_ofElements xs kind journal⟩
  | entries entries kind journal =>
      exact .inr ⟨_, rfl, AnyContainer.holds_ofEntries entries kind journal⟩
  | setView made => exact .inr ⟨_, rfl, AnyContainer.holds_setView made⟩
  | shapedSet made =>
      exact .inr ⟨_, rfl, AnyContainer.holds_of_elements ⟨_, _, _, made⟩ made.elements_eq
        (sameItems_firstOccurrences xs)⟩
  | held h => exact .inr ⟨_, rfl, h, sameItems_self _⟩

theorem Built.meets_iff (h : a.Built xs) (candidates : Option (List α)) :
    a.meets candidates = true ↔ Overlap xs (offered candidates) := by
  let := a.hashing
  have := a.lawful
  obtain ⟨hnone, rfl⟩ | ⟨c, hsome, hc⟩ := h.holds
  · rw [meets, hnone]
    exact iff_of_false Bool.false_ne_true not_overlap_nil_left
  · rw [meets, hsome]
    exact hc.intersects_iff candidates

theorem Built.sameItems (h : a.Built xs) : SameItems (offered a.container?) xs := by
  let := a.hashing
  obtain ⟨hnone, rfl⟩ | ⟨c, hsome, hc⟩ := h.holds
  · rw [hnone]
    exact sameItems_self []
  · rw [hsome]
    exact hc.items

theorem Built.meets_listing_iff (ha : a.Built xs) (hb : b.Built ys) {listed : Option (List α)}
    (h : (offered listed).Perm (offered b.container?)) :
    a.meets listed = true ↔ Overlap xs ys := by
  have hlisted : SameItems (offered listed) ys :=
    sameItems_iff_scan.mpr fun y =>
      (scan_eq_of_perm h y).trans (sameItems_iff_scan.mp hb.sameItems y)
  rw [ha.meets_iff, overlap_comm, hlisted.overlap_iff, overlap_comm]

theorem intersection_symmetric (ha : a.Built xs) (hb : b.Built ys)
    {left right : Option (List α)} (hleft : (offered left).Perm (offered a.container?))
    (hright : (offered right).Perm (offered b.container?)) :
    a.meets right = b.meets left ∧
      (a.meets right = true ↔ ∃ x ∈ xs, ∃ y ∈ ys, (x == y) = true) := by
  have hab := ha.meets_listing_iff hb hright
  have hba := hb.meets_listing_iff ha hleft
  refine ⟨?_, hab⟩
  rw [Bool.eq_iff_iff, hab, hba]
  exact overlap_comm

-- Nine elements are indexed, and their hash tells the keys apart only by their parity.
theorem indexed_view_meets_sorted_set :
    let xs : List Marked := (List.range 9).map (⟨·, 0⟩)
    let ys : List Marked := [⟨12, 1⟩, ⟨7, 1⟩, ⟨12, 2⟩]
    let a : Side Marked Nat := ⟨some (.setView ((SetView.collectWith 0 xs).run .start).1)⟩
    let b : Side Marked Nat := ⟨some (.sortedSet (.ofList ys))⟩
    a.Built xs ∧ b.Built ys ∧ b.meets (some xs) = true ∧
      a.meets (some [⟨7, 1⟩, ⟨12, 1⟩]) = b.meets (some xs) := by
  intro xs ys a b
  have made := SetView.made_collectWith 0 xs .start
  have ha : a.Built xs := .setView made
  have hb : b.Built ys := .elements ys .sortedSet .start
  have hkept : firstOccurrences xs = xs := by decide
  have hleft : (offered (some xs)).Perm (offered a.container?) :=
    .of_eq (made.elements_eq.trans hkept).symm
  have hright : (offered (some [⟨7, 1⟩, ⟨12, 1⟩])).Perm (offered b.container?) := .of_eq rfl
  obtain ⟨hsame, hmeets⟩ := intersection_symmetric ha hb hleft hright
  refine ⟨ha, hb, hsame.symm.trans (hmeets.mpr ?_), hsame⟩
  exact ⟨⟨7, 0⟩, by simp [xs], ⟨7, 1⟩, by simp [ys], rfl⟩

end Side

end OptionalContainers
