import Mathlib.Data.List.Forall2
import OptionalContainers.Binary64
import OptionalContainers.Proofs.Container.HashedEquality
import OptionalContainers.Proofs.View.Sharing

namespace OptionalContainers

variable {υ α κ ν : Type}

structure ToldByContent (equal shares : υ → υ → Bool) (agree same : υ → υ → Prop)
    (reflexive : υ → Prop) (v w : υ) : Prop where
  equal_iff : equal v w = true ↔ shares v w = true ∨ agree v w
  same_of_shares : shares v w = true → same v w
  equal_iff_agree : (shares v w = true → reflexive v) → (equal v w = true ↔ agree v w)
  clone_iff_separate (u : υ) : shares v u = false → same v u →
    (equal v v = equal v u ↔ reflexive v)

theorem toldByContent {equal shares : υ → υ → Bool} {agree same : υ → υ → Prop}
    {reflexive : υ → Prop} {v w : υ} (hshares : shares v v = true)
    (hequal : ∀ u, equal v u = true ↔ shares v u = true ∨ agree v u)
    (hagree : ∀ u, same v u → (agree v u ↔ reflexive v))
    (hsame : shares v w = true → same v w) :
    ToldByContent equal shares agree same reflexive v w where
  equal_iff := hequal w
  same_of_shares := hsame
  equal_iff_agree hreflexive := by
    rw [hequal]
    constructor
    · rintro (h | h)
      · exact (hagree w (hsame h)).mpr (hreflexive h)
      · exact h
    · exact .inr
  clone_iff_separate u hseparate hu := by
    have hclone : equal v v = true := (hequal v).mpr (.inl hshares)
    have hother : equal v u = true ↔ agree v u := by simp [hequal u, hseparate]
    rw [hclone, eq_comm, hother, hagree u hu]

def Pointwise [BEq α] (xs ys : List α) : Prop :=
  List.Forall₂ (fun x y => (x == y) = true) xs ys

theorem beq_iff_pointwise [BEq α] (xs ys : List α) : (xs == ys) = true ↔ Pointwise xs ys := by
  induction xs generalizing ys with
  | nil => cases ys <;> simp [Pointwise]
  | cons x rest ih =>
      cases ys with
      | nil => simp [Pointwise]
      | cons y more =>
          rw [List.cons_beq_cons, Bool.and_eq_true, ih, Pointwise, Pointwise, List.forall₂_cons]

theorem pointwise_self_iff [BEq α] {xs : List α} :
    Pointwise xs xs ↔ ∀ x ∈ xs, (x == x) = true :=
  List.forall₂_same

def ToldByElements [BEq α] [BEq υ] (shares : υ → υ → Bool) (elements : υ → List α) (v w : υ) :
    Prop :=
  ToldByContent (· == ·) shares (fun v w => Pointwise (elements v) (elements w))
    (fun v w => elements v = elements w) (fun v => ∀ x ∈ elements v, (x == x) = true) v w

theorem toldByElements [BEq α] [BEq υ] {shares : υ → υ → Bool} {elements : υ → List α} {v w : υ}
    (hself : shares v v = true)
    (hequal : ∀ u, (v == u) = true ↔ shares v u = true ∨ Pointwise (elements v) (elements u))
    (hsame : shares v w = true → elements v = elements w) :
    ToldByElements shares elements v w := by
  refine toldByContent hself hequal (fun u hu => ?_) hsame
  rw [← hu]
  exact pointwise_self_iff

theorem SequenceView.beq_iff [BEq α] (v w : SequenceView α) :
    (v == w) = true ↔ v.shares w = true ∨ Pointwise v.elements w.elements := by
  show (v.shares w || v.elements == w.elements) = true ↔ _
  rw [Bool.or_eq_true, beq_iff_pointwise]

theorem SequenceView.elements_congr {v w : SequenceView α} (h : v.stored = w.stored) :
    v.elements = w.elements := by
  simp only [elements, h]

namespace MappingView

variable [BEq κ]

def ToldByEntries [BEq ν] (v w : MappingView κ ν) : Prop :=
  ToldByContent (· == ·) shares
    (fun v w => (∀ k, v.containsKey k = w.containsKey k) ∧
      ∀ k x y, v.get? k = some x → w.get? k = some y → (x == y) = true)
    (fun v w => ∀ k, v.get? k = w.get? k) (fun v => ∀ x ∈ v.values, (x == x) = true) v w

variable [EquivBEq κ]

theorem exists_containsKey {v : MappingView κ ν} {m : HashedMap κ ν} (hv : v.map? = some m)
    (h : m.entries ≠ []) : ∃ k, v.containsKey k = true := by
  obtain ⟨k, hk⟩ := HashedMap.exists_isSome_get? h
  refine ⟨k, ?_⟩
  rw [containsKey, get?, hv]
  exact hk

variable [BEq ν]

theorem beq_iff (v w : MappingView κ ν) :
    (v == w) = true ↔ v.shares w = true ∨ Agree v.get? w.get? := by
  obtain ⟨storedv, hv⟩ := v
  obtain ⟨storedw, hw⟩ := w
  cases storedv with
  | empty =>
      cases storedw with
      | empty => exact ⟨fun _ => .inl rfl, fun _ => rfl⟩
      | held cell b =>
          obtain ⟨k, hk⟩ := exists_containsKey (v := ⟨.held cell b, hw⟩) rfl hw
          refine ⟨fun h => (Bool.false_ne_true h).elim, ?_⟩
          rintro (h | h)
          · exact (Bool.false_ne_true h).elim
          · exact (Bool.false_ne_true ((h.1 k).trans hk)).elim
  | held cell a =>
      cases storedw with
      | empty =>
          obtain ⟨k, hk⟩ := exists_containsKey (v := ⟨.held cell a, hv⟩) rfl hv
          refine ⟨fun h => (Bool.false_ne_true h).elim, ?_⟩
          rintro (h | h)
          · exact (Bool.false_ne_true h).elim
          · exact (Bool.false_ne_true ((h.1 k).symm.trans hk)).elim
      | held other b =>
          show (_ || a == b) = true ↔ _ ∨ Agree a.get? b.get?
          rw [Bool.or_eq_true, HashedMap.beq_iff_agree]

theorem agree_self_iff (v : MappingView κ ν) :
    Agree v.get? v.get? ↔ ∀ x ∈ v.values, (x == x) = true := by
  obtain ⟨stored, filled⟩ := v
  cases stored with
  | empty => simp [Agree, get?, map?, values, entries, Stored.content?, Stored.listed]
  | held cell m =>
      show Agree m.get? m.get? ↔ ∀ x ∈ m.entries.map (·.2), _
      rw [HashedMap.agree_self_iff, List.forall_mem_map]

theorem toldByEntries {v w : MappingView κ ν} (h : v.shares w = true → v.stored = w.stored) :
    v.ToldByEntries w := by
  have hagree : ∀ u : MappingView κ ν, (∀ k, v.get? k = u.get? k) →
      (Agree v.get? u.get? ↔ ∀ x ∈ v.values, (x == x) = true) := by
    intro u hu
    rw [← funext hu]
    exact v.agree_self_iff
  refine toldByContent v.stored.shares_self v.beq_iff hagree ?_
  intro hshares k
  simp only [get?, map?, h hshares]

end MappingView

theorem equality_told_by_content [BEq α] [BEq κ] [EquivBEq κ] [BEq ν] (journal : Journal) :
    (∀ views : List (SequenceView α), History SequenceView.Made journal views →
        ∀ v ∈ views, ∀ w ∈ views,
          ToldByElements SequenceView.shares SequenceView.elements v w) ∧
      (∀ views : List (TraversalView α), History TraversalView.Made journal views →
        ∀ v ∈ views, ∀ w ∈ views,
          ToldByElements TraversalView.shares TraversalView.elements v w) ∧
      (∀ views : List (MappingView κ ν), History MappingView.Made journal views →
        ∀ v ∈ views, ∀ w ∈ views, v.ToldByEntries w) := by
  refine ⟨fun views history v hv w hw => ?_, fun views history v hv w hw => ?_,
    fun views history v hv w hw => ?_⟩
  · have hstored := history.stored_eq_of_shares SequenceView.Made.placed hv hw
    exact toldByElements v.stored.shares_self v.beq_iff fun hshares =>
      SequenceView.elements_congr (hstored hshares)
  · have hstored := history.stored_eq_of_shares TraversalView.Made.placed hv hw
    exact toldByElements v.sequence.stored.shares_self (fun u => v.sequence.beq_iff u.sequence)
      fun hshares => SequenceView.elements_congr (hstored hshares)
  · exact MappingView.toldByEntries (history.stored_eq_of_shares MappingView.Made.placed hv hw)

theorem zeros_equal_and_clone_of_nan_apart :
    let minusZero : Binary64 := ⟨0x8000000000000000⟩
    let nan : Binary64 := ⟨0x7ff8000000000000⟩
    let v := (SequenceView.ofList [minusZero]).run .start
    let w := (SequenceView.ofList [(⟨0⟩ : Binary64)]).run v.2
    let m := (MappingView.ofList [(1, nan)]).run w.2
    let separate := (MappingView.ofList [(1, nan)]).run m.2
    (v.1 == w.1) = true ∧ (m.1 == m.1) ≠ (m.1 == separate.1) := by
  intro minusZero nan v w m separate
  have first : History SequenceView.Made v.2 [v.1] :=
    .make (.start .start) (SequenceView.made_ofList _ _)
  have second : History SequenceView.Made w.2 [w.1, v.1] :=
    .make first (SequenceView.made_ofList _ _)
  have sequences : History SequenceView.Made separate.2 [w.1, v.1] :=
    .elsewhere second (by decide)
  have third : History MappingView.Made m.2 [m.1] :=
    .make (.start w.2) (MappingView.made_ofList _ _)
  have mappings : History MappingView.Made separate.2 [separate.1, m.1] :=
    .make third (MappingView.made_ofList _ _)
  obtain ⟨hsequences, -, hmappings⟩ :=
    equality_told_by_content (α := Binary64) (κ := Nat) (ν := Binary64) separate.2
  have hzeros := hsequences _ sequences v.1 (by simp) w.1 (by simp)
  have hnan := hmappings _ mappings m.1 (by simp) m.1 (by simp)
  refine ⟨hzeros.equal_iff.mpr (.inr ?_), fun hequal => ?_⟩
  · exact .cons (by decide) .nil
  · have hself := (hnan.clone_iff_separate separate.1 (by decide) fun _ => rfl).mp hequal
    exact absurd (hself nan (List.mem_singleton_self nan)) (by decide)

theorem clone_of_nan_equal_without_equal_elements :
    let nan : Binary64 := ⟨0x7ff8000000000000⟩
    let v := (SequenceView.ofList [nan]).run .start
    let separate := (SequenceView.ofList [nan]).run v.2
    History SequenceView.Made separate.2 [separate.1, v.1, v.1] ∧
      (v.1 == v.1) = true ∧ ¬ Pointwise v.1.elements v.1.elements ∧
      separate.1.elements = v.1.elements ∧ (v.1 == separate.1) = false := by
  intro nan v separate
  have first : History SequenceView.Made v.2 [v.1] :=
    .make (.start .start) (SequenceView.made_ofList _ _)
  refine ⟨?_, by decide, ?_, rfl, by decide⟩
  · exact .make (.clone first List.mem_cons_self) (SequenceView.made_ofList _ _)
  · rw [pointwise_self_iff]
    intro h
    exact absurd (h nan (List.mem_singleton_self nan)) (by decide)

end OptionalContainers
