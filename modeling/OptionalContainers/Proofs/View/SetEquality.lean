import OptionalContainers.Proofs.Distinct.Covering
import OptionalContainers.Proofs.View.SetMembership

namespace OptionalContainers.SetView

variable {α : Type} [BEq α]

structure Handle (α : Type) [BEq α] where
  inputs : List α
  view : SetView α
  [hashing : Hashable α]
  [lawful : LawfulHashable α]

namespace Handle

def has (h : Handle α) (x : α) : Bool :=
  letI := h.hashing
  h.view.contains x

-- The elements of the left are looked up on the right, by the hash of the right.
def equals (a b : Handle α) : Bool :=
  letI := b.hashing
  a.view == b.view

theorem equals_eq (a b : Handle α) :
    a.equals b = (a.view.shares b.view ||
      (a.view.length == b.view.length && a.view.elements.all b.has)) := rfl

end Handle

inductive Session : Journal → List (Handle α) → Prop
  | start (journal : Journal) : Session journal []
  | elsewhere {journal later : Journal} {handles : List (Handle α)}
      (session : Session journal handles) (h : journal.nextCell ≤ later.nextCell) :
      Session later handles
  | make [Hashable α] [LawfulHashable α] {journal later : Journal} {handles : List (Handle α)}
      {v : SetView α} {xs : List α} (session : Session journal handles)
      (made : Made journal v later xs) : Session later (⟨xs, v⟩ :: handles)

namespace Session

variable {journal : Journal} {handles : List (Handle α)}

theorem exists_made (session : Session journal handles) {h : Handle α} (hh : h ∈ handles) :
    letI := h.hashing
    ∃ before after : Journal, after.nextCell ≤ journal.nextCell ∧
      Made before h.view after h.inputs := by
  induction session with
  | start => cases hh
  | elsewhere _ hle ih =>
      obtain ⟨before, after, hafter, made⟩ := ih hh
      exact ⟨before, after, Nat.le_trans hafter hle, made⟩
  | make _ made ih =>
      rcases List.mem_cons.mp hh with rfl | hh
      · exact ⟨_, _, Nat.le_refl _, made⟩
      · obtain ⟨before, after, hafter, old⟩ := ih hh
        exact ⟨before, after, Nat.le_trans hafter made.nextCell_le, old⟩

theorem elements_eq (session : Session journal handles) {h : Handle α} (hh : h ∈ handles) :
    h.view.elements = firstOccurrences h.inputs := by
  let := h.hashing
  have := h.lawful
  obtain ⟨_, _, -, made⟩ := session.exists_made hh
  exact made.elements_eq

theorem has_eq_scan (session : Session journal handles) {h : Handle α} (hh : h ∈ handles)
    (x : α) : h.has x = scan h.view.elements x := by
  let := h.hashing
  have := h.lawful
  obtain ⟨_, _, -, made⟩ := session.exists_made hh
  exact contains_eq_any made.sound x

theorem cell_lt (session : Session journal handles) {h : Handle α} (hh : h ∈ handles)
    {cell : Nat} {stage : Stage α} (hcell : h.view.stored = .held cell stage) :
    cell < journal.nextCell := by
  let := h.hashing
  have := h.lawful
  obtain ⟨_, _, hafter, made⟩ := session.exists_made hh
  obtain ⟨rfl, hnext⟩ := made.cell_eq hcell
  omega

theorem elements_eq_of_made_shares [Hashable α] [LawfulHashable α] {later : Journal} {v : SetView α}
    {xs : List α} (session : Session journal handles) (made : Made journal v later xs)
    {h : Handle α} (hh : h ∈ handles) (hshares : v.shares h.view = true) :
    v.elements = h.view.elements := by
  obtain ⟨hv, hold⟩ | ⟨cell, stage, old, hv, hold⟩ := Stored.shares_cases hshares
  · simp only [elements, hv, hold]
  · have hlt := session.cell_lt hh hold
    have heq := (made.cell_eq hv).1
    omega

theorem elements_eq_of_shares (session : Session journal handles) {a b : Handle α}
    (ha : a ∈ handles) (hb : b ∈ handles) (hshares : a.view.shares b.view = true) :
    a.view.elements = b.view.elements := by
  induction session with
  | start => cases ha
  | elsewhere _ _ ih => exact ih ha hb
  | make session made ih =>
      rcases List.mem_cons.mp ha with rfl | ha <;> rcases List.mem_cons.mp hb with rfl | hb
      · rfl
      · exact session.elements_eq_of_made_shares made hb hshares
      · rw [shares, Stored.shares_comm] at hshares
        exact (session.elements_eq_of_made_shares made ha hshares).symm
      · exact ih ha hb

theorem distinct_elements (session : Session journal handles) {h : Handle α} (hh : h ∈ handles) :
    Distinct h.view.elements := by
  rw [session.elements_eq hh]
  exact distinct_firstOccurrences h.inputs

variable [EquivBEq α]

theorem equals_iff_covers (session : Session journal handles) {a b : Handle α}
    (ha : a ∈ handles) (hb : b ∈ handles) :
    a.equals b = true ↔
      Covers b.view.elements a.view.elements ∧ Covers a.view.elements b.view.elements := by
  have hall : a.view.elements.all b.has = true ↔ Covers b.view.elements a.view.elements := by
    simp only [List.all_eq_true, session.has_eq_scan hb, Covers]
  have hcount := length_eq_and_covers_iff (session.distinct_elements ha)
    (session.distinct_elements hb)
  rw [Handle.equals_eq, Bool.or_eq_true, Bool.and_eq_true, beq_iff_eq, hall, length, length, hcount]
  constructor
  · rintro (hshares | hcovers)
    · rw [session.elements_eq_of_shares ha hb hshares]
      exact ⟨covers_self _, covers_self _⟩
    · exact hcovers
  · exact .inr

theorem scan_elements (session : Session journal handles) {h : Handle α} (hh : h ∈ handles)
    (x : α) : scan h.view.elements x = scan h.inputs x := by
  rw [session.elements_eq hh, scan_firstOccurrences]

theorem equals_iff_inputs (session : Session journal handles) {a b : Handle α}
    (ha : a ∈ handles) (hb : b ∈ handles) :
    a.equals b = true ↔ ∀ x, scan a.inputs x = scan b.inputs x := by
  rw [session.equals_iff_covers ha hb, and_comm, mutual_covers_iff]
  simp only [session.scan_elements ha, session.scan_elements hb]

theorem equals_iff_mutual_containment (session : Session journal handles) {a b c : Handle α}
    (ha : a ∈ handles) (hb : b ∈ handles) (hc : c ∈ handles) :
    (a.equals b = true ↔
        (∀ x ∈ a.view.elements, b.has x = true) ∧ ∀ x ∈ b.view.elements, a.has x = true) ∧
      a.equals a = true ∧
      a.equals b = b.equals a ∧
      (a.equals b = true → b.equals c = true → a.equals c = true) ∧
      (a.equals b = true ↔ ∀ x, scan a.inputs x = scan b.inputs x) := by
  have hab := session.equals_iff_inputs ha hb
  have hba := session.equals_iff_inputs hb ha
  have hbc := session.equals_iff_inputs hb hc
  have hac := session.equals_iff_inputs ha hc
  refine ⟨?_, ?_, ?_, ?_, hab⟩
  · simp only [session.has_eq_scan ha, session.has_eq_scan hb]
    exact session.equals_iff_covers ha hb
  · exact (session.equals_iff_inputs ha ha).mpr fun _ => rfl
  · rw [Bool.eq_iff_iff, hab, hba]
    exact ⟨fun h x => (h x).symm, fun h x => (h x).symm⟩
  · intro h h'
    exact hac.mpr fun x => (hab.mp h x).trans (hbc.mp h' x)

theorem equals_under_colliding_hash :
    let upwards := List.range 10
    let first := (collectWith 0 upwards).run .start
    let a : Handle Nat := ⟨upwards, first.1⟩
    let downwards := 3 :: upwards.reverse
    let _colliding : Hashable Nat := ⟨fun _ => 0⟩
    let _lawful : LawfulHashable Nat := ⟨fun _ _ _ => rfl⟩
    let second := (collectWith 64 downwards).run first.2
    let b : Handle Nat := ⟨downwards, second.1⟩
    a.equals b = true ∧ b.equals a = true := by
  intro upwards first a
  have before : Session first.2 [a] := .make (.start .start) (made_collectWith 0 upwards .start)
  intro downwards colliding lawful second b
  have session : Session second.2 [b, a] :=
    .make before (made_collectWith 64 downwards first.2)
  have hsame : ∀ x, scan a.inputs x = scan b.inputs x := by
    intro x
    rw [Bool.eq_iff_iff, scan_eq_true_iff, scan_eq_true_iff]
    simp [a, b, upwards, downwards]
    omega
  obtain ⟨-, -, hsymm, -, hinputs⟩ :=
    session.equals_iff_mutual_containment (a := a) (b := b) (c := a) (by simp) (by simp) (by simp)
  have hequal : a.equals b = true := hinputs.mpr hsame
  exact ⟨hequal, hsymm ▸ hequal⟩

end Session

end OptionalContainers.SetView
