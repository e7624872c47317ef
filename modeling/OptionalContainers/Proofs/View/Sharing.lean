import OptionalContainers.View.Mapping
import OptionalContainers.View.Shaped

namespace OptionalContainers

variable {σ υ α κ ν : Type}

def Stored.Placed (journal : Journal) (s : Stored σ) (later : Journal) : Prop :=
  (s = .empty ∧ journal.nextCell ≤ later.nextCell) ∨
    ∃ content, s = .held journal.nextCell content ∧ journal.nextCell < later.nextCell

theorem Stored.Placed.nextCell_le {s : Stored σ} {journal later : Journal}
    (h : s.Placed journal later) : journal.nextCell ≤ later.nextCell := by
  rcases h with ⟨-, hle⟩ | ⟨-, -, hlt⟩
  · exact hle
  · exact Nat.le_of_lt hlt

-- Views of other kinds take cells of the same journal between two makes.
inductive History (Made : Journal → υ → Journal → Prop) : Journal → List υ → Prop
  | start (journal : Journal) : History Made journal []
  | elsewhere {journal later : Journal} {views : List υ} (history : History Made journal views)
      (h : journal.nextCell ≤ later.nextCell) : History Made later views
  | make {journal later : Journal} {views : List υ} {v : υ} (history : History Made journal views)
      (made : Made journal v later) : History Made later (v :: views)
  | clone {journal : Journal} {views : List υ} {v : υ} (history : History Made journal views)
      (hv : v ∈ views) : History Made journal (v :: views)

namespace History

variable {Made : Journal → υ → Journal → Prop} {stored : υ → Stored σ} {journal : Journal}
  {views : List υ}

theorem cell_lt (history : History Made journal views)
    (placed : ∀ {before v after}, Made before v after → (stored v).Placed before after)
    {v : υ} (hv : v ∈ views) {cell : Nat} {content : σ} (h : stored v = .held cell content) :
    cell < journal.nextCell := by
  induction history with
  | start => cases hv
  | elsewhere _ hle ih => exact Nat.lt_of_lt_of_le (ih hv) hle
  | make _ made ih =>
      rcases List.mem_cons.mp hv with rfl | hv
      · rcases placed made with ⟨hempty, -⟩ | ⟨_, hheld, hlt⟩
        · cases hempty.symm.trans h
        · cases hheld.symm.trans h
          exact hlt
      · exact Nat.lt_of_lt_of_le (ih hv) (placed made).nextCell_le
  | clone _ hold ih =>
      rcases List.mem_cons.mp hv with rfl | hv
      · exact ih hold
      · exact ih hv

theorem stored_eq_of_made (history : History Made journal views)
    (placed : ∀ {before v after}, Made before v after → (stored v).Placed before after)
    {later : Journal} {v w : υ} (made : Made journal v later) (hw : w ∈ views)
    (h : (stored v).shares (stored w) = true) : stored v = stored w := by
  obtain ⟨hv, hold⟩ | ⟨cell, content, old, hv, hold⟩ := Stored.shares_cases h
  · rw [hv, hold]
  · have hlt : cell < journal.nextCell := history.cell_lt placed hw hold
    rcases placed made with ⟨hempty, -⟩ | ⟨_, hheld, -⟩
    · cases hempty.symm.trans hv
    · cases hheld.symm.trans hv
      exact absurd hlt (Nat.lt_irrefl _)

theorem stored_eq_of_shares (history : History Made journal views)
    (placed : ∀ {before v after}, Made before v after → (stored v).Placed before after)
    {v w : υ} (hv : v ∈ views) (hw : w ∈ views) (h : (stored v).shares (stored w) = true) :
    stored v = stored w := by
  induction history generalizing v w with
  | start => cases hv
  | elsewhere _ _ ih => exact ih hv hw h
  | make history made ih =>
      rcases List.mem_cons.mp hv with rfl | hv' <;> rcases List.mem_cons.mp hw with rfl | hw'
      · rfl
      · exact history.stored_eq_of_made placed made hw' h
      · rw [Stored.shares_comm] at h
        exact (history.stored_eq_of_made placed made hv' h).symm
      · exact ih hv' hw' h
  | clone _ hold ih =>
      rcases List.mem_cons.mp hv with rfl | hv' <;> rcases List.mem_cons.mp hw with rfl | hw'
      · rfl
      · exact ih hold hw' h
      · exact ih hv' hold h
      · exact ih hv' hw' h

end History

namespace SequenceView

inductive Made (journal : Journal) (v : SequenceView α) (later : Journal) : Prop
  | empty (h : (pure ∅ : Journaled (SequenceView α)).run journal = (v, later))
  | collected (xs : List α) (h : (ofList xs).run journal = (v, later))
  | copied {ρ : Type} [Items ρ α] (array : Option ρ)
      (h : (ofArray array).run journal = (v, later))
  | wrapped (xs : List α) (h : (wrap (some xs)).run journal = (some v, later))
  | shaped [BEq α] [Hashable α] (xs : List α)
      (h : (ShapedView.wrap (some (.sequence xs))).run journal = (some (.sequence v), later))

theorem made_ofList (xs : List α) (journal : Journal) :
    Made journal ((ofList xs).run journal).1 ((ofList xs).run journal).2 :=
  .collected xs rfl

variable {journal later : Journal} {v : SequenceView α}

theorem Made.exists_ofList (made : Made journal v later) :
    ∃ xs : List α, (ofList xs).run journal = (v, later) := by
  cases made with
  | empty h => exact ⟨[], h⟩
  | collected xs h => exact ⟨xs, h⟩
  | copied array h => exact ⟨offered array, h⟩
  | wrapped xs h =>
      obtain ⟨hv, rfl⟩ := Prod.mk.inj h
      obtain rfl := Option.some.inj hv
      exact ⟨xs, rfl⟩
  | shaped xs h =>
      obtain ⟨hv, rfl⟩ := Prod.mk.inj h
      obtain rfl := ShapedView.sequence.inj (Option.some.inj hv)
      exact ⟨xs, rfl⟩

theorem placed_ofList {xs : List α} (h : (ofList xs).run journal = (v, later)) :
    v.stored.Placed journal later := by
  cases xs with
  | nil =>
      obtain ⟨rfl, rfl⟩ := Prod.mk.inj h
      exact .inl ⟨rfl, Nat.le_refl _⟩
  | cons x rest =>
      obtain ⟨rfl, rfl⟩ := Prod.mk.inj h
      exact .inr ⟨x :: rest, rfl, Nat.lt_succ_self _⟩

theorem Made.placed (made : Made journal v later) : v.stored.Placed journal later := by
  obtain ⟨_, h⟩ := made.exists_ofList
  exact placed_ofList h

end SequenceView

namespace TraversalView

inductive Made (journal : Journal) (v : TraversalView α) (later : Journal) : Prop
  | empty (h : (pure ∅ : Journaled (TraversalView α)).run journal = (v, later))
  | collected (xs : List α) (h : (ofList xs).run journal = (v, later))
  | shaped [BEq α] [Hashable α] (xs : List α)
      (h : (ShapedView.wrap (some (.traversal xs))).run journal = (some (.traversal v), later))

variable {journal later : Journal} {v : TraversalView α}

theorem Made.exists_ofList (made : Made journal v later) :
    ∃ xs : List α, (SequenceView.ofList xs).run journal = (v.sequence, later) := by
  cases made with
  | empty h =>
      obtain ⟨rfl, rfl⟩ := Prod.mk.inj h
      exact ⟨[], rfl⟩
  | collected xs h =>
      obtain ⟨rfl, rfl⟩ := Prod.mk.inj h
      exact ⟨xs, rfl⟩
  | shaped xs h =>
      obtain ⟨hv, rfl⟩ := Prod.mk.inj h
      obtain rfl := ShapedView.traversal.inj (Option.some.inj hv)
      exact ⟨xs, rfl⟩

theorem Made.placed (made : Made journal v later) : v.sequence.stored.Placed journal later := by
  obtain ⟨_, h⟩ := made.exists_ofList
  exact SequenceView.placed_ofList h

end TraversalView

namespace MappingView

variable [BEq κ]

inductive Made (journal : Journal) (v : MappingView κ ν) (later : Journal) : Prop
  | empty (h : (pure ∅ : Journaled (MappingView κ ν)).run journal = (v, later))
  | held (m : HashedMap κ ν) (h : (ofMap m).run journal = (v, later))
  | collected (entries : List (κ × ν)) (h : (ofList entries).run journal = (v, later))
  | wrapped (m : HashedMap κ ν) (h : (wrap (some m)).run journal = (some v, later))

theorem made_ofList (entries : List (κ × ν)) (journal : Journal) :
    Made journal ((ofList entries).run journal).1 ((ofList entries).run journal).2 :=
  .collected entries rfl

variable {journal later : Journal} {v : MappingView κ ν}

theorem Made.exists_ofMap (made : Made journal v later) :
    ∃ m : HashedMap κ ν, (ofMap m).run journal = (v, later) := by
  cases made with
  | empty h => exact ⟨.empty, h⟩
  | held m h => exact ⟨m, h⟩
  | collected entries h => exact ⟨.ofList entries, h⟩
  | wrapped m h =>
      obtain ⟨hv, rfl⟩ := Prod.mk.inj h
      obtain rfl := Option.some.inj hv
      exact ⟨m, rfl⟩

theorem Made.placed (made : Made journal v later) : v.stored.Placed journal later := by
  obtain ⟨m, h⟩ := made.exists_ofMap
  unfold ofMap at h
  split at h
  · obtain ⟨rfl, rfl⟩ := Prod.mk.inj h
    exact .inr ⟨m, rfl, Nat.lt_succ_self _⟩
  · obtain ⟨rfl, rfl⟩ := Prod.mk.inj h
    exact .inl ⟨rfl, Nat.le_refl _⟩

end MappingView

end OptionalContainers
