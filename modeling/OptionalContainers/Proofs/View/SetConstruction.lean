import OptionalContainers.Proofs.Distinct.Acceptance
import OptionalContainers.View.Shaped

namespace OptionalContainers

variable {α : Type}

theorem Draft.build_cases [BEq α] [Hashable α] {d : Draft α} {journal later : Journal}
    {v : SetView α} (h : d.build.run journal = (v, later)) :
    (d.elements = [] ∧ v = ∅ ∧ later.nextCell = journal.nextCell) ∨
      ∃ filled : d.stage.elements ≠ [],
        v = ⟨.held journal.nextCell d.stage, filled⟩ ∧
          later.nextCell = journal.nextCell + 1 := by
  simp only [build, StateT.run_bind] at h
  split at h
  next filled =>
    obtain ⟨rfl, rfl⟩ := Prod.mk.inj h
    exact .inr ⟨filled, rfl, rfl⟩
  next hempty =>
    obtain ⟨rfl, rfl⟩ := Prod.mk.inj h
    exact .inl ⟨Decidable.not_not.mp hempty, rfl, rfl⟩

namespace SetView

variable [BEq α] [Hashable α]

inductive Made (journal : Journal) (v : SetView α) (later : Journal) : List α → Prop
  | empty (h : (pure ∅ : Journaled (SetView α)).run journal = (v, later)) :
      Made journal v later []
  | built (capacity : Nat) (offers : List (Offer α))
      (h : ((Draft.withCapacity capacity).offerAll offers).build.run journal = (v, later)) :
      Made journal v later (offers.flatMap Offer.elements)
  | rebuilt (base : SetView α) (offers : List (Offer α))
      (h : (base.toDraft.offerAll offers).build.run journal = (v, later)) :
      Made journal v later (base.elements ++ offers.flatMap Offer.elements)
  | collected (capacity : Nat) (xs : List α)
      (h : (collectWith capacity xs).run journal = (v, later)) : Made journal v later xs
  | copied {σ : Type} [Items σ α] (container : Option σ)
      (h : (ofContainer container).run journal = (v, later)) :
      Made journal v later (offered container)
  | written (xs : List α) (h : (literal xs).run journal = (v, later)) : Made journal v later xs
  | concatenated {σ ρ : Type} [Items σ α] [Items ρ α] (expected : Nat) (container : Option σ)
      (appended : Option ρ)
      (h : (concatWith expected container appended).run journal = (v, later)) :
      Made journal v later (offered container ++ offered appended)
  | wrapped (s : HashedSet α) (h : (wrap (some s)).run journal = (some v, later)) :
      Made journal v later s.elements
  | shaped (s : HashedSet α)
      (h : (ShapedView.wrap (some (.set s))).run journal = (some (.set v), later)) :
      Made journal v later s.elements

theorem made_collectWith (capacity : Nat) (xs : List α) (journal : Journal) :
    Made journal ((collectWith capacity xs).run journal).1
      ((collectWith capacity xs).run journal).2 xs :=
  .collected capacity xs rfl

theorem made_collect (xs : List α) (journal : Journal) :
    Made journal ((collect xs).run journal).1 ((collect xs).run journal).2 xs :=
  made_collectWith xs.length xs journal

variable {journal later : Journal} {v : SetView α} {xs : List α} [LawfulHashable α]

theorem exists_build_of_collectWith {capacity : Nat}
    (h : (collectWith capacity xs).run journal = (v, later)) :
    ∃ (d : Draft α) (start : Journal), d.Holds (firstOccurrences xs) ∧
      start.nextCell = journal.nextCell ∧ d.build.run start = (v, later) :=
  ⟨_, journal, Draft.holds_extend_withCapacity capacity xs, rfl, h⟩

theorem Made.exists_build (made : Made journal v later xs) :
    (xs = [] ∧ v = ∅ ∧ later = journal) ∨
      ∃ (d : Draft α) (start : Journal), d.Holds (firstOccurrences xs) ∧
        start.nextCell = journal.nextCell ∧ d.build.run start = (v, later) := by
  cases made with
  | empty h =>
      obtain ⟨rfl, rfl⟩ := Prod.mk.inj h
      exact .inl ⟨rfl, rfl, rfl⟩
  | built capacity offers h =>
      refine .inr ⟨_, journal, ?_, rfl, h⟩
      rw [Draft.offerAll_eq_extend]
      exact Draft.holds_extend_withCapacity capacity _
  | rebuilt base offers h =>
      refine .inr ⟨_, journal, ?_, rfl, h⟩
      rw [Draft.offerAll_eq_extend, toDraft, ← Draft.extend_append]
      exact Draft.holds_extend_withCapacity base.length _
  | collected capacity _ h => exact .inr (exists_build_of_collectWith h)
  | copied container h =>
      cases container with
      | none =>
          obtain ⟨rfl, rfl⟩ := Prod.mk.inj h
          exact .inl ⟨rfl, rfl, rfl⟩
      | some c => exact .inr (exists_build_of_collectWith h)
  | written _ h =>
      cases xs with
      | nil =>
          obtain ⟨rfl, rfl⟩ := Prod.mk.inj h
          exact .inl ⟨rfl, rfl, rfl⟩
      | cons x rest => exact .inr (exists_build_of_collectWith h)
  | concatenated expected container appended h =>
      refine .inr ⟨_, _, ?_, ?_, h⟩
      · rw [← Draft.extend_append]
        exact Draft.holds_extend_withCapacity _ _
      · rfl
  | wrapped s h =>
      obtain ⟨hv, rfl⟩ := Prod.mk.inj h
      obtain rfl := Option.some.inj hv
      exact .inr (exists_build_of_collectWith rfl)
  | shaped s h =>
      obtain ⟨hv, rfl⟩ := Prod.mk.inj h
      obtain rfl := ShapedView.set.inj (Option.some.inj hv)
      exact .inr (exists_build_of_collectWith rfl)

theorem Made.stored_cases (made : Made journal v later xs) :
    (firstOccurrences xs = [] ∧ v = ∅ ∧ later.nextCell = journal.nextCell) ∨
      ∃ (stage : Stage α) (filled : stage.elements ≠ []), stage.Sound ∧
        stage.elements = firstOccurrences xs ∧ v = ⟨.held journal.nextCell stage, filled⟩ ∧
        later.nextCell = journal.nextCell + 1 := by
  obtain ⟨rfl, rfl, rfl⟩ | ⟨d, start, hd, hcell, hbuild⟩ := made.exists_build
  · exact .inl ⟨rfl, rfl, rfl⟩
  · rw [← hcell]
    obtain ⟨hempty, hv, hlater⟩ | ⟨filled, hv, hlater⟩ := Draft.build_cases hbuild
    · exact .inl ⟨hd.elements ▸ hempty, hv, hlater⟩
    · exact .inr ⟨d.stage, filled, hd.sound, hd.elements, hv, hlater⟩

theorem Made.elements_eq (made : Made journal v later xs) : v.elements = firstOccurrences xs := by
  obtain ⟨hempty, rfl, -⟩ | ⟨stage, filled, -, hstage, rfl, -⟩ := made.stored_cases
  · exact hempty.symm
  · exact hstage

theorem elements_collect_of_distinct (h : Distinct xs) (journal : Journal) :
    ((collect xs).run journal).1.elements = xs :=
  (made_collect xs journal).elements_eq.trans (firstOccurrences_of_distinct h)

theorem Made.sound (made : Made journal v later xs) : v.stored.Filled Stage.Sound := by
  obtain ⟨-, rfl, -⟩ | ⟨stage, filled, hsound, -, rfl, -⟩ := made.stored_cases
  · trivial
  · exact hsound

theorem Made.cell_eq (made : Made journal v later xs) {cell : Nat} {stage : Stage α}
    (h : v.stored = .held cell stage) :
    cell = journal.nextCell ∧ later.nextCell = journal.nextCell + 1 := by
  obtain ⟨-, rfl, -⟩ | ⟨content, filled, -, -, rfl, hlater⟩ := made.stored_cases
  · cases h
  · cases h
    exact ⟨rfl, hlater⟩

theorem Made.nextCell_le (made : Made journal v later xs) : journal.nextCell ≤ later.nextCell := by
  obtain ⟨-, -, hlater⟩ | ⟨-, -, -, -, -, hlater⟩ := made.stored_cases <;> omega

end SetView

end OptionalContainers
