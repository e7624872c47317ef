import OptionalContainers.Proofs.View.SetConstruction
import OptionalContainers.Search

namespace OptionalContainers

variable {α β : Type}

theorem contains_some_fst [Probe α β] [BEq β] (xs : List α) (probe : β) :
    (contains (some xs) probe).1 = xs.any (Probe.form · == probe) := by
  simp only [contains, seekIn, seek_fst]
  rw [Bool.eq_iff_iff, List.find?_isSome, List.any_eq_true]

namespace SetView

variable [Probe α β] [BEq α] [Hashable α] [BEq β] [Hashable β] [LawfulProbe α β]
  [LawfulHashable β] {v : SetView α}

theorem contains_eq_any (h : v.stored.Filled Stage.Sound) (probe : β) :
    v.contains probe = v.elements.any (Probe.form · == probe) := by
  obtain ⟨stored, filled⟩ := v
  cases stored with
  | empty => rfl
  | held cell stage => exact Stage.contains_eq_any h probe

theorem Made.contains_iff_exists_element [LawfulHashable α] {journal later : Journal}
    {xs : List α} (made : Made journal v later xs) (probe : β) :
    (v.contains probe = true ↔ ∃ x ∈ v.elements, (Probe.form x == probe) = true) ∧
      (hasMember v probe = true ↔ ∃ x ∈ v.elements, (Probe.form x == probe) = true) ∧
      (PartialEquivBEq β → v.contains probe = (OptionalContainers.contains (some xs) probe).1 ∧
        hasMember v probe = (OptionalContainers.contains (some xs) probe).1) := by
  have hany := contains_eq_any made.sound probe
  have hmember : hasMember v probe = v.contains probe := rfl
  have hexists : v.contains probe = true ↔ ∃ x ∈ v.elements, (Probe.form x == probe) = true := by
    rw [hany, List.any_eq_true]
  refine ⟨hexists, hmember ▸ hexists, fun _ => ?_⟩
  have hrespects : ∀ a b : α, (a == b) = true → (Probe.form b == probe) = true →
      (Probe.form a == probe) = true := by
    intro a b hab hb
    rw [← LawfulProbe.form_beq (β := β)] at hab
    exact PartialEquivBEq.trans hab hb
  rw [hmember, hany, made.elements_eq, contains_some_fst, any_firstOccurrences hrespects]
  exact ⟨rfl, rfl⟩

theorem contains_slice_among_digits :
    let digits := ["0", "1", "2", "3", "4", "5", "6", "7", "8", "9", "3"]
    let v := ((collectWith 0 digits).run .start).1
    v.contains "7".toSlice = true ∧ v.contains "10".toSlice = false := by
  intro digits v
  have made := made_collectWith 0 digits .start
  have hseven := (made.contains_iff_exists_element "7".toSlice).2.2 inferInstance
  have hten := (made.contains_iff_exists_element "10".toSlice).2.2 inferInstance
  rw [hseven.1, hten.1, contains_some_fst, contains_some_fst]
  simp [digits, Probe.form, String.Slice.beq_eq_decide]

end SetView

end OptionalContainers
