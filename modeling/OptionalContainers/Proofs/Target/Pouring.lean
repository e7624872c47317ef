import OptionalContainers.Container.Limited
import OptionalContainers.Merge
import OptionalContainers.Proofs.Target.Requests

namespace OptionalContainers

variable {σ α ρ ω : Type}

section

variable {add : α → EStateM Fault σ Bool} {target reached final : σ}
  {before made unmade : List α} {answers : List Bool} {outcome : Except Fault (List Bool)}

theorem pourEach_append_of_granted (h : Granted add target before answers reached)
    (more : List α) :
    pourEach add (before ++ more) target =
      (pourEach add more reached).counted (answers.count true) := by
  induction h with
  | nil target => exact (Poured.counted_zero _).symm
  | @cons target grown final x rest answer answers hx hrest ih =>
      have hcount : (answer :: answers).count true = answers.count true + answer.toNat := by
        cases answer <;> simp
      rw [List.cons_append, pourEach_cons_ok hx, ih, Poured.counted_counted, hcount]

theorem pourEach_of_requested (h : Requested add target made unmade outcome final) :
    pourEach add (made ++ unmade) target = ⟨outcome.map (·.count true), final, unmade⟩ := by
  cases h with
  | @granted made answers final h =>
      rw [pourEach_append_of_granted h, pourEach_nil, Poured.counted, Except.map, Nat.zero_add]
      rfl
  | @refused before unmade x answers reached refusing fault h hx =>
      rw [List.append_assoc, pourEach_append_of_granted h, List.singleton_append,
        pourEach_cons_error hx]
      rfl

end

def PoursEach (σ : Type) {α : Type} [ElementTarget σ α] : Prop :=
  ∀ (xs : List α) (target : σ),
    ElementTarget.addAll xs target = pourEach ElementTarget.add xs target

def arrayEvents (offered : Nat) : Except Fault Nat → List Event
  | .ok changed => [.arrayMerged offered changed]
  | .error _ => []

section

variable [ElementTarget σ α] [Items ρ α] [Items ω α]

theorem run_mergeArray (array : Option ρ) (target : σ) (journal : Journal) :
    (mergeArray array (some target)).run journal =
      let poured := ElementTarget.addAll (offered array) target
      (⟨poured.outcome.map fun _ => (), some poured.target⟩,
        journal.extended (arrayEvents (offered array).length poured.outcome)) := by
  simp only [mergeArray]
  cases (ElementTarget.addAll (offered array) target).outcome with
  | ok changed => rfl
  | error fault =>
      rw [arrayEvents, Journal.extended_nil]
      rfl

def mergeInTurn (first : Option ρ) (second : Option ω) (target : Option σ) :
    Journaled (Merged σ) := do
  let merged ← mergeArray first target
  match merged.outcome with
  | .ok () => mergeArray second merged.target
  | .error _ => pure merged

theorem mergeArray_of_requested (h : PoursEach σ) {array : Option ρ} {target final : σ}
    {made unmade : List α} {outcome : Except Fault (List Bool)}
    (hrun : Requested ElementTarget.add target made unmade outcome final)
    (harray : offered array = made ++ unmade) (journal : Journal) :
    (mergeArray array (some target)).run journal =
      (⟨outcome.map fun _ => (), some final⟩,
        journal.extended
          (arrayEvents (offered array).length (outcome.map (·.count true)))) := by
  rw [run_mergeArray, h, harray, pourEach_of_requested hrun]
  cases outcome <;> rfl

theorem mergeArray_append {χ : Type} [Items χ α] (h : PoursEach σ) {first : Option ρ}
    {second : Option ω} {whole : Option χ}
    (hwhole : offered whole = offered first ++ offered second) (target : Option σ)
    (journal : Journal) :
    ((mergeArray whole target).run journal).1 =
      ((mergeInTurn first second target).run journal).1 := by
  cases target with
  | none => rfl
  | some target =>
      obtain ⟨made, unmade, outcome, reached, hfirst, hrun⟩ :=
        exists_requested ElementTarget.add (offered first) target
      have hmerged := mergeArray_of_requested h hrun hfirst.symm journal
      rw [mergeInTurn, StateT.run_bind, hmerged]
      cases hrun with
      | @granted made answers reached hgranted =>
          rw [List.append_nil] at hfirst
          have hpoured : pourEach ElementTarget.add (offered whole) target =
              (pourEach ElementTarget.add (offered second) reached).counted
                (answers.count true) := by
            rw [hwhole, ← hfirst, pourEach_append_of_granted hgranted]
          rw [run_mergeArray, h, hpoured]
          show _ = ((mergeArray second (some reached)).run _).1
          rw [run_mergeArray, h]
          cases hsecond : (pourEach ElementTarget.add (offered second) reached).outcome <;>
            simp [Poured.counted, hsecond, Except.map]
      | @refused before unmade x answers reached refusing fault hgranted hx =>
          have hunmade : offered whole = (before ++ [x]) ++ (unmade ++ offered second) := by
            rw [hwhole, ← hfirst, List.append_assoc _ unmade]
          rw [mergeArray_of_requested h (.refused hgranted hx) hunmade]
          rfl

end

theorem pouring_ends_at_first_refusal {χ : Type} [ElementTarget σ α] [Items ρ α] [Items ω α]
    [Items χ α] :
    (PoursEach σ →
      (∀ (xs : List α) (target : σ), ∃ made unmade outcome final,
          made ++ unmade = xs ∧ Requested ElementTarget.add target made unmade outcome final) ∧
        (∀ {target final : σ} {made unmade : List α} {outcome : Except Fault (List Bool)},
          Requested ElementTarget.add target made unmade outcome final →
            ElementTarget.addAll (made ++ unmade) target =
                ⟨outcome.map (·.count true), final, unmade⟩ ∧
              ElementTarget.addAll (made ++ unmade) (⟨target, []⟩ : Watched σ α) =
                ⟨outcome.map (·.count true), ⟨final, made⟩, unmade⟩ ∧
              ∀ (array : Option ρ) (journal : Journal), offered array = made ++ unmade →
                (mergeArray array (some target)).run journal =
                  (⟨outcome.map fun _ => (), some final⟩,
                    journal.extended
                      (arrayEvents (offered array).length (outcome.map (·.count true))))) ∧
        ∀ (first : Option ρ) (second : Option ω) (whole : Option χ) (target : Option σ)
          (journal : Journal), offered whole = offered first ++ offered second →
            ((mergeArray whole target).run journal).1 =
              ((mergeInTurn first second target).run journal).1) ∧
      ∀ (array : Option ρ) (journal : Journal),
        (mergeArray array (none : Option σ)).run journal =
          (⟨.error (.absentTarget "collection"), none⟩, journal) := by
  refine ⟨fun h => ⟨exists_requested ElementTarget.add, ?_, ?_⟩, fun _ _ => rfl⟩
  · intro target final made unmade outcome hrun
    have hwatched := pourEach_of_requested (hrun.watch [])
    refine ⟨(h _ target).trans (pourEach_of_requested hrun), hwatched, ?_⟩
    exact fun array journal harray => mergeArray_of_requested h hrun harray journal
  · exact fun first second whole target journal hwhole => mergeArray_append h hwhole target journal

theorem limited_pouring_ends_at_fourth_element :
    let start : LimitedSequence (Option Nat) := ⟨3, [some 0]⟩
    let full : LimitedSequence (Option Nat) := ⟨3, [some 0, some 1, some 2]⟩
    let made : List (Option Nat) := [some 1, none, some 2, some 3]
    let fault : Fault := .unsupported "add" "Bounded"
    Requested ElementTarget.add start made [some 4] (.error fault) full ∧
      ElementTarget.addAll (made ++ [some 4]) start = ⟨.error fault, full, [some 4]⟩ ∧
      ElementTarget.addAll (made ++ [some 4]) (⟨start, []⟩ : Watched _ (Option Nat)) =
        ⟨.error fault, ⟨full, made⟩, [some 4]⟩ ∧
      (mergeArray (some (made ++ [some 4])) (some start)).run .start =
        (⟨.error fault, some full⟩, .start) ∧
      ((mergeInTurn (some made.toArray) (some [some 4]) (some start)).run .start).1 =
        ⟨.error fault, some full⟩ := by
  intro start full made fault
  obtain ⟨hpours, -⟩ := pouring_ends_at_first_refusal (σ := LimitedSequence (Option Nat))
    (ρ := Array (Option Nat)) (ω := List (Option Nat)) (χ := List (Option Nat))
  obtain ⟨-, hruns, hturns⟩ := hpours fun _ _ => rfl
  have hgranted : Granted ElementTarget.add start [some 1, none, some 2] [true, false, true] full :=
    .cons rfl (.cons rfl (.cons rfl (.nil full)))
  have hrun : Requested ElementTarget.add start made [some 4] (.error fault) full :=
    .refused hgranted rfl
  obtain ⟨hpoured, hwatched, hmerged⟩ := hruns hrun
  have hwhole := hmerged (some (made ++ [some 4]).toArray) .start rfl
  have hturn := hturns (some made.toArray) (some [some 4]) (some (made ++ [some 4])) (some start)
    .start rfl
  refine ⟨hrun, hpoured, hwatched, hwhole, ?_⟩
  exact hturn.symm.trans (congrArg Prod.fst hwhole)

end OptionalContainers
