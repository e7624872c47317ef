import OptionalContainers.Journal
import OptionalContainers.Property.Store

namespace OptionalContainers

structure Merged (σ : Type) where
  outcome : Except Fault Unit
  target : Option σ

variable {σ ρ α : Type}

def mergeArray [Items ρ α] [ElementTarget σ α] (array : Option ρ) :
    Option σ → Journaled (Merged σ)
  | none => pure ⟨.error (.absentTarget "collection"), none⟩
  | some target => do
      let poured := ElementTarget.addAll (offered array) target
      match poured.outcome with
      | .error fault => pure ⟨.error fault, some poured.target⟩
      | .ok changed =>
          report (.arrayMerged (offered array).length changed)
          pure ⟨.ok (), some poured.target⟩

structure Tally where
  copied : Nat
  skipped : Nat
  deriving DecidableEq, Repr

def putNames [MappingTarget σ String Property.Value] (store : Property.Store) (tally : Tally) :
    List String → EStateM Fault σ Tally
  | [] => pure tally
  | name :: rest => do
      match store.resolve name with
      | some value =>
          let _ ← MappingTarget.put name value
          putNames store { tally with copied := tally.copied + 1 } rest
      | none => putNames store { tally with skipped := tally.skipped + 1 } rest

section

variable [MappingTarget σ String Property.Value] {store : Property.Store} {tally : Tally}
  {name : String} {rest : List String}

theorem putNames_cons_none (h : store.resolve name = none) :
    (putNames store tally (name :: rest) : EStateM Fault σ Tally) =
      putNames store { tally with skipped := tally.skipped + 1 } rest := by
  simp only [putNames, h]

theorem putNames_cons_ok {value : Property.Value} {previous : Option Property.Value}
    {target grown : σ} (h : store.resolve name = some value)
    (hput : MappingTarget.put name value target = .ok previous grown) :
    putNames store tally (name :: rest) target =
      putNames store { tally with copied := tally.copied + 1 } rest grown := by
  simp only [putNames, h, bind, EStateM.bind, hput]

theorem putNames_cons_error {value : Property.Value} {fault : Fault} {target refusing : σ}
    (h : store.resolve name = some value)
    (hput : MappingTarget.put name value target = .error fault refusing) :
    putNames store tally (name :: rest) target = .error fault refusing := by
  simp only [putNames, h, bind, EStateM.bind, hput]

end

def mergeProperties [MappingTarget σ String Property.Value] (store : Option Property.Store)
    (target : Option σ) : Journaled (Merged σ) :=
  match target, store with
  | none, _ => pure ⟨.error (.absentTarget "map"), none⟩
  | some target, none => pure ⟨.ok (), some target⟩
  | some target, some store =>
      match putNames store ⟨0, 0⟩ store.names target with
      | .error fault target => pure ⟨.error fault, some target⟩
      | .ok tally target => do
          report (.propertiesMerged tally.copied tally.skipped)
          pure ⟨.ok (), some target⟩

end OptionalContainers
