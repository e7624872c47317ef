import OptionalContainers.Merge

namespace OptionalContainers

universe u

variable {σ α κ ν β γ : Type} {ι : Type u}

inductive Answer where
  | changed (isChanged : Bool)
  | counted (changes : Nat)
  | done
  deriving DecidableEq, Repr

inductive ElementAttempt (α : Type) : Type 1 where
  | add (x : α)
  | addAll (xs : List α)
  | remove (x : α)
  | clear
  | mergeArray {ρ : Type} [Items ρ α] (array : Option ρ)

inductive EntryAttempt (κ ν : Type) where
  | put (k : κ) (v : ν)
  | removeKey (k : κ)
  | clear

def concluded (answer : β → γ) : EStateM.Result Fault σ β → Except Fault γ × σ
  | .ok result target => (.ok (answer result), target)
  | .error fault target => (.error fault, target)

namespace ElementAttempt

-- Merging an array asks its target to add all of it.
def operation : ElementAttempt α → String
  | .add _ => "add"
  | .addAll _ => "add_all"
  | .remove _ => "remove"
  | .clear => "clear"
  | @mergeArray _ _ _ _ => "add_all"

def run [ElementTarget σ α] : ElementAttempt α → σ → Journaled (Except Fault Answer × σ)
  | .add x, target => pure (concluded .changed (ElementTarget.add x target))
  | .addAll xs, target =>
      let poured := ElementTarget.addAll xs target
      pure (poured.outcome.map .counted, poured.target)
  | .remove x, target => pure (concluded .changed (ElementTarget.remove x target))
  | .clear, target => pure (concluded (fun _ => .done) (ElementTarget.clear target))
  | @mergeArray _ _ _ array, target => do
      let merged ← OptionalContainers.mergeArray array (some target)
      pure (merged.outcome.map fun _ => .done, merged.target.getD target)

end ElementAttempt

namespace EntryAttempt

def operation : EntryAttempt κ ν → String
  | .put _ _ => "put"
  | .removeKey _ => "remove"
  | .clear => "clear"

def run [MappingTarget σ κ ν] : EntryAttempt κ ν → σ → Journaled (Except Fault (Option ν) × σ)
  | .put k v, target => pure (concluded id (MappingTarget.put k v target))
  | .removeKey k, target => pure (concluded id (MappingTarget.removeKey k target))
  | .clear, target => pure (concluded (fun _ => none) (MappingTarget.clearEntries target))

end EntryAttempt

def attemptAll (run : ι → σ → Journaled (Except Fault β × σ)) :
    List ι → σ → Journaled (List (Except Fault β) × σ)
  | [], target => pure ([], target)
  | attempt :: rest, target => do
      let (answer, left) ← run attempt target
      let (answers, final) ← attemptAll run rest left
      pure (answer :: answers, final)

section

variable {run : ι → σ → Journaled (Except Fault β × σ)} {attempt : ι} {rest : List ι}
  {target left final : σ} {answer : Except Fault β} {answers : List (Except Fault β)}
  {journal between later : Journal}

theorem attemptAll_cons (hstep : (run attempt target).run journal = ((answer, left), between))
    (hrest : (attemptAll run rest left).run between = ((answers, final), later)) :
    (attemptAll run (attempt :: rest) target).run journal =
      ((answer :: answers, final), later) := by
  rw [attemptAll, StateT.run_bind, hstep]
  show StateT.run (attemptAll run rest left >>= fun p => pure (answer :: p.1, p.2)) between = _
  rw [StateT.run_bind, hrest]
  rfl

end

def Refuses (run : ι → σ → Journaled (Except Fault β × σ)) (operation : ι → String)
    (name : String) (target : σ) : Prop :=
  ∀ (attempts : List ι) (journal : Journal),
    (attemptAll run attempts target).run journal =
      ((attempts.map fun attempt => .error (.unsupported (operation attempt) name), target),
        journal)

theorem refuses_of_step {run : ι → σ → Journaled (Except Fault β × σ)} {operation : ι → String}
    {name : String} {target : σ}
    (h : ∀ attempt journal, (run attempt target).run journal =
      ((.error (.unsupported (operation attempt) name), target), journal)) :
    Refuses run operation name target := by
  intro attempts journal
  induction attempts with
  | nil => rfl
  | cons attempt rest ih => exact attemptAll_cons (h attempt journal) ih

end OptionalContainers
