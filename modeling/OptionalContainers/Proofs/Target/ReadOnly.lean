import OptionalContainers.Enumeration.Drain
import OptionalContainers.Proofs.Target.Attempts
import OptionalContainers.View.Mapping
import OptionalContainers.View.Shaped

namespace OptionalContainers

variable {σ ε α κ ν : Type}

theorem refuses_readOnly (name : String) (target : σ) :
    letI : ElementTarget σ α := .readOnly name
    Refuses ElementAttempt.run ElementAttempt.operation name target := by
  refine refuses_of_step fun attempt journal => ?_
  cases attempt <;> rfl

theorem refuses_readOnly_entries (name : String) (target : σ) :
    letI : MappingTarget σ κ ν := .readOnly name
    Refuses EntryAttempt.run EntryAttempt.operation name target := by
  refine refuses_of_step fun attempt journal => ?_
  cases attempt <;> rfl

def ShapedView.targetName : ShapedView α → String
  | .sequence _ => "ImmutableList"
  | .set _ => "ImmutableSet"
  | .traversal _ => "ImmutableIterable"

theorem ShapedView.refuses (v : ShapedView α) :
    Refuses ElementAttempt.run ElementAttempt.operation v.targetName v := by
  refine refuses_of_step fun attempt journal => ?_
  cases v <;> cases attempt <;> rfl

inductive DrainAttempt (α : Type) : Type 1 where
  | element (attempt : ElementAttempt α)
  | removeLast

namespace DrainAttempt

def operation : DrainAttempt α → String
  | .element attempt => attempt.operation
  | .removeLast => "remove"

def run [Enumeration ε α] : DrainAttempt α → Drain ε → Journaled (Except Fault Answer × Drain ε)
  | .element attempt, target => attempt.run target
  | .removeLast, target => pure (concluded (fun _ => .done) (Drain.removeLast target))

end DrainAttempt

theorem Drain.refuses [Enumeration ε α] (d : Drain ε) :
    Refuses DrainAttempt.run DrainAttempt.operation "EnumerationIterator" d := by
  refine refuses_of_step fun attempt journal => ?_
  cases attempt with
  | element attempt => cases attempt <;> rfl
  | removeLast => rfl

theorem readOnly_targets_refuse [BEq κ] [Enumeration ε α] :
    (∀ v : SequenceView α,
        Refuses ElementAttempt.run ElementAttempt.operation "ImmutableList" v) ∧
      (∀ v : SetView α,
        Refuses ElementAttempt.run ElementAttempt.operation "ImmutableSet" v) ∧
      (∀ v : TraversalView α,
        Refuses ElementAttempt.run ElementAttempt.operation "ImmutableIterable" v) ∧
      (∀ v : ShapedView α,
        Refuses ElementAttempt.run ElementAttempt.operation v.targetName v) ∧
      (∀ v : MappingView κ ν,
        Refuses EntryAttempt.run EntryAttempt.operation "ImmutableMap" v) ∧
      (∀ d : Drain ε,
        Refuses DrainAttempt.run DrainAttempt.operation "EnumerationIterator" d) := by
  refine ⟨fun v => ?_, fun v => ?_, fun v => ?_, fun v => ?_, fun v => ?_, fun d => ?_⟩
  · exact refuses_readOnly "ImmutableList" v
  · exact refuses_readOnly "ImmutableSet" v
  · exact refuses_readOnly "ImmutableIterable" v
  · exact v.refuses
  · exact refuses_readOnly_entries "ImmutableMap" v
  · exact d.refuses

end OptionalContainers
