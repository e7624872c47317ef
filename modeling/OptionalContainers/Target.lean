import OptionalContainers.Fault

namespace OptionalContainers

/-- What pouring elements into a target left: the count of changes or the fault that stopped it,
the target, and the elements that were never offered. -/
structure Poured (σ α : Type) where
  outcome : Except Fault Nat
  target : σ
  rest : List α

def Poured.mapTarget {σ τ α : Type} (f : σ → τ) (p : Poured σ α) : Poured τ α :=
  { p with target := f p.target }

def Poured.counted {σ α : Type} (p : Poured σ α) (n : Nat) : Poured σ α :=
  { p with outcome := p.outcome.map (· + n) }

theorem Poured.counted_zero {σ α : Type} (p : Poured σ α) : p.counted 0 = p := by
  obtain ⟨outcome, target, rest⟩ := p
  cases outcome <;> rfl

theorem Poured.counted_counted {σ α : Type} (p : Poured σ α) (m n : Nat) :
    (p.counted m).counted n = p.counted (m + n) := by
  obtain ⟨outcome, target, rest⟩ := p
  cases outcome with
  | error fault => rfl
  | ok changes => simp [counted, Except.map, Nat.add_assoc]

variable {σ τ α κ ν β : Type}

def pourEach (add : α → EStateM Fault σ Bool) : List α → σ → Poured σ α
  | [], target => ⟨.ok 0, target, []⟩
  | x :: rest, target =>
      match add x target with
      | .error fault refusing => ⟨.error fault, refusing, rest⟩
      | .ok changed grown => (pourEach add rest grown).counted changed.toNat

class ElementTarget (σ : Type) (α : outParam Type) where
  add : α → EStateM Fault σ Bool
  addAll : List α → σ → Poured σ α := pourEach add
  remove : α → EStateM Fault σ Bool
  clear : EStateM Fault σ Unit

class MappingTarget (σ : Type) (κ ν : outParam Type) where
  put : κ → ν → EStateM Fault σ (Option ν)
  removeKey : κ → EStateM Fault σ (Option ν)
  clearEntries : EStateM Fault σ Unit

def refuse (operation target : String) : EStateM Fault σ β :=
  throw (.unsupported operation target)

@[reducible] def ElementTarget.readOnly (name : String) : ElementTarget σ α where
  add _ := refuse "add" name
  addAll xs target := ⟨.error (.unsupported "add_all" name), target, xs⟩
  remove _ := refuse "remove" name
  clear := refuse "clear" name

@[reducible] def MappingTarget.readOnly (name : String) : MappingTarget σ κ ν where
  put _ _ := refuse "put" name
  removeKey _ := refuse "remove" name
  clearEntries := refuse "clear" name

def always (f : σ → β × σ) : EStateM Fault σ β :=
  fun target => .ok (f target).1 (f target).2

def retarget (f : σ → τ) : EStateM.Result Fault σ β → EStateM.Result Fault τ β
  | .ok answer target => .ok answer (f target)
  | .error fault target => .error fault (f target)

theorem pourEach_nil (add : α → EStateM Fault σ Bool) (target : σ) :
    pourEach add [] target = ⟨.ok 0, target, []⟩ := rfl

theorem pourEach_cons_error {add : α → EStateM Fault σ Bool} {x : α} {rest : List α}
    {target refusing : σ} {fault : Fault} (h : add x target = .error fault refusing) :
    pourEach add (x :: rest) target = ⟨.error fault, refusing, rest⟩ := by
  simp [pourEach, h]

theorem pourEach_cons_ok {add : α → EStateM Fault σ Bool} {x : α} {rest : List α}
    {target grown : σ} {changed : Bool} (h : add x target = .ok changed grown) :
    pourEach add (x :: rest) target = (pourEach add rest grown).counted changed.toNat := by
  simp [pourEach, h]

end OptionalContainers
