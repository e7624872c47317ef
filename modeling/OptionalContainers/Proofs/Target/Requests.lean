import OptionalContainers.Target

namespace OptionalContainers

variable {σ α κ ν ι β : Type}

inductive Granted (request : ι → EStateM Fault σ β) : σ → List ι → List β → σ → Prop
  | nil (target : σ) : Granted request target [] [] target
  | cons {target grown final : σ} {x : ι} {rest : List ι} {answer : β} {answers : List β}
      (hx : request x target = .ok answer grown)
      (hrest : Granted request grown rest answers final) :
      Granted request target (x :: rest) (answer :: answers) final

inductive Requested (request : ι → EStateM Fault σ β) (target : σ) :
    List ι → List ι → Except Fault (List β) → σ → Prop
  | granted {made : List ι} {answers : List β} {final : σ}
      (h : Granted request target made answers final) :
      Requested request target made [] (.ok answers) final
  | refused {before unmade : List ι} {x : ι} {answers : List β} {reached refusing : σ}
      {fault : Fault} (h : Granted request target before answers reached)
      (hx : request x reached = .error fault refusing) :
      Requested request target (before ++ [x]) unmade (.error fault) refusing

variable {request : ι → EStateM Fault σ β} {target grown final : σ} {x : ι}
  {made unmade : List ι} {answer : β} {answers : List β} {outcome : Except Fault (List β)}

theorem Requested.cons (hx : request x target = .ok answer grown)
    (h : Requested request grown made unmade outcome final) :
    Requested request target (x :: made) unmade (outcome.map (answer :: ·)) final := by
  cases h with
  | granted h => exact .granted (.cons hx h)
  | refused h hy => exact .refused (.cons hx h) hy

theorem exists_requested (request : ι → EStateM Fault σ β) (xs : List ι) (target : σ) :
    ∃ made unmade outcome final,
      made ++ unmade = xs ∧ Requested request target made unmade outcome final := by
  induction xs generalizing target with
  | nil => exact ⟨[], [], _, target, rfl, .granted (.nil target)⟩
  | cons x rest ih =>
      cases hx : request x target with
      | ok answer grown =>
          obtain ⟨made, unmade, outcome, final, rfl, h⟩ := ih grown
          exact ⟨x :: made, unmade, _, final, rfl, h.cons hx⟩
      | error fault refusing =>
          exact ⟨[x], rest, _, refusing, rfl, .refused (.nil target) hx⟩

/-- A target that keeps, beside its state, the requests made of it. -/
structure Watched (σ ι : Type) where
  target : σ
  requests : List ι

def watch (request : ι → EStateM Fault σ β) (x : ι) : EStateM Fault (Watched σ ι) β :=
  fun w => retarget (⟨·, w.requests ++ [x]⟩) (request x w.target)

theorem watch_ok (hx : request x target = .ok answer grown) (seen : List ι) :
    watch request x ⟨target, seen⟩ = .ok answer ⟨grown, seen ++ [x]⟩ := by
  rw [watch, hx]
  rfl

theorem watch_error {fault : Fault} (hx : request x target = .error fault grown)
    (seen : List ι) : watch request x ⟨target, seen⟩ = .error fault ⟨grown, seen ++ [x]⟩ := by
  rw [watch, hx]
  rfl

theorem Granted.watch (h : Granted request target made answers final) (seen : List ι) :
    Granted (watch request) ⟨target, seen⟩ made answers ⟨final, seen ++ made⟩ := by
  induction h generalizing seen with
  | nil target =>
      rw [List.append_nil]
      exact .nil _
  | @cons target grown final x rest answer answers hx hrest ih =>
      have hlater := ih (seen ++ [x])
      rw [List.append_assoc, List.singleton_append] at hlater
      exact .cons (watch_ok hx seen) hlater

theorem Requested.watch (h : Requested request target made unmade outcome final)
    (seen : List ι) :
    Requested (watch request) ⟨target, seen⟩ made unmade outcome ⟨final, seen ++ made⟩ := by
  cases h with
  | granted h => exact .granted (h.watch seen)
  | @refused before unmade x answers reached refusing fault h hx =>
      rw [← List.append_assoc]
      exact .refused (h.watch seen) (watch_error hx (seen ++ before))

instance [ElementTarget σ α] : ElementTarget (Watched σ α) α where
  add := watch ElementTarget.add
  remove x w := retarget ({ w with target := · }) (ElementTarget.remove x w.target)
  clear w := retarget ({ w with target := · }) (ElementTarget.clear w.target)

def putPair [MappingTarget σ κ ν] (entry : κ × ν) : EStateM Fault σ (Option ν) :=
  MappingTarget.put entry.1 entry.2

instance [MappingTarget σ κ ν] : MappingTarget (Watched σ (κ × ν)) κ ν where
  put k v := watch putPair (k, v)
  removeKey k w := retarget ({ w with target := · }) (MappingTarget.removeKey k w.target)
  clearEntries w := retarget ({ w with target := · }) (MappingTarget.clearEntries w.target)

end OptionalContainers
