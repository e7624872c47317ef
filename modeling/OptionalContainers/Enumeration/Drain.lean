import OptionalContainers.Enumeration.Cursor
import OptionalContainers.Inspected
import OptionalContainers.Target

namespace OptionalContainers

/-- An enumeration gone through element by element. Once it has answered none it is not asked
again; what is left of it stays with the one who lent it. -/
inductive Drain (σ : Type) where
  | absent
  | running (source : σ)
  | done (source : σ)
  deriving Repr

namespace Drain

variable {σ α : Type}

def of : Option σ → Drain σ
  | none => .absent
  | some source => .running source

def isExhausted : Drain σ → Bool
  | .running _ => false
  | _ => true

def source? : Drain σ → Option σ
  | .absent => none
  | .running source => some source
  | .done source => some source

section

variable [Enumeration σ α]

def next : Drain σ → Option α × Drain σ
  | .running source =>
      let (more, asked) := Enumeration.hasMore source
      if more then
        let (answer, left) := Enumeration.next asked
        (answer, if answer.isSome then .running left else .done left)
      else
        (none, .done asked)
  | stopped => (none, stopped)

def take : Nat → Drain σ → List α × Drain σ
  | 0, d => ([], d)
  | n + 1, d =>
      match d.next with
      | (none, left) => ([], left)
      | (some x, left) => (x :: (take n left).1, (take n left).2)

def seek (p : α → Bool) : Nat → Drain σ → Option α × Drain σ
  | 0, d => (none, d)
  | n + 1, d =>
      match d.next with
      | (none, left) => (none, left)
      | (some x, left) => if p x then (some x, left) else seek p n left

end

section

variable [FiniteEnumeration σ α]

def requests : Drain σ → Nat
  | .running source => FiniteEnumeration.bound source + 1
  | _ => 0

def toList (d : Drain σ) : List α × Drain σ :=
  d.take d.requests

theorem requests_next {d left : Drain σ} {x : α} (h : d.next = (some x, left)) :
    left.requests < d.requests := by
  cases d with
  | absent => simp [next] at h
  | done source => simp [next] at h
  | running source =>
      simp only [next] at h
      split at h
      next hm =>
        simp only [Prod.mk.injEq] at h
        obtain ⟨hx, hl⟩ := h
        have := FiniteEnumeration.bound_next source hm (by simp [hx])
        simp only [hx, Option.isSome_some, if_true] at hl
        subst hl
        simpa [requests] using this
      next hm => simp at h

end

instance [Enumeration σ α] : ElementTarget (Drain σ) α :=
  .readOnly "EnumerationIterator"

def removeLast : EStateM Fault (Drain σ) Unit :=
  refuse "remove" "EnumerationIterator"

instance : Inspect (Drain σ) where
  inspect d :=
    "EnumerationIterator \x7b exhausted: " ++ (if d.isExhausted then "true" else "false") ++ " \x7d"

theorem next_of_isExhausted [Enumeration σ α] {d : Drain σ} (h : d.isExhausted = true) :
    d.next = (none, d) := by
  cases d with
  | running source => simp [isExhausted] at h
  | absent => rfl
  | done source => rfl

end Drain

variable {σ α : Type}

def exhaust [FiniteEnumeration σ α] (e : Option σ) : List α × Option σ :=
  ((Drain.of e).toList.1, (Drain.of e).toList.2.source?)

def meets [FiniteEnumeration σ α] [BEq α] (e : Option σ) (x : α) :
    Bool × Option σ :=
  let d := Drain.of e
  let (found, left) := d.seek (· == x) d.requests
  (found.isSome, left.source?)

def takeUpTo [Enumeration σ α] (n : Nat) (e : Option σ) : List α × Option σ :=
  (((Drain.of e).take n).1, ((Drain.of e).take n).2.source?)

end OptionalContainers
