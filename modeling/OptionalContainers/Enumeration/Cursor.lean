namespace OptionalContainers

/-- A source that answers each request with an element or with none. It may go on after a none. -/
class Cursor (σ : Type) (α : outParam Type) where
  advance : σ → Option α × σ

/-- A source that is asked whether it has more before it is asked for an element. Nothing ties
the two answers to each other. -/
class Enumeration (σ : Type) (α : outParam Type) where
  hasMore : σ → Bool × σ
  next : σ → Option α × σ

class FiniteCursor (σ : Type) (α : outParam Type) extends Cursor σ α where
  bound : σ → Nat
  bound_advance : ∀ s, (advance s).1.isSome → bound (advance s).2 < bound s

class FiniteEnumeration (σ : Type) (α : outParam Type) extends Enumeration σ α where
  bound : σ → Nat
  bound_next : ∀ s, (hasMore s).1 = true → (next (hasMore s).2).1.isSome →
    bound (next (hasMore s).2).2 < bound s

variable {σ α : Type}

instance : FiniteCursor (List α) α where
  advance
    | [] => (none, [])
    | x :: rest => (some x, rest)
  bound := List.length
  bound_advance xs h := by
    cases xs with
    | nil => simp at h
    | cons x rest => simp

structure Replay (α : Type) where
  answers : List (Option α)

instance : FiniteCursor (Replay α) α where
  advance
    | ⟨[]⟩ => (none, ⟨[]⟩)
    | ⟨answer :: rest⟩ => (answer, ⟨rest⟩)
  bound r := r.answers.length
  bound_advance r h := by
    obtain ⟨answers⟩ := r
    cases answers with
    | nil => simp at h
    | cons answer rest => simp

structure Script (α : Type) where
  moreAnswers : List Bool
  nextAnswers : List (Option α)

instance : FiniteEnumeration (Script α) α where
  hasMore s := (s.moreAnswers.headD false, { s with moreAnswers := s.moreAnswers.tail })
  next s := ((s.nextAnswers.head?).join, { s with nextAnswers := s.nextAnswers.tail })
  bound s := s.moreAnswers.length
  bound_next s h _ := by
    obtain ⟨more, answers⟩ := s
    cases more with
    | nil => simp at h
    | cons m rest => simp

structure Counted (σ : Type) where
  source : σ
  hasMoreCalls : Nat
  nextCalls : Nat

def Counted.of (source : σ) : Counted σ :=
  ⟨source, 0, 0⟩

instance [Enumeration σ α] : Enumeration (Counted σ) α where
  hasMore c :=
    ((Enumeration.hasMore c.source).1,
      ⟨(Enumeration.hasMore c.source).2, c.hasMoreCalls + 1, c.nextCalls⟩)
  next c :=
    ((Enumeration.next c.source).1,
      ⟨(Enumeration.next c.source).2, c.hasMoreCalls, c.nextCalls + 1⟩)

instance [FiniteEnumeration σ α] : FiniteEnumeration (Counted σ) α where
  bound c := FiniteEnumeration.bound c.source
  bound_next c h hs := FiniteEnumeration.bound_next c.source h hs

end OptionalContainers
