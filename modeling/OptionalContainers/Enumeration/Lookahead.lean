import OptionalContainers.Enumeration.Cursor
import OptionalContainers.Inspected

namespace OptionalContainers

/-- A cursor asked in turns: to know whether there is more, its next answer is fetched and kept,
a none as well, until it is handed out. -/
structure Lookahead (σ α : Type) where
  source : σ
  kept : Option (Option α)

namespace Lookahead

variable {σ α : Type}

def of (source : σ) : Lookahead σ α :=
  ⟨source, none⟩

variable [Cursor σ α]

def peek (l : Lookahead σ α) : Option α × Lookahead σ α :=
  match l.kept with
  | some answer => (answer, l)
  | none =>
      let (answer, source) := Cursor.advance l.source
      (answer, ⟨source, some answer⟩)

def take (l : Lookahead σ α) : Option α × Lookahead σ α :=
  match l.kept with
  | some answer => (answer, ⟨l.source, none⟩)
  | none =>
      let (answer, source) := Cursor.advance l.source
      (answer, ⟨source, none⟩)

theorem take_peek (l : Lookahead σ α) : l.peek.2.take.1 = l.take.1 := by
  obtain ⟨source, kept⟩ := l
  cases kept <;> rfl

theorem source_take_peek (l : Lookahead σ α) : l.peek.2.take.2 = l.take.2 := by
  obtain ⟨source, kept⟩ := l
  cases kept <;> rfl

theorem peek_fst (l : Lookahead σ α) : l.peek.1 = l.take.1 := by
  obtain ⟨source, kept⟩ := l
  cases kept <;> rfl

end Lookahead

variable {σ α : Type}

instance [Cursor σ α] : Enumeration (Lookahead σ α) α where
  hasMore l := (l.peek.1.isSome, l.peek.2)
  next := Lookahead.take

instance [FiniteCursor σ α] : FiniteEnumeration (Lookahead σ α) α where
  bound l := FiniteCursor.bound l.source + (l.kept.join.toList).length
  bound_next l h _ := by
    obtain ⟨source, kept⟩ := l
    match kept with
    | some none => simp [Enumeration.hasMore, Lookahead.peek] at h
    | some (some x) => simp [Enumeration.hasMore, Enumeration.next, Lookahead.peek, Lookahead.take]
    | none =>
        simpa [Enumeration.hasMore, Enumeration.next, Lookahead.peek, Lookahead.take]
          using FiniteCursor.bound_advance source h

instance [Inspect α] : Inspect (Lookahead (List α) α) where
  inspect l :=
    let kept :=
      match l.kept with
      | none => "None"
      | some none => tagged "Some" "None"
      | some (some x) => tagged "Some" (tagged "Some" (inspect x))
    "IteratorEnumeration \x7b elements: Peekable \x7b iter: " ++
      tagged "IntoIter" (bracketed (l.source.map inspect)) ++ ", peeked: " ++ kept ++ " \x7d \x7d"

end OptionalContainers
