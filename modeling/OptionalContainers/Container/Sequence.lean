import OptionalContainers.Capability
import OptionalContainers.Target

namespace OptionalContainers

variable {α : Type}

structure Window (α : Type) where
  buffer : Array α
  start : Nat
  length : Nat

namespace Window

def whole (xs : List α) : Window α :=
  ⟨xs.toArray, 0, xs.length⟩

def toList (w : Window α) : List α :=
  (w.buffer.toList.drop w.start).take w.length

theorem toList_whole (xs : List α) : (whole xs).toList = xs := by
  simp [whole, toList]

end Window

/-- A double-ended queue; the back half is kept in reverse. -/
structure Deque (α : Type) where
  front : List α
  back : List α

namespace Deque

def empty : Deque α :=
  ⟨[], []⟩

def toList (d : Deque α) : List α :=
  d.front ++ d.back.reverse

def length (d : Deque α) : Nat :=
  d.front.length + d.back.length

def push (d : Deque α) (x : α) : Deque α :=
  { d with back := x :: d.back }

def ofList (xs : List α) : Deque α :=
  ⟨xs, []⟩

def eraseAt (d : Deque α) (place : Nat) : Deque α :=
  if place < d.front.length then { d with front := d.front.eraseIdx place }
  else { d with back := d.back.eraseIdx (d.length - 1 - place) }

theorem toList_ofList (xs : List α) : (ofList xs).toList = xs := by
  simp [ofList, toList]

theorem toList_push (d : Deque α) (x : α) : (d.push x).toList = d.toList ++ [x] := by
  simp [push, toList]

theorem length_eq (d : Deque α) : d.length = d.toList.length := by
  simp [length, toList]

end Deque

def unlink (xs : List α) (place : Nat) : List α :=
  let (before, behind) := xs.splitAt place
  before ++ behind.tail

theorem unlink_eq_eraseIdx (xs : List α) (place : Nat) : unlink xs place = xs.eraseIdx place := by
  simp [unlink, List.eraseIdx_eq_take_drop_succ]

instance : Items (Window α) α where
  items := Window.toList

instance {n : Nat} : Items (Vector α n) α where
  items := Vector.toList

instance : Items (Array α) α where
  items := Array.toList

instance : Items (Deque α) α where
  items := Deque.toList

instance : Items (List α) α where
  items xs := xs

instance [BEq α] : Members (Window α) α where
  size w := w.toList.length
  hasMember w := scan w.toList

instance {n : Nat} [BEq α] : Members (Vector α n) α where
  size _ := n
  hasMember xs := scan xs.toList

instance [BEq α] : Members (Array α) α where
  size := Array.size
  hasMember xs := scan xs.toList

instance [BEq α] : Members (Deque α) α where
  size := Deque.length
  hasMember d := scan d.toList

instance [BEq α] : Members (List α) α where
  size := List.length
  hasMember := scan

def vacate {σ : Type} [BEq α] (elements : σ → List α) (erase : σ → Nat → σ) (x : α) (target : σ) :
    Bool × σ :=
  match (elements target).findIdx? (· == x) with
  | some place => (true, erase target place)
  | none => (false, target)

instance [BEq α] : ElementTarget (Array α) α where
  add x := always fun xs => (true, xs.push x)
  addAll more xs :=
    let all := xs ++ more.toArray
    ⟨.ok (all.size - xs.size), all, []⟩
  remove x := always (vacate Array.toList Array.eraseIdxIfInBounds x)
  clear := always fun _ => ((), #[])

instance [BEq α] : ElementTarget (Deque α) α where
  add x := always fun d => (true, d.push x)
  remove x := always (vacate Deque.toList Deque.eraseAt x)
  clear := always fun _ => ((), Deque.empty)

instance [BEq α] : ElementTarget (List α) α where
  add x := always fun xs => (true, xs ++ [x])
  remove x := always (vacate (fun xs => xs) unlink x)
  clear := always fun _ => ((), [])

instance : EmptyCollection (Window α) where
  emptyCollection := Window.whole []

instance : EmptyCollection (Deque α) where
  emptyCollection := Deque.empty

end OptionalContainers
