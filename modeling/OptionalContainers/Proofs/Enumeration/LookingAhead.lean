import Mathlib.Data.Seq.Defs
import OptionalContainers.Enumeration.Lookahead
import OptionalContainers.Proofs.Enumeration.Draining

namespace OptionalContainers

variable {σ α : Type}

inductive Turn where
  | askMore
  | askNext
  deriving DecidableEq, Repr

namespace Call

def element? : Call α → Option (Option α)
  | .askedMore _ => none
  | .askedNext answer => some answer

def FindsNone : Call α → Prop
  | .askedMore more => more = false
  | .askedNext answer => answer = none

end Call

section

variable [Enumeration σ α]

def makeCall (e : σ) : Turn → Call α × σ
  | .askMore => (.askedMore (Enumeration.hasMore e).1, (Enumeration.hasMore e).2)
  | .askNext => (.askedNext (Enumeration.next e).1, (Enumeration.next e).2)

def makeCalls (e : σ) : List Turn → List (Call α) × σ
  | [] => ([], e)
  | turn :: rest =>
      ((makeCall e turn).1 :: (makeCalls (makeCall e turn).2 rest).1,
        (makeCalls (makeCall e turn).2 rest).2)

def EndLasts (e : σ) : Prop :=
  ∀ before after : List Turn,
    (Enumeration.hasMore (makeCalls e before).2).1 = false →
      ∀ call ∈ (makeCalls (Enumeration.hasMore (makeCalls e before).2).2 after).1, call.FindsNone

end

/-- What a stream of answers says of turns that are taken: to ask for more uses up none of it. -/
def foretold (answers : Stream' (Option α)) : List Turn → List (Call α)
  | [] => []
  | .askMore :: rest => .askedMore answers.head.isSome :: foretold answers rest
  | .askNext :: rest => .askedNext answers.head :: foretold answers.tail rest

theorem elements_foretold (answers : Stream' (Option α)) (turns : List Turn) :
    (foretold answers turns).filterMap Call.element? = answers.take (turns.count .askNext) := by
  induction turns generalizing answers with
  | nil => rfl
  | cons turn rest ih =>
      cases turn with
      | askMore => exact ih answers
      | askNext =>
          rw [List.count_cons_self, Stream'.take_succ, ← ih]
          rfl

theorem findsNone_of_foretold_none {turns : List Turn} {call : Call α}
    (h : call ∈ foretold (Stream'.const none) turns) : call.FindsNone := by
  induction turns with
  | nil => cases h
  | cons turn rest ih =>
      cases turn with
      | askMore =>
          rcases List.mem_cons.mp h with rfl | h
          · rfl
          · exact ih h
      | askNext =>
          rcases List.mem_cons.mp h with rfl | h
          · rfl
          · exact ih h

theorem foretold_until_next {answers : Stream' (Option α)} (h : answers.head = none) (n : Nat) :
    foretold answers (List.replicate n .askMore ++ [.askNext]) =
      List.replicate n (.askedMore false) ++ [.askedNext none] := by
  induction n with
  | zero => simp [foretold, h]
  | succ n ih =>
      rw [List.replicate_succ, List.cons_append, foretold, ih, h]
      rfl

theorem drop_eq_const_none (answers : Stream'.Seq α) {n : Nat} (h : answers.get? n = none) :
    answers.val.drop n = Stream'.const none := by
  refine Stream'.ext fun m => ?_
  rw [Stream'.get_drop]
  exact answers.le_stable (Nat.le_add_right n m) h

section

variable [Cursor σ α]

/-- The answers of a cursor that is asked again and again, after a none as well. -/
def Cursor.answers (s : σ) : Stream' (Option α) :=
  Stream'.corec' Cursor.advance s

theorem Cursor.answers_eq (s : σ) :
    Cursor.answers s = Stream'.cons (Cursor.advance s).1 (Cursor.answers (Cursor.advance s).2) :=
  Stream'.corec'_eq Cursor.advance s

namespace Lookahead

def upcoming (l : Lookahead σ α) : Stream' (Option α) :=
  match l.kept with
  | none => Cursor.answers l.source
  | some answer => Stream'.cons answer (Cursor.answers l.source)

theorem upcoming_take (l : Lookahead σ α) :
    l.upcoming = Stream'.cons l.take.1 l.take.2.upcoming := by
  obtain ⟨source, kept⟩ := l
  cases kept with
  | none => exact Cursor.answers_eq source
  | some answer => rfl

theorem upcoming_peek (l : Lookahead σ α) : l.peek.2.upcoming = l.upcoming := by
  obtain ⟨source, kept⟩ := l
  cases kept with
  | none => exact (Cursor.answers_eq source).symm
  | some answer => rfl

theorem peek_peek (l : Lookahead σ α) : l.peek.2.peek = l.peek := by
  obtain ⟨source, kept⟩ := l
  cases kept <;> rfl

theorem hasMore_fst (l : Lookahead σ α) : (Enumeration.hasMore l).1 = l.upcoming.head.isSome := by
  rw [upcoming_take, Stream'.head_cons, ← peek_fst]
  rfl

theorem foretold_cons (l : Lookahead σ α) (turn : Turn) (rest : List Turn) :
    foretold l.upcoming (turn :: rest) =
      (makeCall l turn).1 :: foretold (makeCall l turn).2.upcoming rest := by
  cases turn with
  | askMore =>
      rw [foretold, ← hasMore_fst, ← upcoming_peek]
      rfl
  | askNext =>
      rw [foretold, upcoming_take]
      rfl

theorem upcoming_makeCall (l : Lookahead σ α) (turn : Turn) :
    (makeCall l turn).2.upcoming = l.upcoming.drop ([turn].count .askNext) := by
  cases turn with
  | askMore => exact l.upcoming_peek
  | askNext =>
      rw [upcoming_take l]
      rfl

theorem calls_eq_foretold (l : Lookahead σ α) (turns : List Turn) :
    (makeCalls l turns).1 = foretold l.upcoming turns := by
  induction turns generalizing l with
  | nil => rfl
  | cons turn rest ih => rw [makeCalls, ih, foretold_cons]

theorem upcoming_makeCalls (l : Lookahead σ α) (turns : List Turn) :
    (makeCalls l turns).2.upcoming = l.upcoming.drop (turns.count .askNext) := by
  induction turns generalizing l with
  | nil => rfl
  | cons turn rest ih =>
      rw [makeCalls, ih, upcoming_makeCall, Stream'.drop_drop, ← List.count_append,
        List.singleton_append]

theorem hasMore_makeCalls (l : Lookahead σ α) (turns : List Turn) :
    (Enumeration.hasMore (makeCalls l turns).2).1 =
        (l.upcoming.get (turns.count .askNext)).isSome ∧
      (Enumeration.hasMore (makeCalls l turns).2).2.upcoming =
        l.upcoming.drop (turns.count .askNext) := by
  have hcalls := l.upcoming_makeCalls turns
  constructor
  · rw [hasMore_fst, hcalls, Stream'.head_drop]
  · exact (upcoming_peek _).trans hcalls

theorem endLasts_iff (l : Lookahead σ α) : EndLasts l ↔ l.upcoming.IsSeq := by
  constructor
  · intro h n hn
    -- After as many elements as come before the none, it is told of, and two more are asked for.
    have hcount : (List.replicate n Turn.askNext).count .askNext = n := List.count_replicate_self
    obtain ⟨hmore, hleft⟩ := l.hasMore_makeCalls (.replicate n .askNext)
    rw [hcount] at hmore hleft
    have hfalse : (l.upcoming.get n).isSome = false := congrArg Option.isSome hn
    refine h _ [.askNext, .askNext] (hmore.trans hfalse) (.askedNext (l.upcoming.get (n + 1))) ?_
    rw [calls_eq_foretold, hleft]
    simp [foretold]
  · intro hseq before after hfalse call hcall
    obtain ⟨hmore, hleft⟩ := l.hasMore_makeCalls before
    rw [hmore, Option.isSome_eq_false_iff, Option.isNone_iff_eq_none] at hfalse
    rw [calls_eq_foretold, hleft, drop_eq_const_none ⟨l.upcoming, hseq⟩ hfalse] at hcall
    exact findsNone_of_foretold_none hcall

end Lookahead

end

theorem answers_list (xs : List α) (n : Nat) : (Cursor.answers xs).get n = xs[n]? := by
  induction n generalizing xs with
  | zero => cases xs <;> rfl
  | succ n ih =>
      rw [Cursor.answers_eq, Stream'.get_succ_cons, ih]
      cases xs <;> rfl

theorem isSeq_answers_list (xs : List α) : (Cursor.answers xs).IsSeq := by
  intro n hn
  have hend : xs[n]? = none := (answers_list xs n).symm.trans hn
  refine (answers_list xs (n + 1)).trans ?_
  rw [List.getElem?_eq_none_iff] at hend ⊢
  exact Nat.le_succ_of_le hend

theorem lookahead_foretells_answers [Cursor σ α] (s : σ) :
    let e : Lookahead σ α := .of s
    (∀ turns, (makeCalls e turns).1 = foretold (Cursor.answers s) turns ∧
        (makeCalls e turns).1.filterMap Call.element? =
          (Cursor.answers s).take (turns.count .askNext)) ∧
      (∀ before,
        let l := (makeCalls e before).2
        let asked := Enumeration.hasMore l
        asked.1 = (Enumeration.next asked.2).1.isSome ∧
          Enumeration.next asked.2 = Enumeration.next l ∧
          Enumeration.hasMore asked.2 = asked ∧
          (asked.1 = false → ∀ n,
            (makeCalls asked.2 (.replicate n .askMore ++ [.askNext])).1 =
              .replicate n (.askedMore false) ++ [.askedNext none])) ∧
      (EndLasts e ↔ (Cursor.answers s).IsSeq) ∧
      ∀ xs : List α, EndLasts (Lookahead.of xs : Lookahead (List α) α) := by
  intro e
  refine ⟨fun turns => ?_, fun before => ?_, e.endLasts_iff, fun xs => ?_⟩
  · have hcalls := e.calls_eq_foretold turns
    refine ⟨hcalls, ?_⟩
    rw [hcalls]
    exact elements_foretold _ turns
  · intro l asked
    have hnext : Enumeration.next asked.2 = Enumeration.next l :=
      Prod.ext l.take_peek l.source_take_peek
    have hagain : Enumeration.hasMore asked.2 = asked := by
      show (l.peek.2.peek.1.isSome, l.peek.2.peek.2) = _
      rw [l.peek_peek]
      rfl
    refine ⟨?_, hnext, hagain, fun hfalse n => ?_⟩
    · rw [hnext]
      exact congrArg Option.isSome l.peek_fst
    · have hhead : asked.2.upcoming.head = none := by
        rwa [← hagain, Lookahead.hasMore_fst, Option.isSome_eq_false_iff,
          Option.isNone_iff_eq_none] at hfalse
      rw [Lookahead.calls_eq_foretold]
      exact foretold_until_next hhead n
  · exact (Lookahead.endLasts_iff _).mpr (isSeq_answers_list xs)

theorem replayed_answers_resume :
    let e : Lookahead (Replay Nat) Nat := .of ⟨[none, some 1]⟩
    (makeCalls e [.askMore, .askNext, .askMore, .askNext]).1 =
        [.askedMore false, .askedNext none, .askedMore true, .askedNext (some 1)] ∧
      ¬ EndLasts e := by
  intro e
  refine ⟨rfl, fun h => ?_⟩
  have hmore : Call.FindsNone (.askedMore true : Call Nat) :=
    h [] [.askNext, .askMore] rfl _ (List.mem_cons_of_mem _ List.mem_cons_self)
  cases hmore

end OptionalContainers
