import Mathlib.Data.PFun
import OptionalContainers.Enumeration.Drain

namespace OptionalContainers

variable {σ τ α : Type}

inductive Call (α : Type) where
  | askedMore (answer : Bool)
  | askedNext (answer : Option α)
  deriving DecidableEq, Repr

/-- An enumeration that keeps the calls made of it, each with its answer. -/
structure Overheard (σ α : Type) where
  source : σ
  calls : List (Call α)

instance [Enumeration σ α] : Enumeration (Overheard σ α) α where
  hasMore o :=
    ((Enumeration.hasMore o.source).1,
      ⟨(Enumeration.hasMore o.source).2,
        o.calls ++ [.askedMore (Enumeration.hasMore o.source).1]⟩)
  next o :=
    ((Enumeration.next o.source).1,
      ⟨(Enumeration.next o.source).2, o.calls ++ [.askedNext (Enumeration.next o.source).1]⟩)

namespace Drain

def map (f : σ → τ) : Drain σ → Drain τ
  | .absent => .absent
  | .running source => .running (f source)
  | .done source => .done (f source)

variable [Enumeration σ α]

def answers : Nat → Drain σ → List (Option α) × Drain σ
  | 0, d => ([], d)
  | n + 1, d => (d.next.1 :: (answers n d.next.2).1, (answers n d.next.2).2)

def collectStep (s : List α × Drain σ) : (List α × Drain σ) ⊕ (List α × Drain σ) :=
  match s.2.next with
  | (none, left) => .inl (s.1, left)
  | (some x, left) => .inr (s.1 ++ [x], left)

def collectFrom (taken : List α) (d : Drain σ) : Part (List α × Drain σ) :=
  PFun.fix (fun s => Part.some (collectStep s)) (taken, d)

/-- All elements up to the first none; without a result where there is always another. -/
def collect (d : Drain σ) : Part (List α × Drain σ) :=
  collectFrom [] d

end Drain

section

variable [Enumeration σ α] {s asked left last : σ} {x : α} {xs : List α}
  {calls closing : List (Call α)}

inductive Given : σ → List α → List (Call α) → σ → Prop
  | nil (s : σ) : Given s [] [] s
  | cons {s asked left last : σ} {x : α} {xs : List α} {calls : List (Call α)}
      (hmore : Enumeration.hasMore s = (true, asked))
      (hnext : Enumeration.next asked = (some x, left)) (hrest : Given left xs calls last) :
      Given s (x :: xs) (.askedMore true :: .askedNext (some x) :: calls) last

inductive Ended : σ → List (Call α) → σ → Prop
  | refused {s asked : σ} (hmore : Enumeration.hasMore s = (false, asked)) :
      Ended s [.askedMore false] asked
  | missed {s asked left : σ} (hmore : Enumeration.hasMore s = (true, asked))
      (hnext : Enumeration.next asked = (none, left)) :
      Ended s [.askedMore true, .askedNext none] left

inductive Answered (s : σ) : Nat → List (Option α) → List (Call α) → Drain σ → Prop
  | given {last : σ} {xs : List α} {calls : List (Call α)} (h : Given s xs calls last) :
      Answered s xs.length (xs.map some) calls (.running last)
  | ended {last left : σ} {xs : List α} {calls closing : List (Call α)} (later : Nat)
      (h : Given s xs calls last) (hend : Ended last closing left) :
      Answered s (xs.length + (later + 1)) (xs.map some ++ List.replicate (later + 1) none)
        (calls ++ closing) (.done left)

theorem given_or_ended (s : σ) :
    (∃ x asked left, Enumeration.hasMore s = (true, asked) ∧
        Enumeration.next asked = (some x, left)) ∨
      ∃ closing left, Ended s closing left := by
  cases hmore : Enumeration.hasMore s with
  | mk more asked => cases more with
    | false => exact .inr ⟨_, _, .refused hmore⟩
    | true => cases hnext : Enumeration.next asked with
      | mk answer left => cases answer with
        | none => exact .inr ⟨_, _, .missed hmore hnext⟩
        | some x => exact .inl ⟨x, asked, left, rfl, hnext⟩

theorem Answered.cons {n : Nat} {answers : List (Option α)} {d : Drain σ}
    (hmore : Enumeration.hasMore s = (true, asked))
    (hnext : Enumeration.next asked = (some x, left)) (h : Answered left n answers calls d) :
    Answered s (n + 1) (some x :: answers) (.askedMore true :: .askedNext (some x) :: calls) d := by
  cases h with
  | given h => exact .given (.cons hmore hnext h)
  | @ended last left xs calls closing later h hend =>
      have hanswered := Answered.ended later (.cons hmore hnext h) hend
      rw [List.length_cons, Nat.add_right_comm] at hanswered
      exact hanswered

theorem exists_answered (s : σ) (n : Nat) : ∃ answers calls d, Answered s n answers calls d := by
  induction n generalizing s with
  | zero => exact ⟨_, _, _, .given (.nil s)⟩
  | succ n ih =>
      obtain ⟨x, asked, left, hmore, hnext⟩ | ⟨closing, left, hend⟩ := given_or_ended s
      · obtain ⟨answers, calls, d, h⟩ := ih left
        exact ⟨_, _, _, h.cons hmore hnext⟩
      · have hanswered := Answered.ended n (.nil s) hend
        rw [List.length_nil, Nat.zero_add] at hanswered
        exact ⟨_, _, _, hanswered⟩

namespace Drain

theorem next_of_given (hmore : Enumeration.hasMore s = (true, asked))
    (hnext : Enumeration.next asked = (some x, left)) :
    (running s).next = (some x, running left) := by
  simp [next, hmore, hnext]

theorem next_of_ended (h : Ended s closing left) : (running s).next = (none, done left) := by
  cases h with
  | refused hmore => simp [next, hmore]
  | missed hmore hnext => simp [next, hmore, hnext]

theorem answers_of_isExhausted {d : Drain σ} (h : d.isExhausted = true) (n : Nat) :
    d.answers n = (List.replicate n none, d) := by
  induction n with
  | zero => rfl
  | succ n ih => rw [answers, next_of_isExhausted h, ih, List.replicate_succ]

theorem answers_of_given (h : Given s xs calls last) (n : Nat) :
    (running s).answers (xs.length + n) =
      (xs.map some ++ ((running last).answers n).1, ((running last).answers n).2) := by
  induction h with
  | nil s => simp
  | cons hmore hnext hrest ih =>
      rw [List.length_cons, Nat.add_right_comm, answers, next_of_given hmore hnext, ih]
      rfl

theorem answers_of_answered {n : Nat} {answered : List (Option α)} {d : Drain σ}
    (h : Answered s n answered calls d) : (running s).answers n = (answered, d) := by
  cases h with
  | given h =>
      have hanswers := answers_of_given h 0
      rw [Nat.add_zero, answers, List.append_nil] at hanswers
      exact hanswers
  | ended later h hend =>
      rw [answers_of_given h, answers, next_of_ended hend, answers_of_isExhausted rfl,
        List.replicate_succ]

end Drain

section

variable {more : Bool} {answer : Option α}

theorem hasMore_overheard (hmore : Enumeration.hasMore s = (more, asked))
    (heard : List (Call α)) :
    Enumeration.hasMore (Overheard.mk s heard) = (more, ⟨asked, heard ++ [.askedMore more]⟩) := by
  simp only [Enumeration.hasMore] at hmore ⊢
  rw [hmore]

theorem next_overheard (hnext : Enumeration.next s = (answer, left)) (heard : List (Call α)) :
    Enumeration.next (Overheard.mk s heard) = (answer, ⟨left, heard ++ [.askedNext answer]⟩) := by
  simp only [Enumeration.next] at hnext ⊢
  rw [hnext]

end

theorem Given.overheard (h : Given s xs calls last) (heard : List (Call α)) :
    Given (Overheard.mk s heard) xs calls ⟨last, heard ++ calls⟩ := by
  induction h generalizing heard with
  | nil s =>
      rw [List.append_nil]
      exact .nil _
  | @cons s asked left last x xs calls hmore hnext hrest ih =>
      rw [List.append_cons, List.append_cons]
      exact .cons (hasMore_overheard hmore heard) (next_overheard hnext _) (ih _)

theorem Ended.overheard (h : Ended s closing left) (heard : List (Call α)) :
    Ended (Overheard.mk s heard) closing ⟨left, heard ++ closing⟩ := by
  cases h with
  | refused hmore => exact .refused (hasMore_overheard hmore heard)
  | missed hmore hnext =>
      rw [List.append_cons]
      exact .missed (hasMore_overheard hmore heard) (next_overheard hnext _)

theorem Answered.overheard {n : Nat} {answers : List (Option α)} {d : Drain σ}
    (h : Answered s n answers calls d) (heard : List (Call α)) :
    Answered (Overheard.mk s heard) n answers calls (d.map (Overheard.mk · (heard ++ calls))) := by
  cases h with
  | given h => exact .given (h.overheard heard)
  | ended later h hend =>
      rw [← List.append_assoc]
      exact .ended later (h.overheard heard) (hend.overheard _)

namespace Drain

section

variable {d d' : Drain σ}

theorem collectFrom_of_none (h : d.next = (none, d')) (taken : List α) :
    d.collectFrom taken = Part.some (taken, d') := by
  have hstep : collectStep (taken, d) = .inl (taken, d') := by
    simp only [collectStep, h]
  exact Part.eq_some_iff.mpr (PFun.fix_stop (Part.mem_some_iff.mpr hstep.symm))

theorem again_of_some (h : d.next = (some x, d')) (taken : List α) :
    Sum.inr (taken ++ [x], d') ∈ Part.some (collectStep (taken, d)) := by
  rw [Part.mem_some_iff, collectStep, h]

theorem collectFrom_of_some (h : d.next = (some x, d')) (taken : List α) :
    d.collectFrom taken = d'.collectFrom (taken ++ [x]) :=
  PFun.fix_fwd_eq (again_of_some h taken)

end

theorem collectFrom_of_given (h : Given s xs calls last) (hend : Ended last closing left)
    (taken : List α) : (running s).collectFrom taken = Part.some (taken ++ xs, done left) := by
  induction h generalizing taken with
  | nil s => rw [collectFrom_of_none (next_of_ended hend), List.append_nil]
  | cons hmore hnext hrest ih =>
      rw [collectFrom_of_some (next_of_given hmore hnext), ih hend, List.append_assoc,
        List.singleton_append]

theorem given_of_collectFrom {taken : List α} {result : List α × Drain σ}
    (h : result ∈ (running s).collectFrom taken) :
    ∃ xs calls last closing left, Given s xs calls last ∧ Ended last closing left ∧
      result = (taken ++ xs, done left) := by
  -- The induction is on the turns of the loop, so what it holds before one is kept general.
  refine PFun.fixInduction (C := fun t => ∀ s, t.2 = running s → ∃ xs calls last closing left,
    Given s xs calls last ∧ Ended last closing left ∧ result = (t.1 ++ xs, done left)) h ?_ s rfl
  rintro ⟨taken, d⟩ hresult ih s rfl
  obtain ⟨x, asked, left, hmore, hnext⟩ | ⟨closing, left, hend⟩ := given_or_ended s
  · have hagain := again_of_some (next_of_given hmore hnext) taken
    obtain ⟨xs, calls, last, closing, final, hgiven, hend, hfinal⟩ := ih _ hagain left rfl
    refine ⟨x :: xs, _, last, closing, final, .cons hmore hnext hgiven, hend, ?_⟩
    rw [hfinal, List.append_assoc, List.singleton_append]
  · have hdone := collectFrom_of_none (next_of_ended hend) taken
    have hall : result = (taken, done left) := by
      rwa [← Part.mem_some_iff, ← hdone]
    refine ⟨[], [], s, closing, left, .nil s, hend, ?_⟩
    rw [hall, List.append_nil]

theorem mem_collect_iff {d : Drain σ} :
    (xs, d) ∈ (running s).collect ↔ ∃ calls last closing left,
      Given s xs calls last ∧ Ended last closing left ∧ d = done left := by
  constructor
  · intro h
    obtain ⟨ys, calls, last, closing, left, hgiven, hend, hresult⟩ := given_of_collectFrom h
    cases hresult
    exact ⟨calls, last, closing, left, hgiven, hend, rfl⟩
  · rintro ⟨calls, last, closing, left, hgiven, hend, rfl⟩
    exact Part.eq_some_iff.mp (collectFrom_of_given hgiven hend [])

theorem next_overheard_cases (s : σ) (heard : List (Call α)) :
    ∃ answer calls left, (running (Overheard.mk s heard)).next =
        (answer, if answer.isSome then running ⟨left, heard ++ calls⟩
          else done ⟨left, heard ++ calls⟩) ∧
      (calls = [.askedMore false] ∧ answer = none ∨
        calls = [.askedMore true, .askedNext answer]) := by
  obtain ⟨x, asked, left, hmore, hnext⟩ | ⟨closing, left, hend⟩ := given_or_ended s
  · refine ⟨some x, _, left, ?_, .inr rfl⟩
    rw [List.append_cons]
    exact next_of_given (hasMore_overheard hmore heard) (next_overheard hnext _)
  · refine ⟨none, closing, left, next_of_ended (hend.overheard heard), ?_⟩
    cases hend with
    | refused hmore => exact .inl ⟨rfl, rfl⟩
    | missed hmore hnext => exact .inr rfl

end Drain

end

section

variable [FiniteEnumeration σ α]

theorem Drain.collectFrom_eq_take {n : Nat} {d : Drain σ} (h : d.requests ≤ n)
    (taken : List α) : d.collectFrom taken = Part.some (taken ++ (d.take n).1, (d.take n).2) := by
  induction n generalizing d taken with
  | zero => cases d with
    | running s => cases h
    | absent => rw [collectFrom_of_none (next_of_isExhausted rfl), take, List.append_nil]
    | done s => rw [collectFrom_of_none (next_of_isExhausted rfl), take, List.append_nil]
  | succ n ih =>
      rw [take]
      cases hnext : d.next with
      | mk answer left => cases answer with
        | none => rw [collectFrom_of_none hnext, List.append_nil]
        | some x =>
            have hleft : left.requests ≤ n :=
              Nat.le_of_lt_succ (Nat.lt_of_lt_of_le (requests_next hnext) h)
            rw [collectFrom_of_some hnext, ih hleft, List.append_assoc, List.singleton_append]

theorem collect_eq_exhaust (e : Option σ) :
    (Drain.of e).collect.map (fun r => (r.1, r.2.source?)) = Part.some (exhaust e) := by
  rw [Drain.collect, Drain.collectFrom_eq_take (Nat.le_refl _), Part.map_some]
  rfl

theorem exists_exhaust (s : σ) : ∃ xs calls last closing left,
    Given s xs calls last ∧ Ended last closing left ∧ exhaust (some s) = (xs, some left) := by
  obtain ⟨⟨xs, d⟩, hcollect, hexhaust⟩ :=
    (Part.mem_map_iff _).mp (Part.eq_some_iff.mp (collect_eq_exhaust (some s)))
  obtain ⟨calls, last, closing, left, hgiven, hend, rfl⟩ := Drain.mem_collect_iff.mp hcollect
  exact ⟨xs, calls, last, closing, left, hgiven, hend, hexhaust.symm⟩

end

theorem drain_answers_until_end [Enumeration σ α] :
    (∀ (s : σ) (n : Nat), ∃ answers calls d, Answered s n answers calls d ∧
        (Drain.of (some s)).answers n = (answers, d) ∧
        ∀ heard : List (Call α), (Drain.of (some (Overheard.mk s heard))).answers n =
          (answers, d.map (Overheard.mk · (heard ++ calls)))) ∧
      (∀ (s : σ) (heard : List (Call α)), ∃ answer calls left,
        (Drain.of (some (Overheard.mk s heard))).next =
            (answer, if answer.isSome then .running ⟨left, heard ++ calls⟩
              else .done ⟨left, heard ++ calls⟩) ∧
          (calls = [.askedMore false] ∧ answer = none ∨
            calls = [.askedMore true, .askedNext answer])) ∧
      (∀ s : σ, (Drain.done s).next = (none, .done s)) ∧
      (∀ (s : σ) (xs : List α) (d : Drain σ), (xs, d) ∈ (Drain.of (some s)).collect ↔
        ∃ calls last closing left,
          Given s xs calls last ∧ Ended last closing left ∧ d = .done left) ∧
      (Drain.of (none : Option σ)).collect = Part.some ([], .absent) ∧
      ∀ (τ : Type) [FiniteEnumeration τ α],
        (∀ e : Option τ,
          (Drain.of e).collect.map (fun r => (r.1, r.2.source?)) = Part.some (exhaust e)) ∧
        (∀ e : τ, ∃ xs calls last closing left,
          Given e xs calls last ∧ Ended last closing left ∧ exhaust (some e) = (xs, some left)) ∧
        exhaust (none : Option τ) = ([], none) := by
  refine ⟨fun s n => ?_, Drain.next_overheard_cases, fun s => rfl,
    fun s xs d => Drain.mem_collect_iff, ?_,
    fun τ _ => ⟨collect_eq_exhaust, exists_exhaust, rfl⟩⟩
  · obtain ⟨answers, calls, d, h⟩ := exists_answered s n
    exact ⟨answers, calls, d, h, Drain.answers_of_answered h,
      fun heard => Drain.answers_of_answered (h.overheard heard)⟩
  · exact Drain.collectFrom_of_none (Drain.next_of_isExhausted rfl) []

example :
    let script : Script Nat := ⟨[true, true, true], [some 1, none, some 2]⟩
    (Drain.of (some (Overheard.mk script []))).answers 4 =
      ([some 1, none, none, none], .done ⟨⟨[true], [some 2]⟩,
        [.askedMore true, .askedNext (some 1), .askedMore true, .askedNext none]⟩) := rfl

end OptionalContainers
