import OptionalContainers.Container.Sequence
import OptionalContainers.Proofs.Target.Attempts

namespace OptionalContainers

variable {σ α : Type}

theorem reverse_eraseIdx {xs : List α} {place : Nat} (h : place < xs.length) :
    (xs.eraseIdx (xs.length - 1 - place)).reverse = xs.reverse.eraseIdx place := by
  have hbefore : xs.length - (xs.length - 1 - place + 1) = place := by omega
  have hbehind : xs.length - (xs.length - 1 - place) = place + 1 := by omega
  rw [List.eraseIdx_eq_take_drop_succ, List.eraseIdx_eq_take_drop_succ, List.reverse_append,
    List.reverse_take, List.reverse_drop, hbefore, hbehind]

theorem Deque.toList_eraseAt (d : Deque α) {place : Nat} (h : place < d.toList.length) :
    (d.eraseAt place).toList = d.toList.eraseIdx place := by
  obtain ⟨front, back⟩ := d
  simp only [toList, List.length_append, List.length_reverse] at h
  by_cases hfront : place < front.length
  · simp only [eraseAt, toList, hfront, if_true]
    rw [List.eraseIdx_append_of_lt_length hfront]
  · have hle : front.length ≤ place := Nat.le_of_not_lt hfront
    have hplace : front.length + back.length - 1 - place =
        back.length - 1 - (place - front.length) := by omega
    simp only [eraseAt, toList, length, hfront, if_false]
    rw [List.eraseIdx_append_of_length_le hle, hplace, reverse_eraseIdx (by omega)]

theorem always_vacate [BEq α] {elements : σ → List α} {erase : σ → Nat → σ} {target : σ}
    (herase : ∀ {place}, place < (elements target).length →
      elements (erase target place) = (elements target).eraseIdx place) (x : α) :
    ∃ left, always (vacate elements erase x) target = .ok (scan (elements target) x) left ∧
      elements left = (elements target).eraseP (· == x) := by
  rw [List.eraseP_eq_eraseIdx, scan, ← List.findIdx?_isSome]
  simp only [always, vacate]
  cases hplace : (elements target).findIdx? (· == x) with
  | none => exact ⟨target, rfl, rfl⟩
  | some place =>
      obtain ⟨hlt, -⟩ := List.findIdx?_eq_some_iff_getElem.mp hplace
      exact ⟨erase target place, rfl, herase hlt⟩

theorem pourEach_of_append {elements : σ → List α} {add : α → EStateM Fault σ Bool}
    (hadd : ∀ x target, ∃ left, add x target = .ok true left ∧
      elements left = elements target ++ [x]) (more : List α) (target : σ) :
    ∃ left, pourEach add more target = ⟨.ok more.length, left, []⟩ ∧
      elements left = elements target ++ more := by
  induction more generalizing target with
  | nil => exact ⟨target, rfl, (List.append_nil _).symm⟩
  | cons x rest ih =>
      obtain ⟨grown, hx, hgrown⟩ := hadd x target
      obtain ⟨left, hrest, hleft⟩ := ih grown
      refine ⟨left, ?_, ?_⟩
      · rw [pourEach_cons_ok hx, hrest]
        rfl
      · rw [hleft, hgrown, List.append_assoc, List.singleton_append]

namespace ElementAttempt

def altered [BEq α] : ElementAttempt α → List α → Answer × List α
  | .add x, xs => (.changed true, xs ++ [x])
  | .addAll more, xs => (.counted more.length, xs ++ more)
  | .remove x, xs => (.changed (scan xs x), xs.eraseP (· == x))
  | .clear, _ => (.done, [])
  | @mergeArray _ _ _ array, xs => (.done, xs ++ offered array)

def alteredEach [BEq α] : List (ElementAttempt α) → List α → List (Answer × List α)
  | [], _ => []
  | attempt :: rest, xs => attempt.altered xs :: alteredEach rest (attempt.altered xs).2

def observed [ElementTarget σ α] (elements : σ → List α) (attempt : ElementAttempt α)
    (target : σ) : Journaled (Except Fault (Answer × List α) × σ) := do
  let (answer, left) ← attempt.run target
  pure (answer.map (·, elements left), left)

def history [ElementTarget σ α] (elements : σ → List α) (attempts : List (ElementAttempt α))
    (target : σ) (journal : Journal) : List (Except Fault (Answer × List α)) :=
  ((attemptAll (observed elements) attempts target).run journal).1.1

end ElementAttempt

structure LikeList [BEq α] [ElementTarget σ α] (elements : σ → List α) : Prop where
  add (x : α) (target : σ) : ∃ left, ElementTarget.add x target = .ok true left ∧
    elements left = elements target ++ [x]
  addAll (more : List α) (target : σ) : ∃ left,
    ElementTarget.addAll more target = ⟨.ok more.length, left, []⟩ ∧
      elements left = elements target ++ more
  remove (x : α) (target : σ) : ∃ left,
    ElementTarget.remove x target = .ok (scan (elements target) x) left ∧
      elements left = (elements target).eraseP (· == x)
  clear (target : σ) : ∃ left, ElementTarget.clear target = .ok () left ∧ elements left = []

namespace LikeList

open ElementAttempt

variable [BEq α]

section

variable [ElementTarget σ α] {elements : σ → List α}

theorem run_eq (h : LikeList elements) (attempt : ElementAttempt α) (target : σ)
    (journal : Journal) : ∃ left later,
      (attempt.run target).run journal =
        ((.ok (attempt.altered (elements target)).1, left), later) ∧
      elements left = (attempt.altered (elements target)).2 := by
  cases attempt with
  | add x =>
      obtain ⟨left, hadd, hleft⟩ := h.add x target
      refine ⟨left, journal, ?_, hleft⟩
      rw [ElementAttempt.run, hadd]
      rfl
  | addAll more =>
      obtain ⟨left, haddAll, hleft⟩ := h.addAll more target
      refine ⟨left, journal, ?_, hleft⟩
      rw [ElementAttempt.run, haddAll]
      rfl
  | remove x =>
      obtain ⟨left, hremove, hleft⟩ := h.remove x target
      refine ⟨left, journal, ?_, hleft⟩
      rw [ElementAttempt.run, hremove]
      rfl
  | clear =>
      obtain ⟨left, hclear, hleft⟩ := h.clear target
      refine ⟨left, journal, ?_, hleft⟩
      rw [ElementAttempt.run, hclear]
      rfl
  | mergeArray array =>
      obtain ⟨left, haddAll, hleft⟩ := h.addAll (offered array) target
      refine ⟨left, ((report (.arrayMerged (offered array).length (offered array).length)).run
        journal).2, ?_, hleft⟩
      simp only [ElementAttempt.run, OptionalContainers.mergeArray, haddAll]
      rfl

theorem observed_run (h : LikeList elements) (attempt : ElementAttempt α) (target : σ)
    (journal : Journal) : ∃ left later,
      (observed elements attempt target).run journal =
        ((.ok (attempt.altered (elements target)), left), later) ∧
      elements left = (attempt.altered (elements target)).2 := by
  obtain ⟨left, later, hrun, hleft⟩ := h.run_eq attempt target journal
  refine ⟨left, later, ?_, hleft⟩
  have hshown : ((attempt.altered (elements target)).1, elements left) =
      attempt.altered (elements target) := by rw [hleft]
  rw [observed, StateT.run_bind, hrun, ← hshown]
  rfl

theorem history_eq (h : LikeList elements) (attempts : List (ElementAttempt α)) (target : σ)
    (journal : Journal) :
    history elements attempts target journal =
      (alteredEach attempts (elements target)).map .ok := by
  suffices hrun : ∃ final later, (attemptAll (observed elements) attempts target).run journal =
      (((alteredEach attempts (elements target)).map .ok, final), later) by
    obtain ⟨final, later, hrun⟩ := hrun
    rw [history, hrun]
  induction attempts generalizing target journal with
  | nil => exact ⟨target, journal, rfl⟩
  | cons attempt rest ih =>
      obtain ⟨left, between, hstep, hleft⟩ := h.observed_run attempt target journal
      obtain ⟨final, later, hrest⟩ := ih left between
      rw [hleft] at hrest
      exact ⟨final, later, attemptAll_cons hstep hrest⟩

end

theorem array : LikeList (Array.toList : Array α → List α) where
  add x target := ⟨_, rfl, Array.toList_push⟩
  addAll more target := by
    have hgrown : (target ++ more.toArray).size - target.size = more.length := by simp
    refine ⟨target ++ more.toArray, ?_, Array.toList_append⟩
    rw [← hgrown]
    rfl
  remove x target := by
    refine always_vacate (fun {place} hplace => ?_) x
    rw [Array.eraseIdxIfInBounds_eq, dif_pos (by simpa using hplace), Array.toList_eraseIdx]
  clear _ := ⟨_, rfl, rfl⟩

theorem deque : LikeList (Deque.toList : Deque α → List α) where
  add x target := ⟨_, rfl, target.toList_push x⟩
  addAll := pourEach_of_append fun x target => ⟨_, rfl, target.toList_push x⟩
  remove x target := always_vacate target.toList_eraseAt x
  clear _ := ⟨_, rfl, rfl⟩

theorem chain : LikeList (fun xs : List α => xs) where
  add _ _ := ⟨_, rfl, rfl⟩
  addAll := pourEach_of_append fun _ _ => ⟨_, rfl, rfl⟩
  remove x target := always_vacate (fun _ => unlink_eq_eraseIdx target _) x
  clear _ := ⟨_, rfl, rfl⟩

end LikeList

theorem addAll_array_eq_pourEach [BEq α] (more : List α) (target : Array α) :
    ElementTarget.addAll more target = pourEach ElementTarget.add more target := by
  obtain ⟨left, hall, hleft⟩ := LikeList.array.addAll more target
  obtain ⟨each, hpoured, heach⟩ := pourEach_of_append LikeList.array.add more target
  rw [hall, hpoured, Array.toList_inj.mp (hleft.trans heach.symm)]

theorem altered_remove_cases [BEq α] (x : α) (xs : List α) :
    (scan xs x = false ∧ (ElementAttempt.remove x).altered xs = (.changed false, xs)) ∨
      ∃ before y after, xs = before ++ y :: after ∧ scan before x = false ∧ (y == x) = true ∧
        (ElementAttempt.remove x).altered xs = (.changed true, before ++ after) := by
  cases hx : scan xs x with
  | false =>
      have hnone : ∀ y ∈ xs, ¬ (y == x) = true := by
        simpa [scan] using hx
      refine .inl ⟨rfl, ?_⟩
      rw [ElementAttempt.altered, hx, List.eraseP_of_forall_not hnone]
  | true =>
      obtain ⟨z, hz, hzx⟩ := scan_eq_true_iff.mp hx
      obtain ⟨y, before, after, hbefore, hy, hxs, herase⟩ :=
        List.exists_of_eraseP (p := (· == x)) hz hzx
      refine .inr ⟨before, y, after, hxs, ?_, hy, ?_⟩
      · rw [scan, List.any_eq_false]
        exact hbefore
      · rw [ElementAttempt.altered, hx, herase]

open ElementAttempt in
theorem sequences_in_step [BEq α] (start : Deque α) (attempts : List (ElementAttempt α))
    (journal : Journal) :
    let steps := (alteredEach attempts start.toList).map Except.ok
    (history Array.toList attempts start.toList.toArray journal = steps ∧
        history Deque.toList attempts start journal = steps ∧
        history (fun xs : List α => xs) attempts start.toList journal = steps) ∧
      (∀ (x : α) (xs : List α),
        (scan xs x = false ∧ (ElementAttempt.remove x).altered xs = (.changed false, xs)) ∨
          ∃ before y after, xs = before ++ y :: after ∧ scan before x = false ∧
            (y == x) = true ∧
            (ElementAttempt.remove x).altered xs = (.changed true, before ++ after)) ∧
      (∀ (more : List α) (target : Array α),
        ElementTarget.addAll more target = pourEach ElementTarget.add more target) ∧
      ∀ (xs : List α) (place : Nat), unlink xs place = xs.eraseIdx place := by
  intro steps
  refine ⟨⟨?_, ?_, ?_⟩, altered_remove_cases, addAll_array_eq_pourEach, unlink_eq_eraseIdx⟩
  · exact LikeList.array.history_eq attempts start.toList.toArray journal
  · exact LikeList.deque.history_eq attempts start journal
  · exact LikeList.chain.history_eq attempts start.toList journal

end OptionalContainers
