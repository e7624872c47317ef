import OptionalContainers.Enumeration.Lookahead
import OptionalContainers.Proofs.Enumeration.Draining
import OptionalContainers.Proofs.Search.Sought

namespace OptionalContainers

variable {σ τ α β : Type}

def enumerated (xs : List α) : Lookahead (List α) α :=
  .of xs

inductive StandsAt : Lookahead (List α) α → List α → Prop
  | unasked (rest : List α) : StandsAt ⟨rest, none⟩ rest
  | keeping (x : α) (rest : List α) : StandsAt ⟨rest, some (some x)⟩ (x :: rest)
  | keepingEnd : StandsAt ⟨[], some none⟩ []

section

variable [Enumeration σ α] {d left : Drain σ} {x : α}

theorem Drain.seek_of_none (h : d.next = (none, left)) (p : α → Bool) (n : Nat) :
    d.seek p (n + 1) = (none, left) := by
  simp only [seek, h]

theorem Drain.seek_of_some (h : d.next = (some x, left)) (p : α → Bool) (n : Nat) :
    d.seek p (n + 1) = if p x then (some x, left) else left.seek p n := by
  simp only [seek, h]

end

theorem standsAt_enumerated (xs : List α) : StandsAt (enumerated xs) xs :=
  .unasked xs

namespace StandsAt

variable {l : Lookahead (List α) α} {x : α} {rest : List α}

theorem hasMore (h : StandsAt l rest) :
    ∃ asked, Enumeration.hasMore l = (!rest.isEmpty, asked) ∧ StandsAt asked rest := by
  cases h with
  | unasked => cases rest with
    | nil => exact ⟨_, rfl, .keepingEnd⟩
    | cons x rest => exact ⟨_, rfl, .keeping x rest⟩
  | keeping x rest => exact ⟨_, rfl, .keeping x rest⟩
  | keepingEnd => exact ⟨_, rfl, .keepingEnd⟩

theorem next (h : StandsAt l rest) : ∃ left, Enumeration.next l = ((Cursor.advance rest).1, left) ∧
    StandsAt left (Cursor.advance rest).2 := by
  cases h with
  | unasked => cases rest with
    | nil => exact ⟨_, rfl, .unasked []⟩
    | cons x rest => exact ⟨_, rfl, .unasked rest⟩
  | keeping x rest => exact ⟨_, rfl, .unasked rest⟩
  | keepingEnd => exact ⟨_, rfl, .unasked []⟩

theorem requests (h : StandsAt l rest) : (Drain.running l).requests = rest.length + 1 := by
  cases h <;> rfl

theorem drain_nil (h : StandsAt l []) :
    ∃ left, (Drain.running l).next = (none, .done left) ∧ StandsAt left [] := by
  obtain ⟨asked, hmore, hasked⟩ := h.hasMore
  exact ⟨asked, Drain.next_of_ended (.refused hmore), hasked⟩

theorem drain_cons (h : StandsAt l (x :: rest)) :
    ∃ left, (Drain.running l).next = (some x, .running left) ∧ StandsAt left rest := by
  obtain ⟨asked, hmore, hasked⟩ := h.hasMore
  obtain ⟨left, hnext, hleft⟩ := hasked.next
  exact ⟨left, Drain.next_of_given hmore hnext, hleft⟩

theorem given (h : StandsAt l rest) : ∃ calls last closing left,
    Given l rest calls last ∧ Ended last closing left ∧ StandsAt left [] := by
  induction rest generalizing l with
  | nil =>
      obtain ⟨asked, hmore, hasked⟩ := h.hasMore
      exact ⟨_, _, _, asked, .nil l, .refused hmore, hasked⟩
  | cons x rest ih =>
      obtain ⟨asked, hmore, hasked⟩ := h.hasMore
      obtain ⟨next, hnext, hstands⟩ := hasked.next
      obtain ⟨calls, last, closing, left, hgiven, hend, hleft⟩ := ih hstands
      exact ⟨_, _, _, left, .cons hmore hnext hgiven, hend, hleft⟩

theorem seek (h : StandsAt l rest) (p : α → Bool) {n : Nat} (hn : rest.length < n) :
    ∃ d left, (Drain.running l).seek p n = ((OptionalContainers.seek p rest).1, d) ∧
      d.source? = some left ∧ StandsAt left (OptionalContainers.seek p rest).2 := by
  induction rest generalizing l n with
  | nil => cases n with
    | zero => cases hn
    | succ n =>
        obtain ⟨left, hnext, hleft⟩ := h.drain_nil
        exact ⟨.done left, left, Drain.seek_of_none hnext p n, rfl, hleft⟩
  | cons x rest ih => cases n with
    | zero => cases hn
    | succ n =>
        obtain ⟨next, hnext, hstands⟩ := h.drain_cons
        rw [Drain.seek_of_some hnext, OptionalContainers.seek]
        split
        · exact ⟨.running next, next, rfl, rfl, hstands⟩
        · exact ih hstands (Nat.lt_of_succ_lt_succ hn)

theorem exhaust (h : StandsAt l rest) :
    ∃ left, OptionalContainers.exhaust (some l) = (rest, some left) ∧ StandsAt left [] := by
  obtain ⟨calls, last, closing, left, hgiven, hend, hleft⟩ := h.given
  have hcollect := collect_eq_exhaust (some l)
  rw [Drain.of, Drain.collect, Drain.collectFrom_of_given hgiven hend, Part.map_some] at hcollect
  exact ⟨left, (Part.some_injective hcollect).symm, hleft⟩

theorem meets [BEq α] (h : StandsAt l rest) (x : α) : ∃ left found rest',
    OptionalContainers.meets (some l) x = (found, some left) ∧
      contains (some rest) x = (found, some rest') ∧ StandsAt left rest' := by
  obtain ⟨d, left, hseek, hsource, hleft⟩ := h.seek (· == x) (Nat.lt_succ_self rest.length)
  refine ⟨left, _, _, ?_, rfl, hleft⟩
  simp only [OptionalContainers.meets, Drain.of, h.requests, hseek, hsource]
  rfl

end StandsAt

inductive Inquiry (α : Type) where
  | hasMore
  | next
  | meets (x : α)
  | exhaust

inductive Reply (α : Type) where
  | truth (answer : Bool)
  | element (answer : Option α)
  | elements (answer : List α)
  deriving DecidableEq, Repr

def askEnumeration [FiniteEnumeration σ α] [BEq α] (e : σ) : Inquiry α → Reply α × σ
  | .hasMore => (.truth (Enumeration.hasMore e).1, (Enumeration.hasMore e).2)
  | .next => (.element (Enumeration.next e).1, (Enumeration.next e).2)
  | .meets x => (.truth (meets (some e) x).1, (meets (some e) x).2.getD e)
  | .exhaust => (.elements (exhaust (some e)).1, (exhaust (some e)).2.getD e)

def askList [BEq α] (xs : List α) : Inquiry α → Reply α × List α
  | .hasMore => (.truth !xs.isEmpty, xs)
  | .next => (.element (Cursor.advance xs).1, (Cursor.advance xs).2)
  | .meets x => (.truth (contains (some xs) x).1, (contains (some xs) x).2.getD xs)
  | .exhaust => (.elements xs, [])

def askAll (ask : σ → Inquiry α → Reply α × σ) (s : σ) : List (Inquiry α) → List (Reply α) × σ
  | [] => ([], s)
  | inquiry :: rest =>
      ((ask s inquiry).1 :: (askAll ask (ask s inquiry).2 rest).1,
        (askAll ask (ask s inquiry).2 rest).2)

inductive Repeated (call : σ → Bool × σ) : σ → Nat → Prop
  | no {s : σ} (h : (call s).1 = false) : Repeated call s 0
  | yes {s : σ} {n : Nat} (h : (call s).1 = true) (hrest : Repeated call (call s).2 n) :
      Repeated call s (n + 1)

theorem Repeated.of_eq {call : σ → Bool × σ} {s t : σ} {n : Nat} (h : Repeated call t n)
    (heq : call s = call t) : Repeated call s n := by
  cases h with
  | no hno => exact .no (by rw [heq, hno])
  | yes hyes hrest => exact .yes (by rw [heq, hyes]) (by rw [heq]; exact hrest)

theorem Repeated.eq_of_repeated {call : σ → Bool × σ} {s : σ} {m n : Nat}
    (h : Repeated call s m) (h' : Repeated call s n) : m = n := by
  induction h generalizing n with
  | no hno => cases h' with
    | no => rfl
    | yes hyes => exact absurd (hno.symm.trans hyes) Bool.false_ne_true
  | yes hyes _ ih => cases h' with
    | no hno => exact absurd (hno.symm.trans hyes) Bool.false_ne_true
    | yes _ hrest => rw [ih hrest]

theorem Repeated.iff_eq {call : σ → Bool × σ} {s : σ} {m : Nat} (h : Repeated call s m) (n : Nat) :
    Repeated call s n ↔ n = m :=
  ⟨fun h' => h'.eq_of_repeated h, fun heq => heq ▸ h⟩

section

variable [BEq α] {l : Lookahead (List α) α} {rest : List α}

theorem StandsAt.ask (h : StandsAt l rest) (inquiry : Inquiry α) :
    (askEnumeration l inquiry).1 = (askList rest inquiry).1 ∧
      StandsAt (askEnumeration l inquiry).2 (askList rest inquiry).2 := by
  cases inquiry with
  | hasMore =>
      obtain ⟨asked, hmore, hasked⟩ := h.hasMore
      simp only [askEnumeration, askList, hmore]
      exact ⟨trivial, hasked⟩
  | next =>
      obtain ⟨left, hnext, hleft⟩ := h.next
      simp only [askEnumeration, askList, hnext]
      exact ⟨trivial, hleft⟩
  | meets x =>
      obtain ⟨left, found, rest', hmeets, hcontains, hleft⟩ := h.meets x
      simp only [askEnumeration, askList, hmeets, hcontains, Option.getD_some]
      exact ⟨trivial, hleft⟩
  | exhaust =>
      obtain ⟨left, hexhaust, hleft⟩ := h.exhaust
      simp only [askEnumeration, askList, hexhaust, Option.getD_some]
      exact ⟨trivial, hleft⟩

theorem StandsAt.askAll (h : StandsAt l rest) (inquiries : List (Inquiry α)) :
    (askAll askEnumeration l inquiries).1 = (askAll askList rest inquiries).1 ∧
      StandsAt (askAll askEnumeration l inquiries).2 (askAll askList rest inquiries).2 := by
  induction inquiries generalizing l rest with
  | nil => exact ⟨rfl, h⟩
  | cons inquiry later ih =>
      obtain ⟨hreply, hstands⟩ := h.ask inquiry
      obtain ⟨hreplies, hfinal⟩ := ih hstands
      exact ⟨List.cons_eq_cons.mpr ⟨hreply, hreplies⟩, hfinal⟩

theorem contains_cons (y x : α) (rest : List α) :
    contains (some (y :: rest)) x =
      if y == x then (true, some rest) else contains (some rest) x := by
  simp only [contains, seekIn, seek, Probe.form]
  split <;> rfl

theorem contains_eq_any (xs : List α) (x : α) : (contains (some xs) x).1 = xs.any (· == x) := by
  rw [Bool.eq_iff_iff, List.any_eq_true]
  exact (sought_iff.mp rfl : Sought (· == x) xs (contains (some xs) x)).eq_true_iff

theorem meets_eq_any (xs : List α) (x : α) :
    (meets (some (enumerated xs)) x).1 = xs.any (· == x) := by
  obtain ⟨left, found, rest', hmeets, hcontains, -⟩ := (standsAt_enumerated xs).meets x
  rw [← contains_eq_any, hcontains]
  exact congrArg Prod.fst hmeets

theorem repeated_contains (rest : List α) (x : α) :
    Repeated (contains · x) (some rest) (rest.countP (· == x)) := by
  induction rest with
  | nil => exact .no rfl
  | cons y rest ih =>
      rw [List.countP_cons]
      have hcontains := contains_cons y x rest
      split at hcontains
      next hy =>
        rw [if_pos hy]
        exact .yes (by rw [hcontains]) (by rw [hcontains]; exact ih)
      next hy =>
        rw [if_neg hy]
        exact ih.of_eq hcontains

theorem StandsAt.repeated (h : StandsAt l rest) {x : α} {n : Nat}
    (hn : Repeated (contains · x) (some rest) n) :
    Repeated (OptionalContainers.meets · x) (some l) n := by
  generalize hcursor : some rest = cursor at hn
  induction hn generalizing l rest with
  | no hno =>
      subst hcursor
      obtain ⟨left, found, rest', hmeets, hcontains, hleft⟩ := h.meets x
      rw [hcontains] at hno
      refine .no ?_
      rw [hmeets]
      exact hno
  | yes hyes _ ih =>
      subst hcursor
      obtain ⟨left, found, rest', hmeets, hcontains, hleft⟩ := h.meets x
      rw [hcontains] at hyes ih
      refine .yes ?_ ?_
      · rw [hmeets]
        exact hyes
      · rw [hmeets]
        exact ih hleft rfl

end

theorem enumerated_list_replies_as_list [BEq α] (xs : List α) (before : List (Inquiry α)) :
    let l := (askAll askEnumeration (enumerated xs) before).2
    let rest := (askAll askList xs before).2
    (askAll askEnumeration (enumerated xs) before).1 = (askAll askList xs before).1 ∧
      (∀ x, ∃ found rest' left, contains (some rest) x = (found, some rest') ∧
        meets (some l) x = (found, some left) ∧ Sought (· == x) rest (found, some rest') ∧
        (exhaust (some left)).1 = rest') ∧
      (∀ x n, (Repeated (contains · x) (some rest) n ↔ n = rest.countP (· == x)) ∧
        (Repeated (meets · x) (some l) n ↔ n = rest.countP (· == x))) ∧
      (∀ later, (askAll askEnumeration (Enumeration.hasMore l).2 later).1 =
        (askAll askEnumeration l later).1) ∧
      (exhaust (some l)).1 = rest ∧
      ∀ ys : List (Option α),
        (meets (some (enumerated ys)) (none : Option α)).1 = ys.any Option.isNone ∧
        ∀ x : α, (meets (some (enumerated ys)) (some x)).1 = ys.any (Option.any (· == x)) := by
  intro l rest
  have hreplies := ((standsAt_enumerated xs).askAll before).1
  have hstands : StandsAt l rest := ((standsAt_enumerated xs).askAll before).2
  have hrepeated := fun x => repeated_contains rest x
  refine ⟨hreplies, fun x => ?_, fun x n => ⟨?_, ?_⟩, fun later => ?_, ?_, fun ys => ?_⟩
  · obtain ⟨left, found, rest', hmeets, hcontains, hleft⟩ := hstands.meets x
    obtain ⟨last, hexhaust, -⟩ := hleft.exhaust
    refine ⟨found, rest', left, hcontains, hmeets, sought_iff.mp hcontains, ?_⟩
    rw [hexhaust]
  · exact (hrepeated x).iff_eq n
  · exact (hstands.repeated (hrepeated x)).iff_eq n
  · obtain ⟨asked, hmore, hasked⟩ := hstands.hasMore
    rw [hmore]
    exact (hasked.askAll later).1.trans (hstands.askAll later).1.symm
  · obtain ⟨last, hexhaust, -⟩ := hstands.exhaust
    rw [hexhaust]
  · rw [meets_eq_any]
    refine ⟨congrArg ys.any (funext fun y => ?_), fun x => ?_⟩
    · cases y <;> rfl
    · rw [meets_eq_any]
      exact congrArg ys.any (funext fun y => by cases y <;> rfl)

end OptionalContainers
