import OptionalContainers.Container.Sequence
import OptionalContainers.Proofs.Distinct.Answers
import OptionalContainers.Proofs.View.SetEquality

namespace OptionalContainers

variable {α β γ σ ρ : Type}

def Event.text (event : Event) : String × List (String × Nat) :=
  (event.message, event.fields)

def Emits (make : Journaled β) (texts : List (String × List (String × Nat))) : Prop :=
  ∀ journal, ∃ events, (make.run journal).2.events = journal.events ++ events ∧
    events.map Event.text = texts

section

variable {make : Journaled β} {next : β → Journaled γ}
  {texts more : List (String × List (String × Nat))}

theorem emits_pure (b : β) : Emits (pure b) [] :=
  fun journal => ⟨[], (List.append_nil journal.events).symm, rfl⟩

theorem emits_report (event : Event) : Emits (report event) [event.text] :=
  fun _ => ⟨[event], rfl, rfl⟩

theorem emits_freshCell : Emits freshCell [] :=
  fun journal => ⟨[], (List.append_nil journal.events).symm, rfl⟩

theorem Emits.bind (h : Emits make texts) (hnext : ∀ b, Emits (next b) more) :
    Emits (make >>= next) (texts ++ more) := by
  intro journal
  obtain ⟨events, hevents, htexts⟩ := h journal
  obtain ⟨later, hlater, hmore⟩ := hnext (make.run journal).1 (make.run journal).2
  refine ⟨events ++ later, ?_, ?_⟩
  · rw [← List.append_assoc, ← hevents]
    exact hlater
  · rw [List.map_append, htexts, hmore]

theorem Emits.bind_silent (h : Emits make texts) (hnext : ∀ b, Emits (next b) []) :
    Emits (make >>= next) texts := by
  rw [← List.append_nil texts]
  exact h.bind hnext

theorem Emits.map (h : Emits make texts) (f : β → γ) : Emits (f <$> make) texts :=
  h

end

def builtText (size refused : Nat) : String × List (String × Nat) :=
  ("built immutable set", [("len", size), ("duplicates", refused)])

def concatenatedText (appended size : Nat) : String × List (String × Nat) :=
  ("concatenated set", [("appended", appended), ("len", size)])

theorem Draft.emits_build (d : Draft α) :
    Emits d.build [builtText d.elements.length d.refused] := by
  rw [← d.length_eq]
  refine (emits_report (.setBuilt d.length d.refused)).bind_silent fun _ => ?_
  split
  · exact emits_freshCell.bind_silent fun _ => emits_pure _
  · exact emits_pure _

variable [BEq α] [Hashable α]

namespace Draft

theorem emits_build_extend {d : Draft α} (h : d.stage.Apart) (xs : List α) :
    Emits (d.extend xs).build
      [builtText (d.elements.length + (d.answers xs).count true)
        (d.refused + (d.answers xs).count false)] := by
  have hcounted := counted_extend h xs
  rw [← hcounted.length, ← hcounted.refused]
  exact (d.extend xs).emits_build

theorem emits_build_extend_withCapacity (capacity : Nat) (xs : List α) :
    let answers := (withCapacity capacity).answers xs
    Emits ((withCapacity capacity).extend xs).build
      [builtText (answers.count true) (answers.count false)] := by
  intro answers
  rw [← length_extend_withCapacity, ← refused_extend_withCapacity]
  exact emits_build _

theorem extend_withCapacity_of_distinct (capacity : Nat) {xs : List α} (h : Distinct xs) :
    ((withCapacity capacity).extend xs).elements = xs ∧
      ((withCapacity capacity).extend xs).refused = 0 := by
  have hd : Distinct ((withCapacity capacity : Draft α).elements ++ xs) := by
    rwa [elements_withCapacity]
  have hall := extend_of_distinct (d := withCapacity capacity)
    (Stage.apart_withCapacity capacity) hd
  rwa [elements_withCapacity] at hall

end Draft

namespace SetView

def Accounts (make : Journaled (SetView α))
    (announced : Nat → List (String × List (String × Nat))) (offers : Nat) : Prop :=
  ∃ size refused, Emits make (announced size ++ [builtText size refused]) ∧
    size + refused = offers ∧ ∀ journal, (make.run journal).1.length = size

theorem accounts_of_draft {make : Journaled (SetView α)}
    {announced : Nat → List (String × List (String × Nat))} (capacity : Nat) (xs : List α)
    (hemits : let d := (Draft.withCapacity capacity).extend xs
      Emits make (announced d.elements.length ++ [builtText d.elements.length d.refused]))
    (helements : ∀ journal,
      (make.run journal).1.elements = ((Draft.withCapacity capacity).extend xs).elements) :
    Accounts make announced xs.length := by
  refine ⟨_, _, hemits, ?_, fun journal => congrArg List.length (helements journal)⟩
  rw [Draft.length_extend_withCapacity, Draft.refused_extend_withCapacity, Draft.count_answers]

theorem accounts_collectWith (capacity : Nat) (xs : List α) :
    Accounts (collectWith capacity xs) (fun _ => []) xs.length :=
  accounts_of_draft capacity xs (Draft.emits_build _) fun journal => elements_build _ journal

theorem accounts_concatWith [Items σ α] [Items ρ α] (expected : Nat) (container : Option σ)
    (appended : Option ρ) :
    Accounts (concatWith expected container appended)
      (fun size => [concatenatedText (offered appended).length size])
      ((offered container).length + (offered appended).length) := by
  rw [← List.length_append]
  let capacity := expected + (offered appended).length
  refine accounts_of_draft capacity (offered container ++ offered appended) ?_ fun journal => ?_
  · intro d
    have hreport := emits_report (.setConcatenated (offered appended).length d.length)
    have hconcat := hreport.bind fun _ => d.emits_build
    rw [← d.length_eq] at hconcat ⊢
    rw [concatWith, ← Draft.extend_append]
    exact hconcat
  · rw [Draft.extend_append]
    exact elements_build _ _

theorem emits_collect_of_distinct {xs : List α} (h : Distinct xs) :
    Emits (collect xs) [builtText xs.length 0] := by
  obtain ⟨helements, hrefused⟩ := Draft.extend_withCapacity_of_distinct xs.length h
  have hbuild := ((Draft.withCapacity xs.length).extend xs).emits_build
  rw [helements, hrefused] at hbuild
  exact hbuild

theorem emits_wrap (s : HashedSet α) : Emits (wrap (some s)) [builtText s.elements.length 0] :=
  (emits_collect_of_distinct s.distinct).map some

theorem emits_wrap_shaped (s : HashedSet α) :
    Emits (ShapedView.wrap (some (.set s))) [builtText s.elements.length 0] :=
  ((emits_collect_of_distinct s.distinct).map ShapedView.set).map some

theorem emits_rebuilt {v : SetView α} (h : Distinct v.elements) (offers : List (Offer α)) :
    let answers := v.toDraft.answers (offers.flatMap Offer.elements)
    Emits (v.toDraft.offerAll offers).build
      [builtText (v.length + answers.count true) (answers.count false)] := by
  intro answers
  obtain ⟨helements, hrefused⟩ := Draft.extend_withCapacity_of_distinct v.length h
  have hapart := (Draft.counted_extend_withCapacity v.length v.elements).apart
  have hbuild := Draft.emits_build_extend hapart (offers.flatMap Offer.elements)
  rw [helements, hrefused, Nat.zero_add, ← Draft.offerAll_eq_extend] at hbuild
  exact hbuild

theorem set_events_account_for_offers [Items σ α] [Items ρ α] :
    (∀ (capacity : Nat) (offers : List (Offer α)),
      let offered := offers.flatMap Offer.elements
      let answers := (Draft.withCapacity capacity).answers offered
      Emits ((Draft.withCapacity capacity).offerAll offers).build
          [builtText (answers.count true) (answers.count false)] ∧
        answers.count true + answers.count false = offered.length) ∧
      ((∀ (capacity : Nat) (xs : List α),
          Accounts (collectWith capacity xs) (fun _ => []) xs.length) ∧
        (∀ container : σ,
          Accounts (ofContainer (some container)) (fun _ => []) (items container).length) ∧
        Emits (ofContainer (none : Option σ)) []) ∧
      (∀ s : HashedSet α, Emits (wrap (some s)) [builtText s.elements.length 0] ∧
        Emits (ShapedView.wrap (some (.set s))) [builtText s.elements.length 0]) ∧
      (∀ (journal : Journal) (handles : List (Handle α)), Session journal handles →
        ∀ h ∈ handles, h.view.toDraft.refused = 0 ∧
          ∀ offers : List (Offer α),
            let answers := h.view.toDraft.answers (offers.flatMap Offer.elements)
            Emits (h.view.toDraft.offerAll offers).build
              [builtText (h.view.length + answers.count true) (answers.count false)]) ∧
      ∀ (expected : Nat) (container : Option σ) (appended : Option ρ),
        Accounts (concatWith expected container appended)
          (fun size => [concatenatedText (offered appended).length size])
          ((offered container).length + (offered appended).length) := by
  refine ⟨fun capacity offers => ⟨?_, Draft.count_answers _ _⟩,
    ⟨accounts_collectWith, fun container => ?_, emits_pure _⟩,
    fun s => ⟨emits_wrap s, emits_wrap_shaped s⟩,
    fun journal handles session h hh => ?_, accounts_concatWith⟩
  · rw [Draft.offerAll_eq_extend]
    exact Draft.emits_build_extend_withCapacity capacity _
  · exact accounts_collectWith _ _
  · have hdistinct : Distinct h.view.elements := session.distinct_elements hh
    exact ⟨(Draft.extend_withCapacity_of_distinct h.view.length hdistinct).2,
      emits_rebuilt hdistinct⟩

theorem set_events_of_rebuilt_pair :
    let made := (collectWith 64 [2, 1, 2]).run .start
    made.1.toDraft.refused = 0 ∧
      Emits (made.1.toDraft.offerAll [.several [3, 1], .single 3]).build [builtText 3 2] := by
  intro made
  have hmade := made_collectWith 64 [2, 1, 2] .start
  have session : Session made.2 [⟨[2, 1, 2], made.1⟩] := .make (.start .start) hmade
  obtain ⟨-, -, -, hrebuilt, -⟩ :=
    set_events_account_for_offers (α := Nat) (σ := List Nat) (ρ := List Nat)
  obtain ⟨hrefused, hemits⟩ := hrebuilt _ _ session _ List.mem_cons_self
  refine ⟨hrefused, ?_⟩
  have helements : made.1.elements = [2, 1] := hmade.elements_eq
  have hlength : made.1.length = 2 := congrArg List.length helements
  have hanswers : made.1.toDraft.answers [3, 1, 3] = [true, false, false] := by
    rw [toDraft, hlength, helements]
    rfl
  have hoffers := hemits [.several [3, 1], .single 3]
  simp only [List.flatMap_cons, List.flatMap_nil, Offer.elements, List.cons_append,
    List.nil_append, hanswers, hlength] at hoffers
  exact hoffers

end SetView

end OptionalContainers
