import Mathlib.Data.List.Basic
import VersionGate.Proofs.CommandLine.Effects
import VersionGate.Proofs.Table

/-!
# Dialogues with a matcher

The slots of a dialogue live from one step to the next. A step changes the slot that it names
and no other one, and only when it clears the slot or finds a value for it. What a slot holds
after some steps is therefore told by their records: the value that was found last since the
slot was cleared last.
-/

namespace VersionGate.CommandLine

/-- The slot that a step names. -/
def Step.slot? : Step → Option String
  | .attempt _ slot _ => slot
  | .clear slot => some slot
  | _ => none

namespace Dialogue

/-- The record of a step: its answer, if it is an attempt, and the finding that it leaves. -/
structure Record where
  step : Step
  answer : Option (Except Fault Bool)
  last : Finding

/-- A step that finds a text as the value for the slot of a name: an attempt that names the
slot, lets out no fault, and ends with a value as its outcome. -/
structure Record.Finds (record : Record) (name text : String) : Prop where
  attempt_eq : ∃ spec valueOptional, record.step = .attempt spec (some name) valueOptional
  answer_eq : ∃ given, record.answer = some (.ok given)
  outcome_eq : record.last.outcome = .value
  candidate_eq : record.last.candidate = some text

/-- A step that clears the slot of a name. -/
def Record.Clears (record : Record) (name : String) : Prop :=
  record.step = .clear name

/-- The record of a step that is made next. -/
def record (dialogue : Dialogue) (step : Step) : Record :=
  ⟨step, (dialogue.perform step).1, (dialogue.perform step).2.matcher.last⟩

/-- The records of steps that are made one after the other. -/
def records (dialogue : Dialogue) : List Step → List Record
  | [] => []
  | step :: steps => dialogue.record step :: (dialogue.perform step).2.records steps

/-- A slot holds what its binder converts the text to that was found for it last since it was
cleared last; it is empty when no text was found for it since. -/
inductive HoldsLast (name : String) (records : List Record) : Slot → Prop
  | found {binder : Binder} {earlier later : List Record} {record : Record} {text : String}
    {value : Value} :
    records = earlier ++ record :: later → record.Finds name text →
    binder.convert text = .ok value →
    (∀ other ∈ later, ¬other.Clears name ∧ ∀ text, ¬other.Finds name text) →
    HoldsLast name records ⟨binder, some value⟩
  | empty {binder : Binder} :
    (∀ earlier record later text, records = earlier ++ record :: later →
      record.Finds name text → ∃ other ∈ later, other.Clears name) →
    HoldsLast name records ⟨binder, none⟩

/-- A step is orderly: it leaves the tokens and all slots that it does not name as they are. If
it is an attempt it does not move the cursor past the end of the tokens, and at the end it
changes nothing but the finding. -/
structure IsOrderly (before : Dialogue) (step : Step) : Prop where
  tokens_eq : (before.perform step).2.matcher.tokens = before.matcher.tokens
  others_eq : ∀ name, step.slot? ≠ some name →
    (before.perform step).2.slots.get? name = before.slots.get? name
  cursor_le : ∀ spec slot valueOptional, step = .attempt spec slot valueOptional →
    before.matcher.cursor ≤ before.matcher.tokens.size →
    (before.perform step).2.matcher.cursor ≤ before.matcher.tokens.size
  at_end : ∀ spec slot valueOptional, step = .attempt spec slot valueOptional →
    before.matcher.tokens.size ≤ before.matcher.cursor →
    (before.perform step).2 = { before with
      matcher := { before.matcher with last := (before.perform step).2.matcher.last } }

/-- The steps of a dialogue keep its slots straight. -/
structure KeepsSlots (start : Dialogue) (steps : List Step) : Prop where
  tokens_eq : (start.performAll steps).matcher.tokens = start.matcher.tokens
  holdsLast : ∀ name slot, start.slots.get? name = some slot →
    ∃ held, (start.performAll steps).slots.get? name = some held ∧
      held.binder = slot.binder ∧ HoldsLast name (start.records steps) held
  isOrderly : ∀ earlier step later, steps = earlier ++ step :: later →
    (start.performAll earlier).IsOrderly step

section Step

variable {before : Dialogue} {name : String} {slot : Slot}

/-- A slot that is put back is found under its name, and all others are as before. -/
theorem get?_restore (slots : Table Slot) (name : String) (slot : Slot) (other : String) :
    (restore slots (some name) (some slot)).get? other =
      if other = name then some slot else slots.get? other :=
  slots.get?_insert name slot other

/-- Putting back a slot as it was changes nothing. -/
theorem restore_bind_get? (slots : Table Slot) (name : Option String) :
    restore slots name (name.bind slots.get?) = slots := by
  cases name with
  | none => rfl
  | some name =>
    cases hslot : slots.get? name with
    | none => simp only [Option.bind_some, hslot, restore]
    | some slot =>
      simp only [Option.bind_some, hslot, restore]
      exact Table.insert_of_get? hslot

/-- Under another name than that of the slot that is put back all is as before. -/
theorem get?_restore_of_ne (slots : Table Slot) {name : Option String} (slot : Option Slot)
    {other : String} (hother : name ≠ some other) :
    (restore slots name slot).get? other = slots.get? other := by
  cases name with
  | none => rfl
  | some name =>
    cases slot with
    | none => rfl
    | some slot =>
      rw [get?_restore, if_neg]
      rintro rfl
      exact hother rfl

/-- Every step is orderly. -/
theorem isOrderly (before : Dialogue) (step : Step) : before.IsOrderly step := by
  cases step with
  | attempt spec name valueOptional =>
    exact {
      tokens_eq := before.matcher.tokens_attempt spec _ valueOptional
      others_eq := fun other hother => get?_restore_of_ne before.slots _ hother
      cursor_le := fun _ _ _ _ hinside =>
        before.matcher.cursor_attempt_le spec _ valueOptional hinside
      at_end := by
        intro _ _ _ _ hend
        obtain ⟨hslot, hmatcher⟩ := before.matcher.attempt_of_end spec
          (name.bind before.slots.get?) valueOptional hend
        simp only [perform, hslot, restore_bind_get?]
        rw [hmatcher] }
  | clear name =>
    exact {
      tokens_eq := rfl
      others_eq := fun other hother => get?_restore_of_ne before.slots _ hother
      cursor_le := fun _ _ _ hstep => by cases hstep
      at_end := fun _ _ _ hstep => by cases hstep }
  | _ =>
    exact {
      tokens_eq := rfl
      others_eq := fun _ _ => rfl
      cursor_le := fun _ _ _ hstep => by cases hstep
      at_end := fun _ _ _ hstep => by cases hstep }

/-- A step finds a value for a slot, clears it, or leaves it as it is. -/
theorem perform_cases (step : Step) (hslot : before.slots.get? name = some slot) :
    (∃ text value, (before.record step).Finds name text ∧
      slot.binder.convert text = .ok value ∧
      (before.perform step).2.slots.get? name = some { slot with bound := some value }) ∨
    ((before.record step).Clears name ∧
      (before.perform step).2.slots.get? name = some { slot with bound := none }) ∨
    ((∀ text, ¬(before.record step).Finds name text) ∧ ¬(before.record step).Clears name ∧
      (before.perform step).2.slots.get? name = some slot) := by
  by_cases hnamed : step.slot? = some name
  · cases step with
    | attempt spec named valueOptional =>
      obtain rfl : named = some name := hnamed
      have hcall := before.matcher.slot_attempt spec (some slot) valueOptional
      have hbind : (some name).bind before.slots.get? = some slot := by
        rw [Option.bind_some, hslot]
      simp only [record, perform, hbind]
      rcases hcall with
        ⟨held, text, value, hheld, hconvert, hbound, ⟨given, hanswer⟩, houtcome, hcandidate⟩ |
          ⟨hkept, hnot⟩
      · obtain rfl : slot = held := Option.some.inj hheld
        refine Or.inl ⟨text, value, ⟨⟨_, _, rfl⟩, ⟨given, by rw [hanswer]⟩, houtcome, hcandidate⟩,
          hconvert, ?_⟩
        rw [hbound, get?_restore, if_pos rfl]
      · refine Or.inr (Or.inr ⟨?_, (fun hclears => by cases hclears), ?_⟩)
        · rintro text ⟨_, ⟨given, hanswer⟩, houtcome, _⟩
          exact hnot given (Option.some.inj hanswer) houtcome
        · rw [hkept, get?_restore, if_pos rfl]
    | clear named =>
      obtain rfl : named = name := Option.some.inj hnamed
      refine Or.inr (Or.inl ⟨rfl, ?_⟩)
      simp only [perform, hslot, Option.map_some]
      rw [get?_restore, if_pos rfl]
      rfl
    | _ => cases hnamed
  · refine Or.inr (Or.inr ⟨?_, ?_, ?_⟩)
    · rintro text ⟨⟨spec, valueOptional, hstep⟩, _⟩
      have hstep : step = .attempt spec (some name) valueOptional := hstep
      exact hnamed (by rw [hstep]; rfl)
    · intro hclears
      have hstep : step = .clear name := hclears
      exact hnamed (by rw [hstep]; rfl)
    · rw [(before.isOrderly step).others_eq name hnamed, hslot]

end Step

section Steps

variable {name : String} {records : List Record} {record : Record} {slot : Slot}

/-- A slot for which a text is found holds the value of that text. -/
theorem HoldsLast.concat_of_finds {binder : Binder} {text : String} {value : Value}
    (hfinds : record.Finds name text) (hconvert : binder.convert text = .ok value) :
    HoldsLast name (records ++ [record]) ⟨binder, some value⟩ :=
  .found rfl hfinds hconvert (by simp)

/-- One of some records and one more is this last one, or one of the others with the last one
behind it. -/
theorem eq_or_exists_of_concat_eq {earlier later : List Record} {other : Record}
    (hrecords : records ++ [record] = earlier ++ other :: later) :
    record = other ∨
      ∃ between, later = between ++ [record] ∧ records = earlier ++ other :: between := by
  rcases List.eq_nil_or_concat' later with rfl | ⟨between, last, rfl⟩
  · exact Or.inl (List.append_singleton_inj.mp hrecords).2
  · rw [← List.cons_append, ← List.append_assoc] at hrecords
    obtain ⟨hrest, rfl⟩ := List.append_singleton_inj.mp hrecords
    exact Or.inr ⟨between, rfl, hrest⟩

/-- A slot that is cleared is empty. -/
theorem HoldsLast.concat_of_clears {binder : Binder} (hclears : record.Clears name) :
    HoldsLast name (records ++ [record]) ⟨binder, none⟩ := by
  refine .empty fun earlier other later text hrecords hfinds => ?_
  rcases eq_or_exists_of_concat_eq hrecords with rfl | ⟨between, rfl, _⟩
  · -- A step that finds a text does not clear a slot.
    obtain ⟨spec, valueOptional, hattempt⟩ := hfinds.attempt_eq
    rw [hclears] at hattempt
    cases hattempt
  · exact ⟨record, by simp, hclears⟩

/-- A slot that is left alone holds what it held. -/
theorem HoldsLast.concat_of_not (hholds : HoldsLast name records slot)
    (hfinds : ∀ text, ¬record.Finds name text) (hclears : ¬record.Clears name) :
    HoldsLast name (records ++ [record]) slot := by
  cases hholds with
  | @found binder earlier later found text value hrecords hfound hconvert hlater =>
    have hrecords' : records ++ [record] = earlier ++ found :: (later ++ [record]) := by
      simp [hrecords]
    refine .found hrecords' hfound hconvert fun other hother => ?_
    rcases List.mem_append.mp hother with hother | hother
    · exact hlater other hother
    · obtain rfl := List.mem_singleton.mp hother
      exact ⟨hclears, hfinds⟩
  | empty hempty =>
    refine .empty fun earlier other later text hrecords hfound => ?_
    rcases eq_or_exists_of_concat_eq hrecords with rfl | ⟨between, rfl, hrest⟩
    · exact absurd hfound (hfinds text)
    · obtain ⟨cleared, hcleared, hclear⟩ := hempty earlier other between text hrest hfound
      exact ⟨cleared, by simp [hcleared], hclear⟩

/-- The last of some steps is made after all others. -/
theorem performAll_concat (start : Dialogue) (steps : List Step) (step : Step) :
    start.performAll (steps ++ [step]) = ((start.performAll steps).perform step).2 := by
  simp [performAll]

/-- The last record is that of a step that is made after all others. -/
theorem records_concat (start : Dialogue) (steps : List Step) (step : Step) :
    start.records (steps ++ [step]) =
      start.records steps ++ [(start.performAll steps).record step] := by
  induction steps generalizing start with
  | nil => rfl
  | cons first steps ih =>
    simp only [List.cons_append, Dialogue.records, ih]
    rfl

/-- Steps do not change the tokens. -/
theorem tokens_performAll (start : Dialogue) (steps : List Step) :
    (start.performAll steps).matcher.tokens = start.matcher.tokens := by
  induction steps using List.reverseRecOn with
  | nil => rfl
  | append_singleton steps step ih =>
    rw [performAll_concat, ((start.performAll steps).isOrderly step).tokens_eq, ih]

/-- A slot that is empty at first holds what was found for it last. -/
theorem holdsLast_performAll {start : Dialogue} (steps : List Step)
    (hslot : start.slots.get? name = some slot) (hempty : slot.bound = none) :
    ∃ held, (start.performAll steps).slots.get? name = some held ∧
      held.binder = slot.binder ∧ HoldsLast name (start.records steps) held := by
  induction steps using List.reverseRecOn with
  | nil =>
    obtain ⟨binder, bound⟩ := slot
    obtain rfl : bound = none := hempty
    exact ⟨_, hslot, rfl, .empty (by simp [Dialogue.records])⟩
  | append_singleton steps step ih =>
    obtain ⟨held, hheld, hbinder, hholds⟩ := ih
    rw [performAll_concat, records_concat]
    rcases perform_cases step hheld with
      ⟨text, value, hfinds, hconvert, hafter⟩ | ⟨hclears, hafter⟩ | ⟨hfinds, hclears, hafter⟩
    · exact ⟨_, hafter, hbinder, .concat_of_finds hfinds hconvert⟩
    · exact ⟨_, hafter, hbinder, .concat_of_clears hclears⟩
    · exact ⟨held, hafter, hbinder, hholds.concat_of_not hfinds hclears⟩

end Steps

/-- **A dialogue keeps its slots straight.** After any steps, those that let out faults
included, each slot that was empty at first holds what was found for it last since it was
cleared, and every single step was orderly. -/
theorem performAll_keepsSlots {start : Dialogue} (steps : List Step)
    (hempty : ∀ name slot, start.slots.get? name = some slot → slot.bound = none) :
    start.KeepsSlots steps where
  tokens_eq := start.tokens_performAll steps
  holdsLast := fun name slot hslot => holdsLast_performAll steps hslot (hempty name slot hslot)
  isOrderly := fun earlier step _ _ => (start.performAll earlier).isOrderly step

/-- A dialogue about a count and a letter. -/
def countAndLetter : Dialogue :=
  ⟨{ tokens := #["-n", "4", "-n", "x", "-l", "q"] },
    ⟨[("count", ⟨.integer, none⟩), ("letter", ⟨.converter .letter, none⟩)]⟩⟩

/-- Steps of which the first finds a value, the second has it refused, and the two after them
let out faults. -/
def countAndLetterSteps : List Step :=
  [.attempt "-n" (some "count") false, .attempt "-n" (some "count") false, .advance 1,
    .attempt "-l" (some "letter") false, .attempt "-n,-l" (some "count") false,
    .clear "letter", .seek 9, .attempt "-n" (some "count") true]

/-- The count is kept through all that fails after it. -/
theorem performAll_keepsSlots_countAndLetter :
    (∀ name slot, countAndLetter.slots.get? name = some slot → slot.bound = none) ∧
    countAndLetter.KeepsSlots countAndLetterSteps ∧
    (countAndLetter.performAll countAndLetterSteps).slots.get? "count" =
      some ⟨.integer, some (.int 4)⟩ := by
  have hempty : ∀ name slot, countAndLetter.slots.get? name = some slot → slot.bound = none := by
    intro name slot hslot
    simp only [countAndLetter, Table.get?, Table.lookup_cons_eq_ite, List.lookup_nil] at hslot
    split at hslot
    · obtain rfl := Option.some.inj hslot
      rfl
    · split at hslot
      · obtain rfl := Option.some.inj hslot
        rfl
      · cases hslot
  exact ⟨hempty, performAll_keepsSlots countAndLetterSteps hempty, rfl⟩

end Dialogue

end VersionGate.CommandLine
