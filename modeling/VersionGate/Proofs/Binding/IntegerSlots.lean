import VersionGate.Binding.Slot
import VersionGate.Proofs.Number.PlainDigits

/-!
# Slots for integers

A slot for integers takes a text as a whole or not at all: it binds the integer that the text
denotes, and a text that denotes none leaves it as it was. Whatever is tried on such a slot, it
holds the integer that was denoted last since it was cleared last.
-/

namespace VersionGate.Slot

open Number Text

/-- A step with a slot: a text is tried on it, or it is cleared. -/
inductive Step where
  | bind (text : String)
  | clear
deriving DecidableEq, Repr

/-- The slot after a step. A text that is refused leaves it as it was, and so does a fault. -/
def after (slot : Slot) : Step → Slot
  | .bind text =>
    match slot.bind text with
    | .ok (some filled) => filled
    | .ok none => slot
    | .error _ => slot
  | .clear => slot.clear

/-- The slot after some steps. -/
def afterAll (slot : Slot) (steps : List Step) : Slot :=
  steps.foldl after slot

/-- An idle step tries a text that denotes no integer. -/
def Step.IsIdle (step : Step) : Prop :=
  ∃ text, step = .bind text ∧ ¬∃ n, Denotes text.toList n

/-- What is held after some steps by a slot for integers: the integer that a text denoted, or
nothing since the slot was cleared, or what was held before. All later steps are idle. -/
inductive HoldsLast (before : Option Value) (steps : List Step) : Option Value → Prop
  | taken {earlier later : List Step} {text : String} {n : Int} :
    steps = earlier ++ .bind text :: later → Denotes text.toList n →
    (∀ step ∈ later, step.IsIdle) → HoldsLast before steps (some (.int n))
  | cleared {earlier later : List Step} :
    steps = earlier ++ .clear :: later → (∀ step ∈ later, step.IsIdle) →
    HoldsLast before steps none
  | kept : (∀ step ∈ steps, step.IsIdle) → HoldsLast before steps before

variable {slot : Slot} {text : String} {n : Int}

section Step

/-- A step keeps the binder. -/
theorem binder_after (slot : Slot) (step : Step) : (slot.after step).binder = slot.binder := by
  cases step with
  | clear => rfl
  | bind text =>
    simp only [after]
    split
    · next filled hbind => exact binder_of_bind hbind
    · rfl
    · rfl

/-- A slot for integers takes the integer that a trimmed text is read as, and refuses a text that
is not read. -/
theorem bind_of_readsIntegers (hslot : slot.binder = .integer) (text : String) :
    slot.bind text = match readInteger (trim text.toList) with
      | .ok n => .ok (some { slot with bound := some (.int n) })
      | .error _ => .ok none := by
  simp only [bind, hslot, Binder.convert]
  cases readInteger (trim text.toList) <;> rfl

/-- A slot for integers takes an integer exactly from the texts that denote it. -/
theorem bind_eq_some_iff (hslot : slot.binder = .integer) :
    slot.bind text = .ok (some { slot with bound := some (.int n) }) ↔ Denotes text.toList n := by
  rw [bind_of_readsIntegers hslot, ← readInteger_trim_eq_ok_iff]
  cases readInteger (trim text.toList) with
  | error fault => exact iff_of_false nofun nofun
  | ok m => simp

/-- A slot for integers refuses a text that denotes none. -/
theorem bind_eq_none (hslot : slot.binder = .integer) (hnone : ¬∃ n, Denotes text.toList n) :
    slot.bind text = .ok none := by
  rw [bind_of_readsIntegers hslot]
  cases hread : readInteger (trim text.toList) with
  | error fault => rfl
  | ok n => exact absurd ⟨n, readInteger_trim_eq_ok_iff.mp hread⟩ hnone

/-- A refused text leaves the slot as it was. -/
theorem after_bind_of_none (hnone : slot.bind text = .ok none) :
    slot.after (.bind text) = slot := by
  rw [after, hnone]

/-- A step takes the integer that its text denotes, clears the slot, or is idle and changes
nothing. -/
theorem after_cases (hslot : slot.binder = .integer) (step : Step) :
    (∃ text n, step = .bind text ∧ Denotes text.toList n ∧
      slot.after step = { slot with bound := some (.int n) }) ∨
    (step = .clear ∧ slot.after step = { slot with bound := none }) ∨
    (step.IsIdle ∧ slot.after step = slot) := by
  cases step with
  | clear => exact .inr (.inl ⟨rfl, rfl⟩)
  | bind text =>
    by_cases hdenotes : ∃ n, Denotes text.toList n
    · obtain ⟨n, hn⟩ := hdenotes
      refine .inl ⟨text, n, rfl, hn, ?_⟩
      rw [after, (bind_eq_some_iff hslot).mpr hn]
    · exact .inr (.inr ⟨⟨text, rfl, hdenotes⟩, after_bind_of_none (bind_eq_none hslot hdenotes)⟩)

end Step

section Steps

variable {before held : Option Value} {steps : List Step} {step : Step}

/-- What is held does not change by an idle step. -/
theorem HoldsLast.concat_idle (hholds : HoldsLast before steps held) (hidle : step.IsIdle) :
    HoldsLast before (steps ++ [step]) held := by
  have hmore {later : List Step} (hlater : ∀ other ∈ later, other.IsIdle) :
      ∀ other ∈ later ++ [step], other.IsIdle :=
    List.forall_mem_append.mpr ⟨hlater, List.forall_mem_singleton.mpr hidle⟩
  cases hholds with
  | taken hsteps hdenotes hlater =>
    rw [hsteps, List.append_assoc, List.cons_append]
    exact .taken rfl hdenotes (hmore hlater)
  | cleared hsteps hlater =>
    rw [hsteps, List.append_assoc, List.cons_append]
    exact .cleared rfl (hmore hlater)
  | kept hall => exact .kept (hmore hall)

/-- A slot for integers holds what was denoted last, or nothing since it was cleared, after any
steps. -/
theorem holdsLast_afterAll (hslot : slot.binder = .integer) (steps : List Step) :
    (slot.afterAll steps).binder = .integer ∧
      HoldsLast slot.bound steps (slot.afterAll steps).bound := by
  induction steps using List.reverseRecOn with
  | nil => exact ⟨hslot, .kept nofun⟩
  | append_singleton steps step ih =>
    obtain ⟨hbinder, hholds⟩ := ih
    have hconcat : slot.afterAll (steps ++ [step]) = (slot.afterAll steps).after step := by
      rw [afterAll, afterAll, List.foldl_concat]
    rw [hconcat]
    refine ⟨(binder_after _ step).trans hbinder, ?_⟩
    rcases after_cases hbinder step with
      ⟨text, n, rfl, hdenotes, hafter⟩ | ⟨rfl, hafter⟩ | ⟨hidle, hafter⟩
    · rw [hafter]
      exact .taken rfl hdenotes nofun
    · rw [hafter]
      exact .cleared rfl nofun
    · rw [hafter]
      exact hholds.concat_idle hidle

end Steps

/-- **Integer slots take a whole text or nothing.** A slot for integers takes an integer from a text
exactly when the text denotes it; every other text is refused and leaves the slot as it was. So an
integer is taken from what is written for it, with any blanks around it, and no text is taken that
holds a character which is neither a blank nor part of an integer. After any steps the slot holds
what was denoted last. -/
theorem bind_integer_iff_denotes (hslot : slot.binder = .integer) :
    (∀ (text : String) (n : Int),
      slot.bind text = .ok (some { slot with bound := some (.int n) }) ↔ Denotes text.toList n) ∧
    (∀ text : String, (¬∃ n, Denotes text.toList n) →
      slot.bind text = .ok none ∧ slot.after (.bind text) = slot) ∧
    (∀ (left right : String) (n : Int), AreBlanks left.toList → AreBlanks right.toList →
      Decimal.digitCount n.natAbs ≤ digitLimit →
      slot.bind (left ++ (Value.int n).plain ++ right) =
        .ok (some { slot with bound := some (.int n) })) ∧
    (∀ (text : String) (c : Char), c ∈ text.toList → isBlank c = false → isDigit c = false →
      c ∉ ['+', '-', '_'] → slot.bind text = .ok none) ∧
    ∀ steps : List Step, HoldsLast slot.bound steps (slot.afterAll steps).bound := by
  refine ⟨fun text n => bind_eq_some_iff hslot, fun text hnone => ?_,
    fun left right n hleft hright hcount => ?_, fun text c hc hblank hdigit hmark => ?_,
    fun steps => (holdsLast_afterAll hslot steps).2⟩
  · have hrefused := bind_eq_none hslot hnone
    exact ⟨hrefused, after_bind_of_none hrefused⟩
  · have hchars : (left ++ (Value.int n).plain ++ right).toList =
        left.toList ++ (toString n).toList ++ right.toList := by
      rw [String.toList_append, String.toList_append]
      rfl
    rw [bind_eq_some_iff hslot, hchars]
    exact denotes_toString hleft hcount hright
  · refine bind_eq_none hslot ?_
    rintro ⟨n, hdenotes⟩
    rcases hdenotes.mem hc hblank with hdigit' | hmark'
    · rw [hdigit] at hdigit'
      cases hdigit'
    · exact hmark hmark'

/-- A slot for integers that holds seven. -/
def heldSeven : Slot := ⟨.integer, some (.int 7)⟩

/-- Digits of two scripts with an underscore between them are taken behind a minus and among blanks,
digits with letters behind them are not, and the slot keeps what it took until it is cleared. -/
theorem bind_integer_iff_denotes_mixed :
    heldSeven.binder = .integer ∧
    heldSeven.bind "\t-1_٠\u3000" = .ok (some ⟨.integer, some (.int (-10))⟩) ∧
    heldSeven.bind "12abc" = .ok none ∧
    heldSeven.bind ("\n" ++ (Value.int (-42)).plain ++ " ") =
      .ok (some ⟨.integer, some (.int (-42))⟩) ∧
    HoldsLast (some (.int 7)) [.clear, .bind "5", .bind "five"] (some (.int 5)) := by
  have hdenotes : Denotes "\t-1_٠\u3000".toList (-10) := by
    have hrun : IsDigitRun [1, 0] ['1', '_', '٠'] := .marked (by decide) (.last (by decide))
    have hten : Sign.minus.applyTo (Nat.ofDigits 10 [1, 0].reverse) = -10 := by decide
    have hwritten : Denotes (['\t'] ++ (Sign.minus.chars ++ ['1', '_', '٠']) ++ ['\u3000'])
        (Sign.minus.applyTo (Nat.ofDigits 10 [1, 0].reverse)) :=
      .intro (by decide) hrun (by decide) (by decide)
    rwa [hten] at hwritten
  have hslot : heldSeven.binder = .integer := rfl
  obtain ⟨htaken, _, hplain, hleft, hsteps⟩ := bind_integer_iff_denotes hslot
  exact ⟨rfl, (htaken _ _).mpr hdenotes, hleft "12abc" 'a' (by decide) (by decide) (by decide)
    (by decide), hplain "\n" " " (-42) (by decide) (by decide) (by decide), hsteps _⟩

end VersionGate.Slot
