import VersionGate.Proofs.CommandLine.Effects

/-!
# Faults of a call

A call of a matcher lets out a fault when its alias spec is wrong, or when the binder of its
slot raises one about the text that is offered. The tokens and the slot are then left as they
were. So is the cursor, in every case but one: when the text stands behind its keyword, the
cursor was moved behind both of them and is not put back.
-/

namespace VersionGate.CommandLine.Matcher

variable {matcher : Matcher} {spec : String} {slot : Option Slot} {valueOptional : Bool}

/-- The binder of the slot raises a fault about the text that the first keyword offers, be it
attached to the keyword or the next token. -/
def RaisesOn (matcher : Matcher) (spec : String) (slot : Option Slot) (separate : Bool)
    (fault : Fault) : Prop :=
  ∃ found token keyword text held, keywords spec = .ok found ∧ slot = some held ∧
    matcher.token? = some token ∧ IsFirstSuited matcher.threshold found slot token keyword ∧
    matcher.Offers keyword separate text ∧ held.binder.convert text = .error (.escaped fault)

/-- A fault is raised about one text only, which is attached or separate. -/
theorem RaisesOn.separate_eq {separate separate' : Bool} {fault fault' : Fault}
    (hraises : matcher.RaisesOn spec slot separate fault)
    (hraises' : matcher.RaisesOn spec slot separate' fault') : separate = separate' := by
  obtain ⟨found, token, keyword, _, _, hfound, _, htoken, hfirst, hoffers, _⟩ := hraises
  obtain ⟨found', token', keyword', _, _, hfound', _, htoken', hfirst', hoffers', _⟩ := hraises'
  obtain rfl : found = found' := Except.ok.inj (hfound.symm.trans hfound')
  obtain rfl : token = token' := Option.some.inj (htoken.symm.trans htoken')
  obtain rfl := hfirst.unique hfirst'
  rw [Bool.eq_iff_iff, hoffers.separate_iff, hoffers'.separate_iff]

/-- What a call leaves that lets out a fault. -/
structure Call.Faulted (before : Matcher) (spec : String) (slot : Option Slot) (fault : Fault)
    (call : Call) : Prop where
  cause : (∃ complaint, keywords spec = .error complaint ∧ fault = .complaint complaint) ∨
    ∃ separate, before.RaisesOn spec slot separate fault
  tokens_eq : call.matcher.tokens = before.tokens
  threshold_eq : call.matcher.threshold = before.threshold
  slot_eq : call.slot = slot
  cursor_eq_iff : call.matcher.cursor = before.cursor ↔ ¬before.RaisesOn spec slot true fault
  cursor_eq_add_two : before.RaisesOn spec slot true fault →
    call.matcher.cursor = before.cursor + 2

/-- **A call that lets out a fault leaves no trace but for the cursor.** The slot and the tokens
are as before, whatever the fault. The cursor is as before too, unless the binder raised the
fault about the token behind the keyword; then it is behind that token. -/
theorem attempt_of_fault {fault : Fault}
    (hfault : (matcher.attempt spec slot valueOptional).answer = .error fault) :
    (matcher.attempt spec slot valueOptional).Faulted matcher spec slot fault := by
  rcases matcher.attempt_cases spec slot valueOptional with
    ⟨complaint, hkeywords, hattempt⟩ | ⟨found, result, hkeywords, hcourse | hescape, hattempt⟩ <;>
    rw [hattempt] at hfault ⊢
  · have hnot (separate : Bool) : ¬matcher.RaisesOn spec slot separate fault := by
      rintro ⟨found, _, _, _, _, hfound, _⟩
      rw [hkeywords] at hfound
      cases hfound
    exact {
      cause := Or.inl ⟨complaint, hkeywords, (Except.error.inj hfault).symm⟩
      tokens_eq := rfl
      threshold_eq := rfl
      slot_eq := rfl
      cursor_eq_iff := by simp [hnot]
      cursor_eq_add_two := fun hraises => absurd hraises (hnot true) }
  · obtain ⟨given, hanswer, _⟩ := hcourse.answer_eq
    cases hanswer.symm.trans hfault
  · cases hescape with
    | @escaped held token keyword text separate fault' htoken hfirst hoffers hconvert =>
      obtain rfl : fault' = fault := Except.error.inj hfault
      have hraises : matcher.RaisesOn spec (some held) separate fault' :=
        ⟨found, token, keyword, text, held, hkeywords, rfl, htoken, hfirst, hoffers, hconvert⟩
      have hmoved : (matcher.RaisesOn spec (some held) true fault') ↔ separate = true :=
        ⟨fun htrue => hraises.separate_eq htrue, fun heq => heq ▸ hraises⟩
      exact {
        cause := Or.inr ⟨separate, hraises⟩
        tokens_eq := rfl
        threshold_eq := rfl
        slot_eq := rfl
        cursor_eq_iff := by
          rw [hmoved]
          cases separate <;> simp
        cursor_eq_add_two := by
          rw [hmoved]
          rintro rfl
          rfl }

/-- A letter that is not in the table is passed over with its keyword. -/
theorem attempt_of_fault_letter :
    (⟨#["--letter", "x"], 0, 2, {}⟩ : Matcher).attempt "--letter"
        (some ⟨.converter .letter, none⟩) false =
      ⟨.error (.unknownKey "x"), ⟨#["--letter", "x"], 2, 2, {}⟩,
        some ⟨.converter .letter, none⟩⟩ ∧
    ((⟨#["--letter", "x"], 0, 2, {}⟩ : Matcher).attempt "--letter"
        (some ⟨.converter .letter, none⟩) false).Faulted ⟨#["--letter", "x"], 0, 2, {}⟩
      "--letter" (some ⟨.converter .letter, none⟩) (.unknownKey "x") :=
  ⟨rfl, attempt_of_fault rfl⟩

/-- A call that lets out a fault need not leave the cursor in its place. -/
theorem not_attempt_keeps_cursor :
    ¬∀ (matcher : Matcher) (spec : String) (slot : Option Slot) (valueOptional : Bool)
      (fault : Fault), (matcher.attempt spec slot valueOptional).answer = .error fault →
        (matcher.attempt spec slot valueOptional).matcher.cursor = matcher.cursor ∧
        (matcher.attempt spec slot valueOptional).slot = slot ∧
        (matcher.attempt spec slot valueOptional).matcher.tokens = matcher.tokens := by
  intro hkeeps
  have hfault : ((⟨#["--letter", "x"], 0, 2, {}⟩ : Matcher).attempt "--letter"
      (some ⟨.converter .letter, none⟩) false).answer = .error (.unknownKey "x") := rfl
  have hcursor := (hkeeps _ _ _ _ _ hfault).1
  have hmoved : ((⟨#["--letter", "x"], 0, 2, {}⟩ : Matcher).attempt "--letter"
      (some ⟨.converter .letter, none⟩) false).matcher.cursor = 2 := rfl
  rw [hmoved] at hcursor
  cases hcursor

end VersionGate.CommandLine.Matcher
