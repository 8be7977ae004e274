import VersionGate.Proofs.CommandLine.Calls

/-!
# Effects of a call

Whatever the binder of the slot does, a call of a matcher leaves the tokens as they are, keeps
the cursor inside them, and changes the slot only when it ends with a value as its outcome.
-/

namespace VersionGate.CommandLine

namespace Matcher

variable (matcher : Matcher) (spec : String) (slot : Option Slot) (valueOptional : Bool)

/-- A call leaves the tokens as they are. -/
theorem tokens_attempt : (matcher.attempt spec slot valueOptional).matcher.tokens =
    matcher.tokens := by
  unfold attempt
  cases keywords spec <;> rfl

/-- A call refuses its alias spec, or it leaves what an attempt has come to. -/
theorem attempt_cases :
    (∃ complaint, keywords spec = .error complaint ∧
      matcher.attempt spec slot valueOptional = ⟨.error (.complaint complaint), matcher, slot⟩) ∨
    ∃ found result, keywords spec = .ok found ∧
      (matcher.Course found valueOptional slot result ∨ matcher.Escape found slot result) ∧
      matcher.attempt spec slot valueOptional =
        ⟨result.answer, { matcher with
          cursor := matcher.cursor + result.moved
          last := result.finding }, result.slot⟩ := by
  unfold attempt
  cases keywords spec with
  | error complaint => exact Or.inl ⟨complaint, rfl, rfl⟩
  | ok found =>
    exact Or.inr ⟨found, _, rfl, matcher.course_or_escape found valueOptional slot, rfl⟩

/-- A call that answers takes one of the courses. -/
theorem exists_course_of_answer {given : Bool}
    (hanswer : (matcher.attempt spec slot valueOptional).answer = .ok given) :
    ∃ found result, matcher.Course found valueOptional slot result ∧
      matcher.attempt spec slot valueOptional =
        ⟨result.answer, { matcher with
          cursor := matcher.cursor + result.moved
          last := result.finding }, result.slot⟩ := by
  rcases matcher.attempt_cases spec slot valueOptional with
    ⟨complaint, _, hattempt⟩ | ⟨found, result, _, hcourse | hescape, hattempt⟩
  · rw [hattempt] at hanswer
    cases hanswer
  · exact ⟨found, result, hcourse, hattempt⟩
  · obtain ⟨_, _, fault, _, _, hfault, _⟩ := hescape.exists_fault
    rw [hattempt] at hanswer
    cases hfault.symm.trans hanswer

/-- A call that answers with a value as its outcome binds the slot to it, and any other call
leaves the slot as it is. -/
theorem slot_attempt :
    (∃ held text value, slot = some held ∧ held.binder.convert text = .ok value ∧
      (matcher.attempt spec slot valueOptional).slot = some { held with bound := some value } ∧
      (∃ given, (matcher.attempt spec slot valueOptional).answer = .ok given) ∧
      (matcher.attempt spec slot valueOptional).matcher.last.outcome = .value ∧
      (matcher.attempt spec slot valueOptional).matcher.last.candidate = some text) ∨
    ((matcher.attempt spec slot valueOptional).slot = slot ∧
      ∀ given, (matcher.attempt spec slot valueOptional).answer = .ok given →
        (matcher.attempt spec slot valueOptional).matcher.last.outcome ≠ .value) := by
  rcases matcher.attempt_cases spec slot valueOptional with
    ⟨complaint, _, hattempt⟩ | ⟨found, result, _, hcourse | hescape, hattempt⟩ <;> rw [hattempt]
  · exact Or.inr ⟨rfl, fun given hanswer => by cases hanswer⟩
  · obtain ⟨given, hanswer, _⟩ := hcourse.answer_eq
    have hslot := hcourse.slot_eq
    split at hslot
    · next houtcome =>
      obtain ⟨held, text, value, hheld, hcandidate, hconvert, hbound⟩ := hslot
      exact Or.inl ⟨held, text, value, hheld, hconvert, hbound, ⟨given, hanswer⟩, houtcome,
        hcandidate⟩
    · next houtcome => exact Or.inr ⟨hslot, fun _ _ => houtcome⟩
  · obtain ⟨_, _, fault, _, _, hfault, hslot⟩ := hescape.exists_fault
    refine Or.inr ⟨hslot, fun given hanswer => ?_⟩
    cases hfault.symm.trans hanswer

/-- A call does not move the cursor past the end of the tokens. -/
theorem cursor_attempt_le (hinside : matcher.cursor ≤ matcher.tokens.size) :
    (matcher.attempt spec slot valueOptional).matcher.cursor ≤ matcher.tokens.size := by
  rcases matcher.attempt_cases spec slot valueOptional with
    ⟨complaint, _, hattempt⟩ | ⟨found, result, _, hcourse | hescape, hattempt⟩ <;> rw [hattempt]
  · exact hinside
  · exact hcourse.moved_le hinside
  · exact hescape.moved_le hinside

/-- A call at the end of the tokens leaves the slot as it is, and changes nothing of the
matcher but its finding. -/
theorem attempt_of_end (hend : matcher.tokens.size ≤ matcher.cursor) :
    (matcher.attempt spec slot valueOptional).slot = slot ∧
      (matcher.attempt spec slot valueOptional).matcher =
        { matcher with last := (matcher.attempt spec slot valueOptional).matcher.last } := by
  unfold attempt
  cases keywords spec with
  | error complaint => exact ⟨rfl, rfl⟩
  | ok found =>
    have hnone : matcher.tokens[matcher.cursor]? = none := by simpa using hend
    simp only [Attempt.atCursor, hnone]
    exact ⟨rfl, rfl⟩

end Matcher

end VersionGate.CommandLine
