import VersionGate.CommandLine.Matcher
import VersionGate.Proofs.CommandLine.Failures

/-!
# Calls of a matcher

A call of a matcher is observed through its answer, the finding, the cursor and the slot.
The six courses that a call can take are listed once, beside the one in which it lets out a
fault. Each of the observations is read off them, so that all of them tell the same of the
token under the cursor.
-/

namespace VersionGate.CommandLine

/-- A keyword suits a token: it is the whole token, or it begins the token, is not longer
than the threshold, and there is a slot for what follows it. -/
def Suits (threshold : Int) (slot : Option Slot) (token keyword : String) : Prop :=
  token = keyword ∨
    ((∃ text, token = keyword ++ text) ∧ slot.isSome = true ∧ (keyword.length : Int) ≤ threshold)

/-- A keyword suits a token, and none of those that stand before it in the list does. -/
def IsFirstSuited (threshold : Int) (keywords : List String) (slot : Option Slot)
    (token keyword : String) : Prop :=
  ∃ earlier later, keywords = earlier ++ keyword :: later ∧ Suits threshold slot token keyword ∧
    ∀ other ∈ earlier, ¬Suits threshold slot token other

/-- A keyword applies to the tokens that it suits. -/
theorem applies_iff_suits {threshold : Int} {slot : Option Slot} {token keyword : String} :
    applies threshold slot.isSome token keyword = true ↔ Suits threshold slot token keyword := by
  rw [applies_iff, Suits]
  constructor
  · rintro (heq | ⟨text, _, htoken, hslot, hshort⟩)
    · exact Or.inl heq
    · exact Or.inr ⟨⟨text, htoken⟩, hslot, hshort⟩
  · rintro (heq | ⟨⟨text, htoken⟩, hslot, hshort⟩)
    · exact Or.inl heq
    · by_cases htext : text = ""
      · left
        rw [htoken, htext, String.append_empty]
      · exact Or.inr ⟨text, htext, htoken, hslot, hshort⟩

/-- The keyword that is found in a list is the first one that suits the token. -/
theorem isFirstSuited_of_find? {threshold : Int} {keywords : List String} {slot : Option Slot}
    {token keyword : String}
    (hfind : keywords.find? (applies threshold slot.isSome token) = some keyword) :
    IsFirstSuited threshold keywords slot token keyword := by
  obtain ⟨happlies, earlier, later, hkeywords, hearlier⟩ :=
    List.find?_eq_some_iff_append.mp hfind
  refine ⟨earlier, later, hkeywords, applies_iff_suits.mp happlies, fun other hother hsuits => ?_⟩
  have hnot := hearlier other hother
  rw [applies_iff_suits.mpr hsuits] at hnot
  cases hnot

/-- The first keyword that suits a token is the one that is found in the list. -/
theorem IsFirstSuited.find?_eq {threshold : Int} {keywords : List String} {slot : Option Slot}
    {token keyword : String} (hfirst : IsFirstSuited threshold keywords slot token keyword) :
    keywords.find? (applies threshold slot.isSome token) = some keyword := by
  obtain ⟨earlier, later, hkeywords, hsuits, hearlier⟩ := hfirst
  refine List.find?_eq_some_iff_append.mpr
    ⟨applies_iff_suits.mpr hsuits, earlier, later, hkeywords, fun other hother => ?_⟩
  rw [Bool.not_eq_true', ← Bool.not_eq_true, applies_iff_suits]
  exact hearlier other hother

/-- At most one keyword is the first that suits a token. -/
theorem IsFirstSuited.unique {threshold : Int} {keywords : List String} {slot : Option Slot}
    {token keyword keyword' : String} (hfirst : IsFirstSuited threshold keywords slot token keyword)
    (hfirst' : IsFirstSuited threshold keywords slot token keyword') : keyword = keyword' := by
  have hfind := hfirst.find?_eq
  rw [hfirst'.find?_eq, Option.some.injEq] at hfind
  exact hfind.symm

namespace Matcher

/-- The token under the cursor. -/
def token? (matcher : Matcher) : Option String :=
  matcher.tokens[matcher.cursor]?

/-- A keyword under the cursor offers a text as its value: what is attached to it, or the
next token when the keyword stands alone. -/
inductive Offers (matcher : Matcher) (keyword : String) : Bool → String → Prop
  | attached {text : String} :
    matcher.token? = some (keyword ++ text) → text ≠ "" →
    (keyword.length : Int) ≤ matcher.threshold → matcher.Offers keyword false text
  | separate {text : String} :
    matcher.token? = some keyword → matcher.tokens[matcher.cursor + 1]? = some text →
    matcher.Offers keyword true text

/-- The courses that an attempt with some keywords can take. -/
inductive Course (matcher : Matcher) (keywords : List String) (valueOptional : Bool) :
    Option Slot → Attempt → Prop
  | ended {slot : Option Slot} :
    matcher.tokens.size ≤ matcher.cursor → matcher.Course keywords valueOptional slot (.nothing slot)
  | unsuited {slot : Option Slot} {token : String} :
    matcher.token? = some token →
    (∀ keyword ∈ keywords, ¬Suits matcher.threshold slot token keyword) →
    matcher.Course keywords valueOptional slot (.nothing slot)
  | flag {keyword : String} :
    matcher.token? = some keyword →
    IsFirstSuited matcher.threshold keywords none keyword keyword →
    matcher.Course keywords valueOptional none (.flag keyword)
  | missing {slot : Slot} {keyword : String} :
    matcher.token? = some keyword →
    IsFirstSuited matcher.threshold keywords (some slot) keyword keyword →
    matcher.cursor + 1 = matcher.tokens.size →
    matcher.Course keywords valueOptional (some slot) (.withoutValue keyword slot valueOptional)
  | bound {slot : Slot} {token keyword text : String} {separate : Bool} {value : Value} :
    matcher.token? = some token →
    IsFirstSuited matcher.threshold keywords (some slot) token keyword →
    matcher.Offers keyword separate text → slot.binder.convert text = .ok value →
    matcher.Course keywords valueOptional (some slot)
      { answer := .ok true
        finding := ⟨.value, some keyword, some text⟩
        moved := if separate then 2 else 0
        slot := some { slot with bound := some value } }
  | refused {slot : Slot} {token keyword text : String} {separate : Bool} {reason : Refusal} :
    matcher.token? = some token →
    IsFirstSuited matcher.threshold keywords (some slot) token keyword →
    matcher.Offers keyword separate text →
    slot.binder.convert text = .error (.refused reason) →
    matcher.Course keywords valueOptional (some slot)
      { answer := .ok valueOptional
        finding := ⟨.invalidValue, some keyword, some text⟩
        moved := if separate then 1 else 0
        slot := some slot }

/-- An attempt lets out the fault that the binder of the slot raises about the text that the
first keyword offers. -/
inductive Escape (matcher : Matcher) (keywords : List String) : Option Slot → Attempt → Prop
  | escaped {slot : Slot} {token keyword text : String} {separate : Bool} {fault : Fault} :
    matcher.token? = some token →
    IsFirstSuited matcher.threshold keywords (some slot) token keyword →
    matcher.Offers keyword separate text →
    slot.binder.convert text = .error (.escaped fault) →
    matcher.Escape keywords (some slot)
      { answer := .error fault, moved := if separate then 2 else 0, slot := some slot }

section Course

variable {matcher : Matcher} {keywords : List String} {valueOptional : Bool}
  {slot : Option Slot} {attempt : Attempt}

/-- An attempt with an offered text binds it, is refused, or lets out a fault. -/
theorem Offers.course_or_escape {slot : Slot} {token keyword text : String} {separate : Bool}
    (hoffers : matcher.Offers keyword separate text) (htoken : matcher.token? = some token)
    (hfirst : IsFirstSuited matcher.threshold keywords (some slot) token keyword) :
    matcher.Course keywords valueOptional (some slot)
        (.withValue keyword text slot valueOptional (if separate then 2 else 0)
          (if separate then 1 else 0)) ∨
      matcher.Escape keywords (some slot)
        (.withValue keyword text slot valueOptional (if separate then 2 else 0)
          (if separate then 1 else 0)) := by
  cases hconvert : slot.binder.convert text with
  | ok value =>
    simp only [Attempt.withValue, Slot.bind, hconvert]
    exact Or.inl (.bound htoken hfirst hoffers hconvert)
  | error failure =>
    cases failure with
    | refused reason =>
      simp only [Attempt.withValue, Slot.bind, hconvert]
      exact Or.inl (.refused htoken hfirst hoffers hconvert)
    | escaped fault =>
      simp only [Attempt.withValue, Slot.bind, hconvert]
      exact Or.inr (.escaped htoken hfirst hoffers hconvert)

/-- Every attempt takes one of the courses or lets out a fault. -/
theorem course_or_escape (matcher : Matcher) (keywords : List String) (valueOptional : Bool)
    (slot : Option Slot) :
    matcher.Course keywords valueOptional slot
        (.atCursor matcher.threshold keywords slot valueOptional matcher.tokens matcher.cursor) ∨
      matcher.Escape keywords slot
        (.atCursor matcher.threshold keywords slot valueOptional matcher.tokens
          matcher.cursor) := by
  cases htoken : matcher.token? with
  | none =>
    have hget : matcher.tokens[matcher.cursor]? = none := htoken
    simp only [Attempt.atCursor, hget]
    exact Or.inl (.ended (by simpa using hget))
  | some token =>
    have hget : matcher.tokens[matcher.cursor]? = some token := htoken
    simp only [Attempt.atCursor, hget, Attempt.atToken]
    cases hfind : keywords.find? (applies matcher.threshold slot.isSome token) with
    | none =>
      refine Or.inl (.unsuited htoken fun keyword hkeyword hsuits => ?_)
      have hnot := List.find?_eq_none.mp hfind keyword hkeyword
      exact hnot (applies_iff_suits.mpr hsuits)
    | some keyword =>
      have hfirst := isFirstSuited_of_find? hfind
      have happlies := List.find?_some hfind
      rw [applies_iff] at happlies
      cases slot with
      | none =>
        obtain rfl : token = keyword := by simpa using happlies
        exact Or.inl (.flag htoken hfirst)
      | some held =>
        rcases happlies with rfl | ⟨text, htext, rfl, _, hshort⟩
        · simp only [Attempt.withKeyword, Nat.lt_irrefl, if_false]
          cases hnext : matcher.tokens[matcher.cursor + 1]? with
          | none =>
            refine Or.inl (.missing htoken hfirst ?_)
            have hinside := (Array.getElem?_eq_some_iff.mp hget).1
            have hlast : matcher.tokens.size ≤ matcher.cursor + 1 := by simpa using hnext
            omega
          | some text => exact (Offers.separate htoken hnext).course_or_escape htoken hfirst
        · simp only [Attempt.withKeyword, length_lt_append htext, if_true, attachedValue_append]
          exact (Offers.attached htoken htext hshort).course_or_escape htoken hfirst

/-- A fault that is let out was raised by the binder of the slot, which stays as it is. -/
theorem Escape.exists_fault (hescape : matcher.Escape keywords slot attempt) :
    ∃ held text fault, slot = some held ∧ held.binder.convert text = .error (.escaped fault) ∧
      attempt.answer = .error fault ∧ attempt.slot = slot := by
  cases hescape with
  | escaped _ _ _ hconvert => exact ⟨_, _, _, rfl, hconvert, rfl, rfl⟩

/-- Every attempt takes one of the courses, when the binder fails by refusals only. -/
theorem course_atCursor (matcher : Matcher) (keywords : List String) (valueOptional : Bool)
    (hslot : ∀ held, slot = some held → OnlyRefuses held.binder) :
    matcher.Course keywords valueOptional slot
      (.atCursor matcher.threshold keywords slot valueOptional matcher.tokens matcher.cursor) := by
  rcases matcher.course_or_escape keywords valueOptional slot with hcourse | hescape
  · exact hcourse
  · obtain ⟨held, text, fault, hheld, hconvert, _⟩ := hescape.exists_fault
    exact absurd hconvert (hslot held hheld text fault)

/-- A text that is offered apart from its keyword is the one behind the whole token. -/
theorem Offers.separate_iff {keyword text : String} {separate : Bool}
    (hoffers : matcher.Offers keyword separate text) :
    separate = true ↔ matcher.token? = some keyword := by
  cases hoffers with
  | attached htoken htext => simp [htoken, append_ne_self htext]
  | separate htoken => simp [htoken]

/-- Nothing is found exactly at the end of the tokens and at a token that no keyword
suits. -/
theorem Course.noMatch_iff (hcourse : matcher.Course keywords valueOptional slot attempt) :
    attempt.finding.outcome = .noMatch ↔
      matcher.tokens.size ≤ matcher.cursor ∨ ∃ token, matcher.token? = some token ∧
        ∀ keyword ∈ keywords, ¬Suits matcher.threshold slot token keyword := by
  -- At a token that a first keyword suits, neither of the two conditions holds.
  have hfound {slot : Option Slot} {token keyword : String} (htoken : matcher.token? = some token)
      (hfirst : IsFirstSuited matcher.threshold keywords slot token keyword) :
      ¬(matcher.tokens.size ≤ matcher.cursor ∨ ∃ token, matcher.token? = some token ∧
        ∀ keyword ∈ keywords, ¬Suits matcher.threshold slot token keyword) := by
    obtain ⟨earlier, later, rfl, hsuits, _⟩ := hfirst
    rintro (hend | ⟨token', htoken', hnone⟩)
    · have hinside := (Array.getElem?_eq_some_iff.mp htoken).1
      omega
    · rw [htoken, Option.some.injEq] at htoken'
      subst htoken'
      exact hnone keyword (by simp) hsuits
  cases hcourse with
  | ended hend => simp [Attempt.nothing, hend]
  | unsuited htoken hnone =>
    simp only [Attempt.nothing, true_iff]
    exact Or.inr ⟨_, htoken, hnone⟩
  | flag htoken hfirst => simpa [Attempt.flag] using hfound htoken hfirst
  | missing htoken hfirst => simpa [Attempt.withoutValue] using hfound htoken hfirst
  | bound htoken hfirst => simpa using hfound htoken hfirst
  | refused htoken hfirst => simpa using hfound htoken hfirst

/-- An attempt that finds nothing names neither a keyword nor a candidate. -/
theorem Course.last_eq_of_noMatch (hcourse : matcher.Course keywords valueOptional slot attempt)
    (hnone : attempt.finding.outcome = .noMatch) :
    attempt.finding.keyword = none ∧ attempt.finding.candidate = none := by
  cases hcourse with
  | ended => exact ⟨rfl, rfl⟩
  | unsuited => exact ⟨rfl, rfl⟩
  | _ => cases hnone

/-- What is found is found with the first keyword that suits the token. -/
theorem Course.keyword_isFirst (hcourse : matcher.Course keywords valueOptional slot attempt)
    (hfound : attempt.finding.outcome ≠ .noMatch) :
    ∃ token keyword, matcher.token? = some token ∧ attempt.finding.keyword = some keyword ∧
      IsFirstSuited matcher.threshold keywords slot token keyword := by
  cases hcourse with
  | ended => exact absurd rfl hfound
  | unsuited => exact absurd rfl hfound
  | flag htoken hfirst => exact ⟨_, _, htoken, rfl, hfirst⟩
  | missing htoken hfirst => exact ⟨_, _, htoken, rfl, hfirst⟩
  | bound htoken hfirst => exact ⟨_, _, htoken, rfl, hfirst⟩
  | refused htoken hfirst => exact ⟨_, _, htoken, rfl, hfirst⟩

/-- An option counts as given when a flag or a value is found, and when its value is
missing or refused but may be left out. -/
theorem Course.answer_eq (hcourse : matcher.Course keywords valueOptional slot attempt) :
    ∃ given, attempt.answer = .ok given ∧
      (given = true ↔ attempt.finding.outcome = .flag ∨ attempt.finding.outcome = .value ∨
        (attempt.finding.outcome = .missingValue ∨ attempt.finding.outcome = .invalidValue) ∧
          valueOptional = true) := by
  cases hcourse with
  | ended => exact ⟨false, rfl, by simp [Attempt.nothing]⟩
  | unsuited => exact ⟨false, rfl, by simp [Attempt.nothing]⟩
  | flag => exact ⟨true, rfl, by simp [Attempt.flag]⟩
  | missing => exact ⟨valueOptional, rfl, by simp [Attempt.withoutValue]⟩
  | bound => exact ⟨true, rfl, by simp⟩
  | refused => exact ⟨valueOptional, rfl, by simp⟩

/-- The cursor moves over a keyword that is the whole token when a text behind it is tried,
and over that text as well when it is bound. -/
theorem Course.moved_eq (hcourse : matcher.Course keywords valueOptional slot attempt) :
    attempt.moved =
      match attempt.finding.outcome with
      | .value => if attempt.finding.keyword = matcher.token? then 2 else 0
      | .invalidValue => if attempt.finding.keyword = matcher.token? then 1 else 0
      | _ => 0 := by
  cases hcourse with
  | ended => rfl
  | unsuited => rfl
  | flag => rfl
  | missing => rfl
  | bound _ _ hoffers => simp only [hoffers.separate_iff, eq_comm]
  | refused _ _ hoffers => simp only [hoffers.separate_iff, eq_comm]

/-- The cursor moves by two tokens when a separate value is found, by one when a separate
value is refused, and not at all otherwise. -/
theorem Course.moved_iff (hcourse : matcher.Course keywords valueOptional slot attempt) :
    (attempt.moved = 2 ↔
      attempt.finding.outcome = .value ∧ attempt.finding.keyword = matcher.token?) ∧
    (attempt.moved = 1 ↔
      attempt.finding.outcome = .invalidValue ∧ attempt.finding.keyword = matcher.token?) ∧
    (attempt.moved = 2 ∨ attempt.moved = 1 ∨ attempt.moved = 0) := by
  rw [hcourse.moved_eq]
  by_cases hwhole : attempt.finding.keyword = matcher.token? <;>
    cases attempt.finding.outcome <;> simp [hwhole]

/-- A text that is offered apart from its keyword is one of the tokens. -/
theorem Offers.add_le_size {keyword text : String} {separate : Bool}
    (hoffers : matcher.Offers keyword separate text)
    (hinside : matcher.cursor ≤ matcher.tokens.size) :
    matcher.cursor + (if separate then 2 else 0) ≤ matcher.tokens.size := by
  cases hoffers with
  | attached => simpa using hinside
  | separate _ hnext =>
    have hlast := (Array.getElem?_eq_some_iff.mp hnext).1
    simp only [if_true]
    omega

/-- The cursor does not move past the end of the tokens. -/
theorem Course.moved_le (hcourse : matcher.Course keywords valueOptional slot attempt)
    (hinside : matcher.cursor ≤ matcher.tokens.size) :
    matcher.cursor + attempt.moved ≤ matcher.tokens.size := by
  cases hcourse with
  | ended => exact hinside
  | unsuited => exact hinside
  | flag => exact hinside
  | missing => exact hinside
  | bound _ _ hoffers => exact hoffers.add_le_size hinside
  | @refused _ _ _ _ separate _ _ _ hoffers =>
    have hbound := hoffers.add_le_size hinside
    cases separate <;> simp only [Bool.false_eq_true, if_true, if_false] at hbound ⊢ <;> omega

/-- Nor does it when a fault is let out. -/
theorem Escape.moved_le (hescape : matcher.Escape keywords slot attempt)
    (hinside : matcher.cursor ≤ matcher.tokens.size) :
    matcher.cursor + attempt.moved ≤ matcher.tokens.size := by
  cases hescape with
  | escaped _ _ hoffers => exact hoffers.add_le_size hinside

/-- A text is tried as a value when it is attached to a short keyword, or when it is the
token behind a keyword that stands alone. -/
theorem Course.tried (hcourse : matcher.Course keywords valueOptional slot attempt)
    (htried : attempt.finding.outcome = .value ∨ attempt.finding.outcome = .invalidValue) :
    ∃ keyword text, attempt.finding.keyword = some keyword ∧
      attempt.finding.candidate = some text ∧
      (matcher.token? = some (keyword ++ text) ∧ text ≠ "" ∧
          (keyword.length : Int) ≤ matcher.threshold ∨
        matcher.token? = some keyword ∧ matcher.tokens[matcher.cursor + 1]? = some text) := by
  have hoffered {keyword text : String} {separate : Bool}
      (hoffers : matcher.Offers keyword separate text) :
      matcher.token? = some (keyword ++ text) ∧ text ≠ "" ∧
          (keyword.length : Int) ≤ matcher.threshold ∨
        matcher.token? = some keyword ∧ matcher.tokens[matcher.cursor + 1]? = some text := by
    cases hoffers with
    | attached htoken htext hshort => exact Or.inl ⟨htoken, htext, hshort⟩
    | separate htoken hnext => exact Or.inr ⟨htoken, hnext⟩
  cases hcourse with
  | ended => simp [Attempt.nothing] at htried
  | unsuited => simp [Attempt.nothing] at htried
  | flag => simp [Attempt.flag] at htried
  | missing => simp [Attempt.withoutValue] at htried
  | bound _ _ hoffers => exact ⟨_, _, rfl, rfl, hoffered hoffers⟩
  | refused _ _ hoffers => exact ⟨_, _, rfl, rfl, hoffered hoffers⟩

/-- No text is tried behind a flag, or behind a keyword at the end of the tokens. -/
theorem Course.untried (hcourse : matcher.Course keywords valueOptional slot attempt)
    (huntried : attempt.finding.outcome = .flag ∨ attempt.finding.outcome = .missingValue) :
    attempt.finding.keyword = matcher.token? ∧ attempt.finding.candidate = none ∧
      (slot.isSome = true ↔ attempt.finding.outcome = .missingValue) ∧
      (attempt.finding.outcome = .missingValue → matcher.cursor + 1 = matcher.tokens.size) := by
  cases hcourse with
  | ended => simp [Attempt.nothing] at huntried
  | unsuited => simp [Attempt.nothing] at huntried
  | flag htoken => simp [Attempt.flag, htoken]
  | missing htoken _ hlast => simp [Attempt.withoutValue, htoken, hlast]
  | bound => simp at huntried
  | refused => simp at huntried

/-- The slot takes a value exactly when one is found: the one that its binder converts the
candidate to. -/
theorem Course.slot_eq (hcourse : matcher.Course keywords valueOptional slot attempt) :
    if attempt.finding.outcome = .value then
      ∃ held text value, slot = some held ∧ attempt.finding.candidate = some text ∧
        held.binder.convert text = .ok value ∧
        attempt.slot = some { held with bound := some value }
    else attempt.slot = slot := by
  cases hcourse with
  | ended => rfl
  | unsuited => rfl
  | flag => rfl
  | missing => rfl
  | bound _ _ _ hconvert => exact ⟨_, _, _, rfl, rfl, hconvert, rfl⟩
  | refused => rfl

/-- A value is invalid when the binder of the slot refuses the candidate. -/
theorem Course.refuses (hcourse : matcher.Course keywords valueOptional slot attempt)
    (hinvalid : attempt.finding.outcome = .invalidValue) :
    ∃ held text reason, slot = some held ∧ attempt.finding.candidate = some text ∧
      held.binder.convert text = .error (.refused reason) := by
  cases hcourse with
  | refused _ _ _ hconvert => exact ⟨_, _, _, rfl, rfl, hconvert⟩
  | _ => cases hinvalid

end Course

/-- The observations of a call agree with each other and with the token that was under the
cursor before. -/
structure Call.Agrees (before : Matcher) (keywords : List String) (slot : Option Slot)
    (valueOptional : Bool) (call : Call) : Prop where
  noMatch_iff : call.matcher.last.outcome = .noMatch ↔
    before.tokens.size ≤ before.cursor ∨ ∃ token, before.token? = some token ∧
      ∀ keyword ∈ keywords, ¬Suits before.threshold slot token keyword
  last_eq_of_noMatch : call.matcher.last.outcome = .noMatch →
    call.matcher.last.keyword = none ∧ call.matcher.last.candidate = none
  keyword_isFirst : call.matcher.last.outcome ≠ .noMatch →
    ∃ token keyword, before.token? = some token ∧ call.matcher.last.keyword = some keyword ∧
      IsFirstSuited before.threshold keywords slot token keyword
  answer_eq : ∃ given, call.answer = .ok given ∧
    (given = true ↔ call.matcher.last.outcome = .flag ∨ call.matcher.last.outcome = .value ∨
      (call.matcher.last.outcome = .missingValue ∨ call.matcher.last.outcome = .invalidValue) ∧
        valueOptional = true)
  cursor_add_two_iff : call.matcher.cursor = before.cursor + 2 ↔
    call.matcher.last.outcome = .value ∧ call.matcher.last.keyword = before.token?
  cursor_add_one_iff : call.matcher.cursor = before.cursor + 1 ↔
    call.matcher.last.outcome = .invalidValue ∧ call.matcher.last.keyword = before.token?
  cursor_eq_iff : call.matcher.cursor = before.cursor ↔
    ¬(call.matcher.last.outcome = .value ∧ call.matcher.last.keyword = before.token?) ∧
    ¬(call.matcher.last.outcome = .invalidValue ∧ call.matcher.last.keyword = before.token?)
  cursor_le : before.cursor ≤ before.tokens.size → call.matcher.cursor ≤ before.tokens.size
  tried : call.matcher.last.outcome = .value ∨ call.matcher.last.outcome = .invalidValue →
    ∃ keyword text, call.matcher.last.keyword = some keyword ∧
      call.matcher.last.candidate = some text ∧
      (before.token? = some (keyword ++ text) ∧ text ≠ "" ∧
          (keyword.length : Int) ≤ before.threshold ∨
        before.token? = some keyword ∧ before.tokens[before.cursor + 1]? = some text)
  untried : call.matcher.last.outcome = .flag ∨ call.matcher.last.outcome = .missingValue →
    call.matcher.last.keyword = before.token? ∧ call.matcher.last.candidate = none ∧
      (slot.isSome = true ↔ call.matcher.last.outcome = .missingValue) ∧
      (call.matcher.last.outcome = .missingValue → before.cursor + 1 = before.tokens.size)
  slot_eq : if call.matcher.last.outcome = .value then
      ∃ held text value, slot = some held ∧ call.matcher.last.candidate = some text ∧
        held.binder.convert text = .ok value ∧
        call.slot = some { held with bound := some value }
    else call.slot = slot
  refuses : call.matcher.last.outcome = .invalidValue →
    ∃ held text reason, slot = some held ∧ call.matcher.last.candidate = some text ∧
      held.binder.convert text = .error (.refused reason)
  tokens_eq : call.matcher.tokens = before.tokens
  threshold_eq : call.matcher.threshold = before.threshold

/-- **The observations of a call agree.** With an alias spec in order and a binder that fails
by refusals only, a call of a matcher answers, and its answer, the finding, the cursor and
the slot tell the same of the token that was under the cursor. -/
theorem attempt_agrees (matcher : Matcher) {spec : String} {slot : Option Slot}
    (valueOptional : Bool) (hcomma : ',' ∉ spec.toList) (hsemicolon : ';' ∉ spec.toList)
    (hslot : ∀ held, slot = some held → OnlyRefuses held.binder) :
    (matcher.attempt spec slot valueOptional).Agrees matcher (Text.words spec) slot
      valueOptional := by
  have hkeywords : keywords spec = .ok (Text.words spec) := by
    rw [keywords, if_neg (by simp [hcomma, hsemicolon])]
  have hcourse := matcher.course_atCursor (Text.words spec) valueOptional hslot
  obtain ⟨htwo, hone, hcases⟩ := hcourse.moved_iff
  simp only [attempt, hkeywords]
  exact {
    noMatch_iff := hcourse.noMatch_iff
    last_eq_of_noMatch := hcourse.last_eq_of_noMatch
    keyword_isFirst := hcourse.keyword_isFirst
    answer_eq := hcourse.answer_eq
    cursor_add_two_iff := by rw [Nat.add_left_cancel_iff, htwo]
    cursor_add_one_iff := by rw [Nat.add_left_cancel_iff, hone]
    cursor_eq_iff := by
      rw [Nat.add_eq_left, ← htwo, ← hone]
      omega
    cursor_le := hcourse.moved_le
    tried := hcourse.tried
    untried := hcourse.untried
    slot_eq := hcourse.slot_eq
    refuses := hcourse.refuses
    tokens_eq := rfl
    threshold_eq := rfl }

/-- A refused value is left for the next call, and the slot keeps what it holds. -/
theorem attempt_agrees_refused :
    (⟨.ok false, ⟨#["--level", "x"], 1, 2, ⟨.invalidValue, some "--level", some "x"⟩⟩,
      some ⟨.integer, some (.int 3)⟩⟩ : Call).Agrees ⟨#["--level", "x"], 0, 2, {}⟩
      ["-l", "--level"] (some ⟨.integer, some (.int 3)⟩) false := by
  have hrefuses : OnlyRefuses .integer := by
    intro text fault hescaped
    simp only [Binder.convert] at hescaped
    split at hescaped <;> cases hescaped
  have hslot : ∀ held, some (⟨.integer, some (.int 3)⟩ : Slot) = some held →
      OnlyRefuses held.binder := by
    rintro held ⟨⟩
    exact hrefuses
  have hcomma : ',' ∉ "-l --level".toList := by decide
  exact attempt_agrees ⟨#["--level", "x"], 0, 2, {}⟩ false hcomma (by decide) hslot

end Matcher

end VersionGate.CommandLine
