import VersionGate.Proofs.CommandLine.Blocks

/-!
# Findings of an attempt

Everything that an attempt at the first of some tokens can find. Each result about
attempts comes from the five cases of a trial: an attempt that counts as given finds an
option in some manner, and one that does not is either silent or has a complaint.
-/

namespace VersionGate.CommandLine

/-- What an attempt does at the first of some tokens: nothing, or what the first keyword
that applies asks for. -/
inductive Trial (option : Declaration) (threshold : Int) : List String → Attempt → Prop
  | nothing {token : String} {rest : List String} {slot : Option Slot} :
    option.firstKeyword? threshold token = none →
    Trial option threshold (token :: rest) (.nothing slot)
  | flag {keyword : String} {rest : List String} :
    option.isFlag = true → option.firstKeyword? threshold keyword = some keyword →
    Trial option threshold (keyword :: rest) (.flag keyword)
  | withoutValue {keyword : String} {binder : Binder} :
    option.target.binder? = .ok binder →
    option.firstKeyword? threshold keyword = some keyword →
    Trial option threshold [keyword] (.withoutValue keyword { binder } option.valueOptional)
  | separate {keyword text : String} {rest : List String} {binder : Binder} :
    option.target.binder? = .ok binder →
    option.firstKeyword? threshold keyword = some keyword →
    Trial option threshold (keyword :: text :: rest)
      (.withValue keyword text { binder } option.valueOptional 2 1)
  | attached {keyword text : String} {rest : List String} {binder : Binder} :
    option.target.binder? = .ok binder →
    option.firstKeyword? threshold (keyword ++ text) = some keyword →
    text ≠ "" → (keyword.length : Int) ≤ threshold →
    Trial option threshold ((keyword ++ text) :: rest)
      (.withValue keyword text { binder } option.valueOptional 0 0)

namespace Attempt

variable {binder : Binder} {keyword text : String} {valueOptional : Bool} {bound refused : Nat}

/-- An attempt with a candidate that counts as given has bound it, or it was refused and
the value may be left out. -/
theorem withValue_of_answer_true
    (hanswer : (withValue keyword text { binder } valueOptional bound refused).answer =
      .ok true) :
    (∃ value, binder.convert text = .ok value ∧
      withValue keyword text { binder } valueOptional bound refused =
        { answer := .ok true
          finding := ⟨.value, some keyword, some text⟩
          moved := bound
          slot := some { binder, bound := some value } }) ∨
    ∃ reason, binder.convert text = .error (.refused reason) ∧ valueOptional = true ∧
      withValue keyword text { binder } valueOptional bound refused =
        { answer := .ok true
          finding := ⟨.invalidValue, some keyword, some text⟩
          moved := refused
          slot := some { binder } } := by
  cases hconvert : binder.convert text with
  | ok value =>
    left
    exact ⟨value, rfl, by simp only [withValue, Slot.bind, hconvert]⟩
  | error failure =>
    cases failure with
    | refused reason =>
      right
      simp only [withValue, Slot.bind, hconvert, Except.ok.injEq] at hanswer
      exact ⟨reason, rfl, hanswer, by simp only [withValue, Slot.bind, hconvert, hanswer]⟩
    | escaped fault =>
      simp only [withValue, Slot.bind, hconvert, reduceCtorEq] at hanswer

/-- An attempt with a candidate that does not count as given was refused, and the value
may not be left out. -/
theorem withValue_of_answer_false
    (hanswer : (withValue keyword text { binder } valueOptional bound refused).answer =
      .ok false) :
    ∃ reason, binder.convert text = .error (.refused reason) ∧ valueOptional = false ∧
      withValue keyword text { binder } valueOptional bound refused =
        { answer := .ok false
          finding := ⟨.invalidValue, some keyword, some text⟩
          moved := refused
          slot := some { binder } } := by
  cases hconvert : binder.convert text with
  | ok value => simp [withValue, Slot.bind, hconvert] at hanswer
  | error failure =>
    cases failure with
    | refused reason =>
      simp only [withValue, Slot.bind, hconvert, Except.ok.injEq] at hanswer
      exact ⟨reason, rfl, hanswer, by simp only [withValue, Slot.bind, hconvert, hanswer]⟩
    | escaped fault =>
      simp only [withValue, Slot.bind, hconvert, reduceCtorEq] at hanswer

end Attempt

namespace Declaration

variable {option : Declaration} {threshold : Int} {token : String} {rest : List String}

/-- An option that is ready tries the first of its keywords that applies. -/
theorem attemptFirst_cons {slot : Option Slot} (hready : option.IsReady)
    (hslot : option.freshSlot = .ok slot) :
    option.attemptFirst threshold (token :: rest) = .ok
      (match option.firstKeyword? threshold token with
      | none => .nothing slot
      | some keyword =>
        .withKeyword keyword token rest.head? slot option.valueOptional) := by
  have hisSome : slot.isSome = !option.isFlag := by
    rcases freshSlot_eq hslot with ⟨hflag, rfl⟩ | ⟨hflag, binder, _, rfl⟩ <;> rw [hflag] <;> rfl
  have hnext : (token :: rest).toArray[0 + 1]? = rest.head? := by
    cases rest <;> simp
  have hfound : (keywords option.aliases).mapError Fault.complaint = .ok option.spellings := by
    rw [hready.keywords_eq]
    rfl
  simp only [attemptFirst, attempt, hslot, hfound, bind, Except.bind, Attempt.atCursor,
    Attempt.atToken, hnext, hisSome]
  rfl

/-- An attempt that is made shows that the option is ready. -/
theorem isReady_of_attemptFirst {tokens : List String} {attempt : Attempt}
    (hattempt : option.attemptFirst threshold tokens = .ok attempt) : option.IsReady := by
  unfold attemptFirst Declaration.attempt at hattempt
  cases hslot : option.freshSlot with
  | error fault => simp [hslot, bind, Except.bind] at hattempt
  | ok slot =>
    refine ⟨?_, slot, hslot⟩
    unfold keywords at hattempt ⊢
    split at hattempt
    · rw [hslot] at hattempt
      cases hattempt
    · next hseparators =>
      rw [if_neg hseparators]
      rfl

/-- Every attempt that is made at a token is a trial of it. -/
theorem trial_of_attemptFirst {attempt : Attempt}
    (hattempt : option.attemptFirst threshold (token :: rest) = .ok attempt) :
    Trial option threshold (token :: rest) attempt := by
  have hready := isReady_of_attemptFirst hattempt
  obtain ⟨slot, hslot⟩ := hready.exists_slot
  rw [attemptFirst_cons hready hslot, Except.ok.injEq] at hattempt
  subst hattempt
  cases hkeyword : option.firstKeyword? threshold token with
  | none => exact .nothing hkeyword
  | some keyword =>
    have happlies := List.find?_some hkeyword
    rw [applies_iff] at happlies
    rcases freshSlot_eq hslot with ⟨hflag, rfl⟩ | ⟨hflag, binder, hbinder, rfl⟩
    · rcases happlies with rfl | ⟨text, _, _, htakes, _⟩
      · exact .flag hflag hkeyword
      · simp [hflag] at htakes
    · rcases happlies with rfl | ⟨text, htext, rfl, _, hshort⟩
      · simp only [Attempt.withKeyword, Nat.lt_irrefl, if_false]
        cases rest with
        | nil => exact .withoutValue hbinder hkeyword
        | cons text rest => exact .separate hbinder hkeyword
      · simp only [Attempt.withKeyword, length_lt_append htext, if_true, attachedValue_append]
        exact .attached hbinder hkeyword htext hshort

/-- An option that is ready makes a trial of every token. -/
theorem IsReady.exists_trial (hready : option.IsReady) (threshold : Int) (token : String)
    (rest : List String) :
    ∃ attempt, option.attemptFirst threshold (token :: rest) = .ok attempt ∧
      Trial option threshold (token :: rest) attempt := by
  obtain ⟨slot, hslot⟩ := hready.exists_slot
  have hattempt : option.attemptFirst threshold (token :: rest) = .ok _ :=
    attemptFirst_cons hready hslot
  exact ⟨_, hattempt, trial_of_attemptFirst hattempt⟩

end Declaration

section Trial

variable {option : Declaration} {threshold : Int} {tokens : List String} {attempt : Attempt}

/-- An attempt that counts as given finds the option in a manner that fits. It moves the
cursor over the tokens of that manner, a single one being left to the session. -/
theorem Trial.exists_manner (htrial : Trial option threshold tokens attempt)
    (hanswer : attempt.answer = .ok true) :
    ∃ (keyword : String) (manner : Manner) (remaining : List String),
      tokens = manner.tokens keyword ++ remaining ∧
      option.firstKeyword? threshold (manner.token keyword) = some keyword ∧
      manner.Fits option threshold keyword remaining ∧
      (if attempt.moved = 0 then 1 else attempt.moved) = (manner.tokens keyword).length ∧
      attempt.slot.map Slot.bound = manner.slotContent := by
  cases htrial with
  | nothing => cases hanswer
  | @flag keyword rest hflag hkeyword =>
    exact ⟨keyword, .flag, rest, rfl, hkeyword, hflag, rfl, rfl⟩
  | @withoutValue keyword binder hbinder hkeyword =>
    have hoptional : option.valueOptional = true := by
      simpa [Attempt.withoutValue] using hanswer
    exact ⟨keyword, .bare, [], rfl, hkeyword,
      ⟨Declaration.isFlag_eq_false_of_binder? hbinder, hoptional, Or.inl rfl⟩, rfl, rfl⟩
  | @separate keyword text rest binder hbinder hkeyword =>
    rcases Attempt.withValue_of_answer_true hanswer with
      ⟨value, hvalue, hattempt⟩ | ⟨reason, hrefused, hoptional, hattempt⟩
    · rw [hattempt]
      exact ⟨keyword, .separate text value, rest, rfl, hkeyword, ⟨binder, hbinder, hvalue⟩,
        rfl, rfl⟩
    · rw [hattempt]
      have hrefuses : option.Refuses text := ⟨binder, reason, hbinder, hrefused⟩
      exact ⟨keyword, .bare, text :: rest, rfl, hkeyword,
        ⟨hrefuses.isFlag_eq_false, hoptional, Or.inr ⟨text, rest, rfl, hrefuses⟩⟩, rfl, rfl⟩
  | @attached keyword text rest binder hbinder hkeyword htext hshort =>
    rcases Attempt.withValue_of_answer_true hanswer with
      ⟨value, hvalue, hattempt⟩ | ⟨reason, hrefused, hoptional, hattempt⟩
    · rw [hattempt]
      exact ⟨keyword, .attached text value, rest, rfl, hkeyword,
        ⟨htext, hshort, binder, hbinder, hvalue⟩, rfl, rfl⟩
    · rw [hattempt]
      exact ⟨keyword, .bareAttached text, rest, rfl, hkeyword,
        ⟨htext, hshort, hoptional, binder, reason, hbinder, hrefused⟩, rfl, rfl⟩

/-- What is wrong with an option that is found with a keyword but cannot take its value:
no token is left, or the text that is tried as its value is refused. -/
inductive Declaration.Lacks (option : Declaration) (keyword : String) :
    List String → Complaint → Prop
  | missing : option.Lacks keyword [keyword] (.missingValue keyword)
  | separate {text : String} {rest : List String} {binder : Binder} :
    option.target.binder? = .ok binder → option.Refuses text →
    option.Lacks keyword (keyword :: text :: rest)
      (.invalidValue keyword (some text) (some binder.name))
  | attached {text : String} {rest : List String} {binder : Binder} :
    option.target.binder? = .ok binder → option.Refuses text → text ≠ "" →
    option.Lacks keyword ((keyword ++ text) :: rest)
      (.invalidValue keyword (some text) (some binder.name))

/-- An attempt that does not count as given has found nothing, or it has a complaint about
an option that takes a value and cannot do without. -/
theorem Trial.complaint (htrial : Trial option threshold tokens attempt)
    (hanswer : attempt.answer = .ok false) :
    (attempt.complaint? = none ∧ ∃ token rest, tokens = token :: rest ∧
      option.firstKeyword? threshold token = none) ∨
    ∃ token rest keyword complaint, tokens = token :: rest ∧
      option.firstKeyword? threshold token = some keyword ∧ option.isFlag = false ∧
      option.valueOptional = false ∧ option.Lacks keyword tokens complaint ∧
      attempt.complaint? = some complaint := by
  cases htrial with
  | @nothing token rest slot hkeyword => exact Or.inl ⟨rfl, token, rest, rfl, hkeyword⟩
  | flag => cases hanswer
  | @withoutValue keyword binder hbinder hkeyword =>
    have hoptional : option.valueOptional = false := by
      simpa [Attempt.withoutValue] using hanswer
    exact Or.inr ⟨keyword, [], keyword, _, rfl, hkeyword,
      Declaration.isFlag_eq_false_of_binder? hbinder, hoptional, .missing, rfl⟩
  | @separate keyword text rest binder hbinder hkeyword =>
    obtain ⟨reason, hrefused, hoptional, hattempt⟩ := Attempt.withValue_of_answer_false hanswer
    have hrefuses : option.Refuses text := ⟨binder, reason, hbinder, hrefused⟩
    refine Or.inr ⟨keyword, text :: rest, keyword, _, rfl, hkeyword, hrefuses.isFlag_eq_false,
      hoptional, .separate hbinder hrefuses, ?_⟩
    rw [hattempt]
    rfl
  | @attached keyword text rest binder hbinder hkeyword htext hshort =>
    obtain ⟨reason, hrefused, hoptional, hattempt⟩ := Attempt.withValue_of_answer_false hanswer
    have hrefuses : option.Refuses text := ⟨binder, reason, hbinder, hrefused⟩
    refine Or.inr ⟨keyword ++ text, rest, keyword, _, rfl, hkeyword, hrefuses.isFlag_eq_false,
      hoptional, .attached hbinder hrefuses htext, ?_⟩
    rw [hattempt]
    rfl

end Trial

namespace Declaration

variable {option : Declaration} {threshold : Int} {token : String} {rest : List String}

/-- An option without a keyword that applies is not given, whatever comes next. -/
theorem IsReady.answer_of_firstKeyword?_eq_none (hready : option.IsReady)
    (hkeyword : option.firstKeyword? threshold token = none) :
    option.answer threshold (token :: rest) = .ok false := by
  obtain ⟨slot, hslot⟩ := hready.exists_slot
  rw [answer, attemptFirst_cons hready hslot, hkeyword]
  rfl

/-- An option that is given in a manner that fits counts as given. -/
theorem IsReady.answer_of_fits {keyword : String} {manner : Manner} (hready : option.IsReady)
    (hkeyword : option.firstKeyword? threshold (manner.token keyword) = some keyword)
    (hfits : manner.Fits option threshold keyword rest) :
    option.answer threshold (manner.tokens keyword ++ rest) = .ok true := by
  obtain ⟨slot, hslot⟩ := hready.exists_slot
  rw [Manner.tokens, List.cons_append, answer, attemptFirst_cons hready hslot, hkeyword]
  simp only [bind, Except.bind]
  rcases freshSlot_eq hslot with ⟨hflag, rfl⟩ | ⟨hflag, binder, hbinder, rfl⟩
  · rfl
  · cases manner with
    | flag => simp [Manner.Fits, hflag] at hfits
    | attached text value =>
      obtain ⟨htext, _, haccepts⟩ := hfits
      simp only [Manner.token, Attempt.withKeyword, length_lt_append htext, if_true,
        attachedValue_append, Attempt.withValue, Slot.bind, haccepts.convert_eq hbinder]
    | separate text value =>
      have haccepts : option.Accepts text value := hfits
      simp only [Manner.token, Manner.next, Attempt.withKeyword, Nat.lt_irrefl, if_false,
        List.cons_append, List.head?_cons, Attempt.withValue, Slot.bind,
        haccepts.convert_eq hbinder]
    | bare =>
      obtain ⟨_, hoptional, rfl | ⟨text, following, rfl, hrefuses⟩⟩ := hfits
      · simp only [Manner.token, Manner.next, Attempt.withKeyword, Nat.lt_irrefl, if_false,
          List.append_nil, List.head?_nil, Attempt.withoutValue, hoptional]
      · obtain ⟨reason, hrefused⟩ := hrefuses.convert_eq hbinder
        simp only [Manner.token, Manner.next, Attempt.withKeyword, Nat.lt_irrefl, if_false,
          List.nil_append, List.head?_cons, Attempt.withValue, Slot.bind, hrefused, hoptional]
    | bareAttached text =>
      obtain ⟨htext, _, hoptional, hrefuses⟩ := hfits
      obtain ⟨reason, hrefused⟩ := hrefuses.convert_eq hbinder
      simp only [Manner.token, Attempt.withKeyword, length_lt_append htext, if_true,
        attachedValue_append, Attempt.withValue, Slot.bind, hrefused, hoptional]

end Declaration

end VersionGate.CommandLine
