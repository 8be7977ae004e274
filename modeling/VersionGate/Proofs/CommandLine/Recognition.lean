import VersionGate.CommandLine.Declaration

/-!
# What one option can find

An attempt looks at the token under the cursor and at the one after it, so it is
described here on the tokens that remain. When its alias spec and its target are in
order, an option finds nothing unless one of its keywords applies; the first one that
does decides whether a flag, an attached value or a separate value is found.
-/

namespace VersionGate.CommandLine

/-- Something that is written after a keyword makes the token longer. -/
theorem length_lt_append {keyword text : String} (htext : text ≠ "") :
    keyword.length < (keyword ++ text).length := by
  have hpos : 0 < text.length := by
    rw [Nat.pos_iff_ne_zero]
    intro hzero
    exact htext (String.length_eq_zero_iff.mp hzero)
  rw [String.length_append]
  omega

/-- A keyword applies to itself, and if it is short and takes a value, to a token that it
begins. -/
theorem applies_iff {threshold : Int} {takesValue : Bool} {token keyword : String} :
    applies threshold takesValue token keyword = true ↔
      token = keyword ∨ ∃ text, text ≠ "" ∧ token = keyword ++ text ∧ takesValue = true ∧
        (keyword.length : Int) ≤ threshold := by
  unfold applies
  rw [Bool.and_eq_true, begins_iff, Bool.or_eq_true, Bool.and_eq_true, decide_eq_true_eq,
    beq_iff_eq]
  constructor
  · rintro ⟨⟨text, htoken⟩, hshort | heq⟩
    · by_cases htext : text = ""
      · left
        rw [htoken, htext, String.append_empty]
      · exact Or.inr ⟨text, htext, htoken, hshort⟩
    · exact Or.inl heq
  · rintro (heq | ⟨text, _, htoken, hshort⟩)
    · exact ⟨⟨"", by rw [heq, String.append_empty]⟩, Or.inr heq⟩
    · exact ⟨⟨text, htoken⟩, Or.inl hshort⟩

namespace Declaration

/-- The words of an alias spec, whether or not the spec is in order. -/
def spellings (option : Declaration) : List String :=
  Text.words option.aliases

/-- The first keyword of an option that applies to a token. -/
def firstKeyword? (option : Declaration) (threshold : Int) (token : String) : Option String :=
  option.spellings.find? (applies threshold (!option.isFlag) token)

/-- An option recognises a token to which one of its keywords applies. -/
def Recognises (option : Declaration) (threshold : Int) (token : String) : Prop :=
  ∃ keyword ∈ option.spellings, applies threshold (!option.isFlag) token keyword = true

instance (option : Declaration) (threshold : Int) (token : String) :
    Decidable (option.Recognises threshold token) :=
  inferInstanceAs (Decidable (∃ _ ∈ _, _))

/-- The binder of an option converts a text to a value. -/
def Accepts (option : Declaration) (text : String) (value : Value) : Prop :=
  ∃ binder, option.target.binder? = .ok binder ∧ binder.convert text = .ok value

/-- The binder of an option refuses a text. -/
def Refuses (option : Declaration) (text : String) : Prop :=
  ∃ binder reason, option.target.binder? = .ok binder ∧
    binder.convert text = .error (.refused reason)

/-- An attempt to find an option at the first of some tokens. -/
def attemptFirst (option : Declaration) (threshold : Int) (tokens : List String) :
    Except Fault Attempt :=
  option.attempt threshold tokens.toArray 0

/-- Whether an option counts as given at the first of some tokens when it is tried
alone there. -/
def answer (option : Declaration) (threshold : Int) (tokens : List String) :
    Except Fault Bool :=
  option.attemptFirst threshold tokens >>= Attempt.answer

/-- An alias spec is in order when it separates its keywords by blanks alone. -/
def SpecInOrder (option : Declaration) : Prop :=
  ',' ∉ option.aliases.toList ∧ ';' ∉ option.aliases.toList

instance (option : Declaration) : Decidable option.SpecInOrder :=
  inferInstanceAs (Decidable (_ ∧ _))

/-- The keywords of an alias spec in order are its words. -/
theorem SpecInOrder.keywords_eq {option : Declaration} (hspec : option.SpecInOrder) :
    keywords option.aliases = .ok option.spellings := by
  obtain ⟨hcomma, hsemicolon⟩ := hspec
  rw [keywords, if_neg (by simp [hcomma, hsemicolon])]
  rfl

/-- An option whose alias spec and target are in order makes its attempts without a
fault of its own. -/
structure IsReady (option : Declaration) : Prop where
  keywords_eq : keywords option.aliases = .ok option.spellings
  exists_slot : ∃ slot, option.freshSlot = .ok slot

/-- An attempt at a position only depends on the tokens from there on. -/
theorem attempt_eq_attemptFirst (option : Declaration) (threshold : Int) (tokens : Array String)
    (cursor : Nat) :
    option.attempt threshold tokens cursor =
      option.attemptFirst threshold (tokens.toList.drop cursor) := by
  have hget (i : Nat) : (tokens.toList.drop cursor).toArray[i]? = tokens[cursor + i]? := by
    simp [List.getElem?_drop]
  have hcursor (found : List String) (slot : Option Slot) :
      Attempt.atCursor threshold found slot option.valueOptional tokens cursor =
        Attempt.atCursor threshold found slot option.valueOptional
          (tokens.toList.drop cursor).toArray 0 := by
    simp only [Attempt.atCursor, hget, Nat.add_zero, Nat.zero_add]
  simp only [attemptFirst, attempt, hcursor]

/-- A fresh slot is empty: a flag has none, any other option has one for its binder. -/
theorem freshSlot_eq {option : Declaration} {slot : Option Slot}
    (hslot : option.freshSlot = .ok slot) :
    (option.isFlag = true ∧ slot = none) ∨
      (option.isFlag = false ∧
        ∃ binder, option.target.binder? = .ok binder ∧ slot = some { binder }) := by
  unfold freshSlot at hslot
  cases hflag : option.isFlag with
  | true =>
    rw [hflag, if_pos rfl] at hslot
    exact Or.inl ⟨rfl, by simpa using hslot.symm⟩
  | false =>
    refine Or.inr ⟨rfl, ?_⟩
    simp only [hflag, Bool.false_eq_true, if_false, Slot.ofTarget] at hslot
    cases hbinder : option.target.binder? with
    | error fault => simp [hbinder, Except.map] at hslot
    | ok binder =>
      refine ⟨binder, rfl, ?_⟩
      simpa [hbinder, Except.map] using hslot.symm

/-- A flag has no binder. -/
theorem isFlag_eq_false_of_binder? {option : Declaration} {binder : Binder}
    (hbinder : option.target.binder? = .ok binder) : option.isFlag = false := by
  unfold isFlag
  cases htarget : option.target with
  | plain value =>
    cases value with
    | none => simp [htarget, Target.binder?, Value.fingerprint, bind, Except.bind] at hbinder
    | _ => rfl
  | _ => rfl

/-- An option that accepts a text is no flag. -/
theorem Accepts.isFlag_eq_false {option : Declaration} {text : String} {value : Value}
    (haccepts : option.Accepts text value) : option.isFlag = false := by
  obtain ⟨binder, hbinder, _⟩ := haccepts
  exact isFlag_eq_false_of_binder? hbinder

/-- An option that refuses a text is no flag. -/
theorem Refuses.isFlag_eq_false {option : Declaration} {text : String}
    (hrefuses : option.Refuses text) : option.isFlag = false := by
  obtain ⟨binder, _, hbinder, _⟩ := hrefuses
  exact isFlag_eq_false_of_binder? hbinder

/-- The binder of an option that accepts a text converts it. -/
theorem Accepts.convert_eq {option : Declaration} {text : String} {value : Value} {binder : Binder}
    (haccepts : option.Accepts text value) (hbinder : option.target.binder? = .ok binder) :
    binder.convert text = .ok value := by
  obtain ⟨binder', hbinder', hvalue⟩ := haccepts
  rw [hbinder, Except.ok.injEq] at hbinder'
  rw [hbinder', hvalue]

/-- The binder of an option that refuses a text does not convert it. -/
theorem Refuses.convert_eq {option : Declaration} {text : String} {binder : Binder}
    (hrefuses : option.Refuses text) (hbinder : option.target.binder? = .ok binder) :
    ∃ reason, binder.convert text = .error (.refused reason) := by
  obtain ⟨binder', reason, hbinder', hrefused⟩ := hrefuses
  rw [hbinder, Except.ok.injEq] at hbinder'
  exact ⟨reason, by rw [hbinder', hrefused]⟩

/-- A text is converted to one value only. -/
theorem Accepts.unique {option : Declaration} {text : String} {value value' : Value}
    (haccepts : option.Accepts text value) (haccepts' : option.Accepts text value') :
    value = value' := by
  obtain ⟨binder, hbinder, hvalue⟩ := haccepts
  rw [haccepts'.convert_eq hbinder, Except.ok.injEq] at hvalue
  exact hvalue.symm

/-- No text is both converted and refused. -/
theorem Accepts.not_refuses {option : Declaration} {text : String} {value : Value}
    (haccepts : option.Accepts text value) : ¬option.Refuses text := by
  rintro ⟨binder, reason, hbinder, hrefused⟩
  rw [haccepts.convert_eq hbinder] at hrefused
  cases hrefused

/-- An option recognises a token when some keyword of it is the first that applies. -/
theorem recognises_iff {option : Declaration} {threshold : Int} {token : String} :
    option.Recognises threshold token ↔
      ∃ keyword, option.firstKeyword? threshold token = some keyword := by
  rw [← Option.isSome_iff_exists, firstKeyword?, List.find?_isSome]
  rfl

/-- An option that does not recognise a token has no keyword that applies to it. -/
theorem firstKeyword?_eq_none_iff {option : Declaration} {threshold : Int} {token : String} :
    option.firstKeyword? threshold token = none ↔ ¬option.Recognises threshold token := by
  rw [recognises_iff, ← Option.isSome_iff_exists, Option.not_isSome_iff_eq_none]

end Declaration

end VersionGate.CommandLine
