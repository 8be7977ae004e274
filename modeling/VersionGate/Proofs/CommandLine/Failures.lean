import VersionGate.Proofs.CommandLine.Storing

/-!
# How reading fails

Reading fails in three ways only, provided that the options are sound. It gets stuck at a
token that some option recognises but that none can be given with, or it reaches the end
and a required option is missing. The complaint is about the first option declared that
recognises the token, or about the first one that is missing. The third way is no complaint:
a value is accepted that has no written form, so that it cannot be noted.
-/

namespace VersionGate.CommandLine

open Number

/-- A binder fails by a refusal only. -/
def OnlyRefuses (binder : Binder) : Prop :=
  ∀ text fault, binder.convert text ≠ .error (.escaped fault)

/-- An option is sound when its alias spec is in order and has keywords, its target has a
binder that fails by refusals only, and its default has a written form. -/
structure Declaration.IsSound (option : Declaration) : Prop where
  inOrder : option.SpecInOrder
  spellings_ne_nil : option.spellings ≠ []
  exists_slot : ∃ slot, option.freshSlot = .ok slot
  onlyRefuses : ∀ binder, option.target.binder? = .ok binder → OnlyRefuses binder
  isWritable_default : option.default.isWritable = true

/-- A session is stuck at the first of some tokens when options recognise it but none
counts as given there. -/
def IsStuck (options : List Declaration) (threshold : Int) (tokens : List String) : Prop :=
  (∃ token rest, tokens = token :: rest ∧ ∃ option ∈ options, option.Recognises threshold token) ∧
    ∀ option ∈ options, option.answer threshold tokens ≠ .ok true

/-- The complaint at the first of some tokens is about the first option that recognises it:
it takes a value, cannot do without one, and lacks it. -/
structure IsBlamed (options : List Declaration) (threshold : Int) (tokens : List String)
    (option : Declaration) (keyword : String) (complaint : Complaint) : Prop where
  isFirst : ∃ token rest earlier later, tokens = token :: rest ∧
    options = earlier ++ option :: later ∧ (∀ other ∈ earlier, ¬other.Recognises threshold token) ∧
    option.firstKeyword? threshold token = some keyword
  isFlag_eq : option.isFlag = false
  valueOptional_eq : option.valueOptional = false
  lacks : option.Lacks keyword tokens complaint
  missingValue_iff : complaint = .missingValue keyword ↔ tokens = [keyword]

/-- An option is the first required one that no block gives. -/
structure IsMissing (options : List Declaration) (blocks : List Block) (option : Declaration) :
    Prop where
  isFirst : ∃ earlier later, options = earlier ++ option :: later ∧
    ∀ other ∈ earlier, other.required = true → other.name ∈ namesOf blocks
  required_eq : option.required = true
  not_mem : option.name ∉ namesOf blocks

variable {options : List Declaration} {option : Declaration} {threshold : Int}

/-- A sound option is ready. -/
theorem Declaration.IsSound.isReady (hsound : option.IsSound) : option.IsReady :=
  ⟨hsound.inOrder.keywords_eq, hsound.exists_slot⟩

/-- An attempt with a candidate has an answer when the binder fails by refusals only. -/
theorem Attempt.exists_answer_withValue {binder : Binder} (hrefuses : OnlyRefuses binder)
    (keyword text : String) (valueOptional : Bool) (bound refused : Nat) :
    ∃ given,
      (withValue keyword text { binder } valueOptional bound refused).answer = .ok given := by
  cases hconvert : binder.convert text with
  | ok value => exact ⟨true, by simp only [withValue, Slot.bind, hconvert]⟩
  | error failure =>
    cases failure with
    | refused reason => exact ⟨valueOptional, by simp only [withValue, Slot.bind, hconvert]⟩
    | escaped fault => exact absurd hconvert (hrefuses text fault)

/-- A sound option has an answer at every token. -/
theorem Declaration.IsSound.exists_answer (hsound : option.IsSound) (threshold : Int)
    (token : String) (rest : List String) :
    ∃ given, option.answer threshold (token :: rest) = .ok given := by
  obtain ⟨attempt, hattempt, htrial⟩ := hsound.isReady.exists_trial threshold token rest
  rw [answer, hattempt]
  simp only [bind, Except.bind]
  cases htrial with
  | nothing => exact ⟨false, rfl⟩
  | flag => exact ⟨true, rfl⟩
  | withoutValue => exact ⟨option.valueOptional, rfl⟩
  | separate hbinder => exact Attempt.exists_answer_withValue (hsound.onlyRefuses _ hbinder) ..
  | attached hbinder => exact Attempt.exists_answer_withValue (hsound.onlyRefuses _ hbinder) ..

/-- The complaint is that the value is missing exactly when no token is left for it. -/
theorem Declaration.Lacks.missingValue_iff {keyword : String} {tokens : List String}
    {complaint : Complaint} (hlacks : option.Lacks keyword tokens complaint) :
    complaint = .missingValue keyword ↔ tokens = [keyword] := by
  cases hlacks with
  | missing => simp
  | separate => simp
  | attached _ _ htext => simp [append_ne_self htext]

/-- No block fits where a session is stuck. -/
theorem IsStuck.not_fits {block : Block} {remaining : List String}
    (hstuck : IsStuck options threshold (block.tokens ++ remaining)) :
    ¬block.Fits options threshold remaining := by
  obtain ⟨⟨token, rest, htokens, option, hoption, keyword, hkeyword, happlies⟩, hanswers⟩ := hstuck
  intro hfits
  cases block with
  | positional token' =>
    obtain ⟨rfl, rfl⟩ : token' = token ∧ remaining = rest := by
      simpa [Block.tokens] using htokens
    rw [(hfits option hoption).2 keyword hkeyword] at happlies
    cases happlies
  | given owner keyword' manner => exact hanswers owner hfits.1.mem hfits.1.answer_eq

/-- A session halts where it is stuck. -/
theorem IsStuck.exists_halts {tokens : List String} (hstuck : IsStuck options threshold tokens) :
    ∃ fault, Halts options threshold tokens fault := by
  obtain ⟨token, rest, rfl, _⟩ := hstuck.1
  rcases exists_fits_or_halts options threshold token rest with
    ⟨block, remaining, htokens, hfits⟩ | hhalts
  · rw [htokens] at hstuck
    exact absurd hfits hstuck.not_fits
  · exact hhalts

/-- A session is not stuck where a walk to the end begins. -/
theorem Walk.not_isStuck {tokens : List String} {blocks : List Block}
    (hwalk : Walk options threshold tokens blocks []) : ¬IsStuck options threshold tokens := by
  intro hstuck
  generalize hend : ([] : List String) = remaining at hwalk
  cases hwalk with
  | stop =>
    obtain ⟨token, rest, htokens, _⟩ := hstuck.1
    rw [← hend] at htokens
    cases htokens
  | step hfits hwalk => exact hstuck.not_fits hfits

/-- Sound options let a session halt with a complaint only, and none of them is given
there. -/
theorem Halts.exists_complaint {token : String} {rest : List String} {fault : Fault}
    (hsound : ∀ option ∈ options, option.IsSound)
    (hhalts : Halts options threshold (token :: rest) fault) :
    ∃ complaint, fault = .complaint complaint ∧
      (∀ option ∈ options, option.answer threshold (token :: rest) = .ok false) ∧
      options.findSome? (·.complaint? threshold (token :: rest)) = some complaint := by
  cases hhalts with
  | @escaped earlier later option fault hoptions hearlier hanswer =>
    have hoption : option ∈ options := by simp [hoptions]
    obtain ⟨given, hgiven⟩ := (hsound option hoption).exists_answer threshold token rest
    rw [hanswer] at hgiven
    cases hgiven
  | @unbound complaint hpasses hcomplaint => exact ⟨complaint, rfl, hpasses, hcomplaint⟩

/-- The first complaint at a token that no option is given with is about the first option
that recognises it. -/
theorem exists_isBlamed {token : String} {rest : List String} {complaint : Complaint}
    (hpasses : ∀ option ∈ options, option.answer threshold (token :: rest) = .ok false)
    (hcomplaint : options.findSome? (·.complaint? threshold (token :: rest)) = some complaint) :
    ∃ option ∈ options, ∃ keyword, option.Recognises threshold token ∧
      IsBlamed options threshold (token :: rest) option keyword complaint := by
  obtain ⟨earlier, option, later, hoptions, hown, hearlier⟩ :=
    List.findSome?_eq_some_iff.mp hcomplaint
  have hoption : option ∈ options := by simp [hoptions]
  have hunrecognised : ∀ other ∈ earlier, ¬other.Recognises threshold token := by
    intro other hother
    have hmem : other ∈ options := by simp [hoptions, hother]
    exact Declaration.not_recognises_of_complaint?_eq_none (hpasses other hmem)
      (hearlier other hother)
  rcases Declaration.complaint?_of_answer_false (hpasses option hoption) with
    ⟨hsilent, _⟩ | ⟨keyword, complaint', hsome, hkeyword, hflag, hoptional, hlacks⟩
  · rw [hown] at hsilent
    cases hsilent
  · rw [hown, Option.some.injEq] at hsome
    subst hsome
    exact ⟨option, hoption, keyword, Declaration.recognises_iff.mpr ⟨keyword, hkeyword⟩, {
      isFirst := ⟨token, rest, earlier, later, rfl, hoptions, hunrecognised, hkeyword⟩
      isFlag_eq := hflag
      valueOptional_eq := hoptional
      lacks := hlacks
      missingValue_iff := hlacks.missingValue_iff }⟩

/-- A session is stuck where sound options let it halt. -/
theorem Halts.isStuck {token : String} {rest : List String} {fault : Fault}
    (hsound : ∀ option ∈ options, option.IsSound)
    (hhalts : Halts options threshold (token :: rest) fault) :
    IsStuck options threshold (token :: rest) := by
  obtain ⟨complaint, _, hpasses, hcomplaint⟩ := hhalts.exists_complaint hsound
  obtain ⟨option, hoption, _, hrecognises, _⟩ := exists_isBlamed hpasses hcomplaint
  refine ⟨⟨token, rest, rfl, option, hoption, hrecognises⟩, fun other hother => ?_⟩
  rw [hpasses other hother]
  simp

/-- What sound options are given on a walk can be stored exactly when it has written forms. -/
theorem Walk.areStorable_iff_of_isSound {tokens remaining : List String} {blocks : List Block}
    (hsound : ∀ option ∈ options, option.IsSound)
    (hwalk : Walk options threshold tokens blocks remaining)
    (hlength : tokens.length < 10 ^ digitLimit) :
    AreStorable [] blocks ↔ ∀ block ∈ blocks, block.IsWritable := by
  have hfewer := hwalk.length_le
  have hdefaults := hwalk.hasWritableDefault fun option hoption _ =>
    (hsound option hoption).isWritable_default
  exact hwalk.areStorable_iff hdefaults (by omega)

/-- A required option that is missing is named by its last keyword. -/
theorem IsMissing.requireAll_eq {blocks : List Block} (hspellings : option.spellings ≠ [])
    (hmissing : IsMissing options blocks option) :
    ∃ keyword, option.spellings.getLast? = some keyword ∧
      requireAll options (namesOf blocks) = .error (.complaint (.missingOption keyword)) := by
  obtain ⟨⟨earlier, later, hoptions, hearlier⟩, hrequired, hnot⟩ := hmissing
  have hfirst : missingOption? options (namesOf blocks) = some option := by
    rw [missingOption?, List.find?_eq_some_iff_append]
    refine ⟨by simp [hrequired, hnot], earlier, later, hoptions, fun other hother => ?_⟩
    cases hneeded : other.required with
    | false => rfl
    | true => simpa using hearlier other hother hneeded
  have hkeyword := List.getLast?_eq_some_getLast hspellings
  refine ⟨_, hkeyword, ?_⟩
  have hlast : option.lastKeyword? = some (option.spellings.getLast hspellings) := hkeyword
  simp only [requireAll, hfirst, hlast]

/-- When a required option is missing, one of them is the first. -/
theorem exists_isMissing {blocks : List Block}
    (hmissing : ∃ option ∈ options, option.required = true ∧ option.name ∉ namesOf blocks) :
    ∃ option ∈ options, IsMissing options blocks option := by
  have hsome : (missingOption? options (namesOf blocks)).isSome = true := by
    simpa [missingOption?] using hmissing
  obtain ⟨option, hfirst⟩ := Option.isSome_iff_exists.mp hsome
  obtain ⟨hfound, earlier, later, hoptions, hearlier⟩ :=
    List.find?_eq_some_iff_append.mp hfirst
  obtain ⟨hrequired, hnot⟩ : option.required = true ∧ option.name ∉ namesOf blocks := by
    simpa using hfound
  refine ⟨option, by simp [hoptions], ⟨earlier, later, hoptions, fun other hother hneeded => ?_⟩,
    hrequired, hnot⟩
  simpa [hneeded] using hearlier other hother

section Parse

variable {arguments before after : List String}

/-- Reading fails with the blamed option's complaint where a walk gets stuck, if all values on the
way have written forms. -/
theorem parse_of_isStuck {blocks : List Block} {tokens : List String}
    (hnames : (options.map Declaration.name).Nodup) (hsound : ∀ option ∈ options, option.IsSound)
    (hcut : IsCut arguments before after) (hlength : before.length < 10 ^ digitLimit)
    (hwalk : Walk options threshold before blocks tokens)
    (hwritable : ∀ block ∈ blocks, block.IsWritable) (hstuck : IsStuck options threshold tokens) :
    ∃ option keyword complaint, IsBlamed options threshold tokens option keyword complaint ∧
      parse options threshold arguments = .error (.complaint complaint) := by
  obtain ⟨fault, hhalts⟩ := hstuck.exists_halts
  obtain ⟨⟨token, rest, rfl, _⟩, _⟩ := hstuck
  obtain ⟨complaint, rfl, hpasses, hcomplaint⟩ := hhalts.exists_complaint hsound
  obtain ⟨option, _, keyword, _, hblamed⟩ := exists_isBlamed hpasses hcomplaint
  have hstorable := (hwalk.areStorable_iff_of_isSound hsound hlength).mpr hwritable
  exact ⟨option, keyword, complaint, hblamed,
    parse_of_halts hnames hcut hwalk hstorable (by simp) hhalts⟩

/-- Reading fails at the end when a required option is missing, if all values have written
forms. -/
theorem parse_of_isMissing {blocks : List Block}
    (hnames : (options.map Declaration.name).Nodup) (hsound : ∀ option ∈ options, option.IsSound)
    (hcut : IsCut arguments before after) (hlength : before.length < 10 ^ digitLimit)
    (hwalk : Walk options threshold before blocks [])
    (hwritable : ∀ block ∈ blocks, block.IsWritable) (hoption : option ∈ options)
    (hmissing : IsMissing options blocks option) :
    ∃ keyword, option.spellings.getLast? = some keyword ∧
      parse options threshold arguments = .error (.complaint (.missingOption keyword)) := by
  obtain ⟨keyword, hkeyword, hrequire⟩ :=
    hmissing.requireAll_eq (hsound option hoption).spellings_ne_nil
  have hstorable := (hwalk.areStorable_iff_of_isSound hsound hlength).mpr hwritable
  refine ⟨keyword, hkeyword, ?_⟩
  rw [parse_of_walk hnames hcut hwalk hstorable, hrequire]
  rfl

/-- Reading fails at a value without a written form, whatever comes behind it. -/
theorem parse_of_not_isWritable {blocks : List Block} {tokens : List String}
    (hnames : (options.map Declaration.name).Nodup) (hsound : ∀ option ∈ options, option.IsSound)
    (hcut : IsCut arguments before after) (hlength : before.length < 10 ^ digitLimit)
    (hwalk : Walk options threshold before blocks tokens)
    (hlong : ∃ block ∈ blocks, ¬block.IsWritable) :
    parse options threshold arguments = .error .tooLongToWrite := by
  refine parse_of_not_areStorable hnames hcut hwalk ?_
  rw [hwalk.areStorable_iff_of_isSound hsound hlength]
  simpa using hlong

/-- Reading fails only where a walk gets stuck, when a required option is missing, or at a value
without a written form. -/
theorem exists_of_parse_error {fault : Fault} (hnames : (options.map Declaration.name).Nodup)
    (hsound : ∀ option ∈ options, option.IsSound) (hcut : IsCut arguments before after)
    (hlength : before.length < 10 ^ digitLimit)
    (hparse : parse options threshold arguments = .error fault) :
    (∃ blocks tokens, Walk options threshold before blocks tokens ∧
      IsStuck options threshold tokens) ∨
    (∃ blocks, Walk options threshold before blocks [] ∧
      ∃ option ∈ options, option.required = true ∧ option.name ∉ namesOf blocks) ∨
    ∃ blocks tokens, Walk options threshold before blocks tokens ∧
      ∃ block ∈ blocks, ¬block.IsWritable := by
  rcases exists_walk_or_halts options threshold before with
    ⟨blocks, hwalk⟩ | ⟨blocks, token, rest, fault', hwalk, hhalts⟩
  · right
    by_cases hwritable : ∀ block ∈ blocks, block.IsWritable
    · left
      refine ⟨blocks, hwalk, ?_⟩
      by_contra hnone
      have hgiven : requireAll options (namesOf blocks) = .ok () := by
        refine requireAll_of_given fun option hoption hrequired => ?_
        by_contra hnot
        exact hnone ⟨option, hoption, hrequired, hnot⟩
      have hstorable := (hwalk.areStorable_iff_of_isSound hsound hlength).mpr hwritable
      rw [parse_of_walk hnames hcut hwalk hstorable, hgiven] at hparse
      cases hparse
    · exact .inr ⟨blocks, [], hwalk, by simpa using hwritable⟩
  · exact .inl ⟨blocks, token :: rest, hwalk, hhalts.isStuck hsound⟩

/-- **How reading fails.** Reading against sound options fails exactly when a walk over the
arguments before the separator gets stuck, reaches the end while a required option is
missing, or comes to a value without a written form. Such a value is the fault, whatever comes
behind it. Before one, where reading gets stuck, the complaint is about the first option that
recognises the token and says that its value is missing or invalid; at the end, it names the
first missing option by its last keyword. -/
theorem parse_fails_iff (hnames : (options.map Declaration.name).Nodup)
    (hsound : ∀ option ∈ options, option.IsSound) (hcut : IsCut arguments before after)
    (hlength : arguments.length < 10 ^ digitLimit) :
    ((∃ fault, parse options threshold arguments = .error fault) ↔
      (∃ blocks tokens, Walk options threshold before blocks tokens ∧
        IsStuck options threshold tokens) ∨
      (∃ blocks, Walk options threshold before blocks [] ∧
        ∃ option ∈ options, option.required = true ∧ option.name ∉ namesOf blocks) ∨
      ∃ blocks tokens, Walk options threshold before blocks tokens ∧
        ∃ block ∈ blocks, ¬block.IsWritable) ∧
    (∀ blocks tokens, Walk options threshold before blocks tokens →
      (∃ block ∈ blocks, ¬block.IsWritable) →
      parse options threshold arguments = .error .tooLongToWrite) ∧
    (∀ blocks tokens, Walk options threshold before blocks tokens →
      (∀ block ∈ blocks, block.IsWritable) → IsStuck options threshold tokens →
      ∃ option keyword complaint, IsBlamed options threshold tokens option keyword complaint ∧
        parse options threshold arguments = .error (.complaint complaint)) ∧
    ∀ blocks, Walk options threshold before blocks [] → (∀ block ∈ blocks, block.IsWritable) →
      ∀ option ∈ options, IsMissing options blocks option →
      ∃ keyword, option.spellings.getLast? = some keyword ∧
        parse options threshold arguments = .error (.complaint (.missingOption keyword)) := by
  have hbefore : before.length < 10 ^ digitLimit := Nat.lt_of_le_of_lt hcut.length_le hlength
  have hlong {blocks : List Block} {tokens : List String}
      (hwalk : Walk options threshold before blocks tokens)
      (hnot : ¬∀ block ∈ blocks, block.IsWritable) :
      parse options threshold arguments = .error .tooLongToWrite :=
    parse_of_not_isWritable hnames hsound hcut hbefore hwalk (by simpa using hnot)
  refine ⟨⟨?_, ?_⟩, ?_, ?_, ?_⟩
  · rintro ⟨fault, hparse⟩
    exact exists_of_parse_error hnames hsound hcut hbefore hparse
  · rintro (⟨blocks, tokens, hwalk, hstuck⟩ | ⟨blocks, hwalk, hmissing⟩ |
      ⟨blocks, tokens, hwalk, hnot⟩)
    · by_cases hwritable : ∀ block ∈ blocks, block.IsWritable
      · obtain ⟨_, _, complaint, _, hparse⟩ :=
          parse_of_isStuck hnames hsound hcut hbefore hwalk hwritable hstuck
        exact ⟨_, hparse⟩
      · exact ⟨_, hlong hwalk hwritable⟩
    · by_cases hwritable : ∀ block ∈ blocks, block.IsWritable
      · obtain ⟨option, hoption, hfirst⟩ := exists_isMissing hmissing
        obtain ⟨_, _, hparse⟩ :=
          parse_of_isMissing hnames hsound hcut hbefore hwalk hwritable hoption hfirst
        exact ⟨_, hparse⟩
      · exact ⟨_, hlong hwalk hwritable⟩
    · exact ⟨_, parse_of_not_isWritable hnames hsound hcut hbefore hwalk hnot⟩
  · intro blocks tokens hwalk hnot
    exact parse_of_not_isWritable hnames hsound hcut hbefore hwalk hnot
  · intro blocks tokens hwalk hwritable hstuck
    exact parse_of_isStuck hnames hsound hcut hbefore hwalk hwritable hstuck
  · intro blocks hwalk hwritable option hoption hmissing
    exact parse_of_isMissing hnames hsound hcut hbefore hwalk hwritable hoption hmissing

end Parse

/-- An option that takes an integer. -/
def countOption : Declaration :=
  { name := "count", aliases := "-c --count", target := .integer }

/-- An option that has to be given. -/
def tagOption : Declaration :=
  { name := "tag", aliases := "-t --tag", target := .text, required := true }

/-- A text that is no integer is refused. -/
theorem countOption_isSound : countOption.IsSound where
  inOrder := by decide +kernel
  spellings_ne_nil := by decide +kernel
  exists_slot := ⟨_, rfl⟩
  onlyRefuses := by
    rintro binder ⟨⟩ text fault hescaped
    simp only [Binder.convert] at hescaped
    split at hescaped <;> cases hescaped
  isWritable_default := rfl

/-- Every text is accepted as a tag. -/
theorem tagOption_isSound : tagOption.IsSound where
  inOrder := by decide +kernel
  spellings_ne_nil := by decide +kernel
  exists_slot := ⟨_, rfl⟩
  onlyRefuses := by
    rintro binder ⟨⟩ text fault hescaped
    cases hescaped
  isWritable_default := rfl

/-- A count that is no integer is an invalid value, and a tag that is not given is missing. -/
theorem parse_fails_of_count_or_tag :
    (∃ option keyword complaint,
      IsBlamed [countOption, tagOption] 2 ["-cx", "out"] option keyword complaint ∧
      parse [countOption, tagOption] 2 ["in", "-cx", "out"] = .error (.complaint complaint)) ∧
    ∃ keyword, tagOption.spellings.getLast? = some keyword ∧
      parse [countOption, tagOption] 2 ["in", "-c3"] =
        .error (.complaint (.missingOption keyword)) := by
  have hsound : ∀ option ∈ [countOption, tagOption], option.IsSound := by
    simp only [List.forall_mem_cons, List.not_mem_nil, false_imp_iff, implies_true, and_true]
    exact ⟨countOption_isSound, tagOption_isSound⟩
  have hin (remaining : List String) :
      (Block.positional "in").Fits [countOption, tagOption] 2 remaining := by
    simp only [Block.Fits, List.forall_mem_cons, List.not_mem_nil, false_imp_iff, implies_true,
      and_true]
    exact ⟨⟨countOption_isSound.isReady.answer_of_firstKeyword?_eq_none rfl, by decide +kernel⟩,
      tagOption_isSound.isReady.answer_of_firstKeyword?_eq_none rfl, by decide +kernel⟩
  constructor
  · have hcut : IsCut ["in", "-cx", "out"] ["in", "-cx", "out"] [] :=
      ⟨by decide, Or.inl ⟨rfl, rfl⟩⟩
    have hstuck : IsStuck [countOption, tagOption] 2 ["-cx", "out"] := by
      refine ⟨⟨"-cx", ["out"], rfl, by decide +kernel⟩, ?_⟩
      simp only [List.forall_mem_cons, List.not_mem_nil, false_imp_iff, implies_true, and_true]
      refine ⟨?_, ?_⟩ <;> rintro ⟨⟩
    exact (parse_fails_iff (by decide) hsound hcut (lt_ten_pow_digitLimit (by decide))).2.2.1
      [.positional "in"] _ (.step (hin _) (.stop _)) (by simp [Block.IsWritable]) hstuck
  · have hcut : IsCut ["in", "-c3"] ["in", "-c3"] [] := ⟨by decide, Or.inl ⟨rfl, rfl⟩⟩
    have hthree : (Block.given countOption "-c" (.attached "3" (.int 3))).Fits
        [countOption, tagOption] 2 [] :=
      ⟨⟨[], [tagOption], rfl, by simp, rfl⟩, rfl, by decide, by decide, .integer, rfl, rfl⟩
    have hmissing : IsMissing [countOption, tagOption]
        [.positional "in", .given countOption "-c" (.attached "3" (.int 3))] tagOption :=
      ⟨⟨[countOption], [], rfl, by simp [countOption]⟩, rfl, by decide⟩
    have hwritable : ∀ block ∈ [.positional "in",
        .given countOption "-c" (.attached "3" (.int 3))], Block.IsWritable block := by
      simp only [List.forall_mem_cons, List.not_mem_nil, false_imp_iff, implies_true, and_true]
      exact ⟨trivial, rfl⟩
    exact (parse_fails_iff (by decide) hsound hcut (lt_ten_pow_digitLimit (by decide))).2.2.2 _
      (.step (hin _) (.step hthree (.stop _))) hwritable tagOption (by simp) hmissing

/-- Every text is accepted as a power of ten. -/
theorem powerOption_isSound : powerOption.IsSound where
  inOrder := by decide +kernel
  spellings_ne_nil := by decide +kernel
  exists_slot := ⟨_, rfl⟩
  onlyRefuses := by
    rintro binder ⟨⟩ text fault hescaped
    cases hescaped
  isWritable_default := rfl

/-- A power of ten without a written form lets reading fail although it gets stuck nowhere and no
required option is missing. -/
theorem parse_fails_for_no_complaint :
    powerOption.IsSound ∧ IsCut ["-p", longText] ["-p", longText] [] ∧
    parse [powerOption] 2 ["-p", longText] = .error .tooLongToWrite ∧
    ¬((∃ blocks tokens, Walk [powerOption] 2 ["-p", longText] blocks tokens ∧
        IsStuck [powerOption] 2 tokens) ∨
      ∃ blocks, Walk [powerOption] 2 ["-p", longText] blocks [] ∧
        ∃ option ∈ [powerOption], option.required = true ∧ option.name ∉ namesOf blocks) := by
  have hcut : IsCut ["-p", longText] ["-p", longText] [] := by
    refine ⟨?_, .inl ⟨rfl, rfl⟩⟩
    simpa [separator] using longText_ne_separator.symm
  have hwalk : Walk [powerOption] 2 ["-p", longText] [powerBlock longText] [] :=
    .step (fits_powerBlock longText []) (.stop [])
  have hsound : ∀ option ∈ [powerOption], option.IsSound :=
    List.forall_mem_singleton.mpr powerOption_isSound
  refine ⟨powerOption_isSound, hcut, ?_, ?_⟩
  · exact parse_of_not_isWritable (by decide) hsound hcut (lt_ten_pow_digitLimit (by decide)) hwalk
      ⟨_, List.mem_singleton_self _, not_isWritable_powerBlock⟩
  · rintro (⟨blocks, tokens, hblocks, hstuck⟩ | ⟨blocks, _, option, hoption, hrequired, _⟩)
    · obtain ⟨more, _, hmore⟩ := hblocks.exists_rest hwalk
      exact hmore.not_isStuck hstuck
    · rw [List.mem_singleton.mp hoption] at hrequired
      cases hrequired

end VersionGate.CommandLine
