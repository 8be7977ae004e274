import VersionGate.Proofs.Binding.Written
import VersionGate.Proofs.CommandLine.Splitting

/-!
# Values that can be stored

A session writes what it holds into its notes, so a value can only be stored when it has a
written form. A flag that is not counted without end, and an option whose values have a
written form, can always be stored. A count has at most as many units as there are
arguments, and no list of arguments in memory is nearly as long as the bound that is asked
for here, the first number with too many digits to be written.
-/

namespace VersionGate.CommandLine

open Number

/-- The values of an option are not converted by a converter from outside. -/
def Declaration.IsBuiltIn (option : Declaration) : Prop :=
  ∀ converter, option.target.binder? ≠ .ok (.converter converter)

/-- The values that an option accepts have written forms when its binder is built in. -/
theorem Declaration.Accepts.isWritable {option : Declaration} {text : String} {value : Value}
    (haccepts : option.Accepts text value) (hbuiltIn : option.IsBuiltIn) :
    value.isWritable = true := by
  obtain ⟨binder, hbinder, hvalue⟩ := haccepts
  refine Binder.isWritable_of_convert ?_ hvalue
  rintro converter rfl
  exact hbuiltIn converter hbinder

/-- The value of a block has a written form, as has the default behind a bare option. -/
def Block.IsWritable : Block → Prop
  | .positional _ => True
  | .given option _ manner =>
    match manner with
    | .flag => True
    | .attached _ value => value.isWritable = true
    | .separate _ value => value.isWritable = true
    | .bare => option.default.isWritable = true
    | .bareAttached _ => option.default.isWritable = true

variable {option : Declaration} {blocks : List Block}

/-- The values of blocks that have written forms have written forms. -/
theorem isWritable_of_mem_givenValues (hblocks : ∀ block ∈ blocks, block.IsWritable)
    {value : Value} (hvalue : value ∈ option.givenValues blocks) : value.isWritable = true := by
  obtain ⟨block, hblock, hgiven⟩ := List.mem_filterMap.mp hvalue
  have hwritable := hblocks block hblock
  cases block with
  | positional token => cases hgiven
  | given other keyword manner =>
    have hown : manner.value? = some value := by
      rw [Block.valueFor?] at hgiven
      split at hgiven
      · exact hgiven
      · cases hgiven
    cases manner <;> simp_all [Manner.value?, Block.IsWritable]

/-- What is held for an option has a written form when the values given to it have one, it
has one of them or a default with a written form, and no flag is given too often. -/
theorem Declaration.isWritable_valueAfter (hblocks : ∀ block ∈ blocks, block.IsWritable)
    (hheld : option.givenValues blocks ≠ [] ∨ option.default.isWritable = true ∨
      option.isFlag = true ∨ option.multiple = true)
    (hlength : blocks.length < 10 ^ digitLimit) : (option.valueAfter blocks).isWritable = true := by
  unfold valueAfter
  split
  · have hcount : blocks.countP (Block.gives option.name) < 10 ^ digitLimit :=
      Nat.lt_of_le_of_lt List.countP_le_length hlength
    rwa [Value.isWritable_int_iff, Int.natAbs_natCast]
  · next hflag =>
    split
    · rw [Value.isWritable, Value.areWritable_iff]
      exact fun value hvalue => isWritable_of_mem_givenValues hblocks hvalue
    · next hmultiple =>
      cases hlast : (option.givenValues blocks).getLast? with
      | none =>
        have hempty : option.givenValues blocks = [] := List.getLast?_eq_none_iff.mp hlast
        simpa [hempty, hflag, hmultiple] using hheld
      | some value =>
        exact isWritable_of_mem_givenValues hblocks (List.mem_of_getLast? hlast)

/-- A block can be stored after some blocks when all of them have written forms. -/
theorem Block.isStorable_of_isWritable {block : Block}
    {options : List Declaration} {threshold : Int} {remaining : List String}
    (hfits : block.Fits options threshold remaining)
    (hblocks : ∀ other ∈ blocks ++ [block], other.IsWritable)
    (hlength : (blocks ++ [block]).length < 10 ^ digitLimit) : block.isStorable blocks = true := by
  cases block with
  | positional token => rfl
  | given option keyword manner =>
    refine Declaration.isWritable_valueAfter hblocks ?_ hlength
    have hwritable : (Block.given option keyword manner).IsWritable :=
      hblocks _ (List.mem_append_right _ List.mem_cons_self)
    rw [Declaration.givenValues_concat]
    cases manner with
    | flag => exact Or.inr (Or.inr (Or.inl hfits.2.2))
    | attached text value => exact Or.inl (by simp [Manner.value?])
    | separate text value => exact Or.inl (by simp [Manner.value?])
    | bare => exact Or.inr (Or.inl hwritable)
    | bareAttached text => exact Or.inr (Or.inl hwritable)

/-- The blocks of a walk can be stored after some blocks when all of them have written
forms. -/
theorem Walk.areStorable {options : List Declaration} {threshold : Int}
    {tokens remaining : List String} {more : List Block}
    (hwalk : Walk options threshold tokens more remaining)
    (hblocks : ∀ block ∈ blocks ++ more, block.IsWritable)
    (hlength : (blocks ++ more).length < 10 ^ digitLimit) : AreStorable blocks more := by
  induction hwalk generalizing blocks with
  | stop tokens => trivial
  | @step block tokens more remaining hfits hwalk ih =>
    have hassoc : blocks ++ block :: more = blocks ++ [block] ++ more := by simp
    rw [hassoc] at hblocks hlength
    refine ⟨Block.isStorable_of_isWritable hfits ?_ ?_, ih hblocks hlength⟩
    · exact fun other hother => hblocks other (List.mem_append_left _ hother)
    · rw [List.length_append] at hlength
      omega

/-- A value that was stored has a written form. -/
theorem Declaration.isWritable_of_valueAfter_concat {keyword : String} {manner : Manner}
    {value : Value} (hflag : option.isFlag = false) (hvalue : manner.value? = some value)
    (hheld : (option.valueAfter (blocks ++ [.given option keyword manner])).isWritable = true) :
    value.isWritable = true := by
  simp only [valueAfter, hflag, givenValues_concat, hvalue, Bool.false_eq_true, if_false,
    Option.toList_some] at hheld
  split at hheld
  · rw [Value.isWritable, Value.areWritable_iff] at hheld
    exact hheld value (by simp)
  · simpa using hheld

/-- When a block gives an option bare, the default of the option has a written form. -/
def Block.HasWritableDefault : Block → Prop
  | .given option _ .bare => option.default.isWritable = true
  | .given option _ (.bareAttached _) => option.default.isWritable = true
  | _ => True

/-- An option that cannot do without its value is not given bare. -/
theorem Block.Fits.hasWritableDefault {block : Block} {options : List Declaration} {threshold : Int}
    {remaining : List String} (hfits : block.Fits options threshold remaining)
    (hdefaults : ∀ option ∈ options, option.valueOptional = true →
      option.default.isWritable = true) : block.HasWritableDefault := by
  cases block with
  | positional token => trivial
  | given option keyword manner =>
    have hmanner := hfits.2.2
    cases manner with
    | bare => exact hdefaults option hfits.1.mem hmanner.2.1
    | bareAttached text => exact hdefaults option hfits.1.mem hmanner.2.2.1
    | _ => trivial

/-- A block that was stored has a written form, unless it gives an option bare whose default has
none. -/
theorem Block.Fits.isWritable_of_isStorable {block : Block} {options : List Declaration}
    {threshold : Int} {remaining : List String} (hfits : block.Fits options threshold remaining)
    (hdefault : block.HasWritableDefault) (hstorable : block.isStorable blocks = true) :
    block.IsWritable := by
  cases block with
  | positional token => trivial
  | given option keyword manner =>
    have hmanner := hfits.2.2
    cases manner with
    | flag => trivial
    | attached text value =>
      exact Declaration.isWritable_of_valueAfter_concat hmanner.2.2.isFlag_eq_false rfl hstorable
    | separate text value =>
      have haccepts : option.Accepts text value := hmanner
      exact Declaration.isWritable_of_valueAfter_concat haccepts.isFlag_eq_false rfl hstorable
    | bare => exact hdefault
    | bareAttached text => exact hdefault

/-- The blocks of a walk can be stored exactly when all of them have written forms, provided that
no option is given bare whose default has none. -/
theorem Walk.areStorable_iff {options : List Declaration} {threshold : Int}
    {tokens remaining : List String} {more : List Block}
    (hwalk : Walk options threshold tokens more remaining)
    (hdefaults : ∀ block ∈ more, block.HasWritableDefault)
    (hlength : more.length < 10 ^ digitLimit) :
    AreStorable [] more ↔ ∀ block ∈ more, block.IsWritable := by
  constructor
  · intro hstorable
    clear hlength
    -- A walk that begins without blocks goes on behind some.
    generalize ([] : List Block) = blocks at hstorable
    induction hwalk generalizing blocks with
    | stop tokens => simp
    | step hfits hwalk ih =>
      obtain ⟨hdefault, hdefaults⟩ := List.forall_mem_cons.mp hdefaults
      exact List.forall_mem_cons.mpr
        ⟨hfits.isWritable_of_isStorable hdefault hstorable.1, ih hdefaults _ hstorable.2⟩
  · intro hblocks
    exact hwalk.areStorable hblocks hlength

/-- On a walk no option is given bare whose default has no written form, when the options that can
do without their value have defaults with one. -/
theorem Walk.hasWritableDefault {options : List Declaration} {threshold : Int}
    {tokens remaining : List String} {more : List Block}
    (hwalk : Walk options threshold tokens more remaining)
    (hdefaults : ∀ option ∈ options, option.valueOptional = true →
      option.default.isWritable = true) :
    ∀ block ∈ more, block.HasWritableDefault := by
  intro block hblock
  obtain ⟨rest, hfits⟩ := hwalk.exists_fits block hblock
  exact hfits.hasWritableDefault hdefaults

section Powers

/-- An option that takes a power of ten. -/
def powerOption : Declaration :=
  { name := "power", aliases := "-p", target := .converter .power }

/-- The option with the power of ten that a text stands for. -/
def powerBlock (text : String) : Block :=
  .given powerOption "-p" (.separate text (.int (10 ^ text.length)))

/-- A text that stands for a power of ten without a written form. -/
def longText : String :=
  .ofList (.replicate digitLimit 'x')

/-- The text has as many characters as a number may have digits. -/
theorem length_longText : longText.length = digitLimit := by
  simp [longText]

/-- The text is no separator. -/
theorem longText_ne_separator : longText ≠ separator := by
  intro heq
  have hlength := congrArg String.length heq
  rw [length_longText] at hlength
  exact absurd hlength (by decide)

/-- The option is ready to be looked for. -/
theorem powerOption_isReady : powerOption.IsReady :=
  ⟨Declaration.SpecInOrder.keywords_eq (by decide), _, rfl⟩

/-- Every text is accepted as a power of ten. -/
theorem powerOption_accepts (text : String) : powerOption.Accepts text (.int (10 ^ text.length)) :=
  ⟨.converter .power, rfl, rfl⟩

/-- Whatever text comes behind its keyword, the option takes it. -/
theorem fits_powerBlock (text : String) (remaining : List String) :
    (powerBlock text).Fits [powerOption] 2 remaining := by
  have hkeyword : powerOption.firstKeyword? 2 "-p" = some "-p" := by decide +kernel
  have hmanner :
      (Manner.separate text (.int (10 ^ text.length))).Fits powerOption 2 "-p" remaining :=
    powerOption_accepts text
  exact ⟨⟨[], [], rfl, by simp, powerOption_isReady.answer_of_fits hkeyword hmanner⟩, hkeyword,
    hmanner⟩

/-- The long text gives the option a value without a written form. -/
theorem not_isWritable_powerBlock : ¬(powerBlock longText).IsWritable := by
  have hlong := Value.isWritable_ten_pow (Nat.le_of_eq length_longText.symm)
  rw [powerBlock, Block.IsWritable, hlong]
  simp

end Powers

end VersionGate.CommandLine
