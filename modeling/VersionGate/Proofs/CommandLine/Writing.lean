import VersionGate.Proofs.CommandLine.PrefixFree
import VersionGate.Proofs.CommandLine.Storing

/-!
# Command lines that are written out

With prefix-free keywords, any positional arguments, flags and values that an option
accepts can be written out one after the other, and reading the command line gives them
back. None of the tokens is taken for something else, whatever it looks like: a value is
read behind its keyword before any option is looked for in it. Only a value without a written
form is in the way, which no built-in binder gives.
-/

namespace VersionGate.CommandLine

open Number

/-- A block can be written out: a positional argument that no option recognises, or an
option with any of its keywords. -/
def Block.IsWritten (options : List Declaration) (threshold : Int) : Block → Prop
  | .positional token => ∀ option ∈ options, ¬option.Recognises threshold token
  | .given option keyword manner =>
    option ∈ options ∧ keyword ∈ option.spellings ∧ manner.FitsAlways option threshold keyword

variable {options : List Declaration} {option : Declaration} {threshold : Int} {keyword : String}

/-- A block that is written out fits in front of everything, provided that the options are
ready. -/
theorem Block.IsWritten.fits {block : Block} (hfree : PrefixFree options)
    (hready : ∀ option ∈ options, option.IsReady) (hwritten : block.IsWritten options threshold)
    (remaining : List String) : block.Fits options threshold remaining := by
  cases block with
  | positional token =>
    intro option hoption
    have hsilent := Declaration.firstKeyword?_eq_none_iff.mpr (hwritten option hoption)
    refine ⟨(hready option hoption).answer_of_firstKeyword?_eq_none hsilent, ?_⟩
    simpa [Declaration.firstKeyword?] using hsilent
  | given option keyword manner =>
    obtain ⟨hoption, hkeyword, hmanner⟩ := hwritten
    exact hfree.fits_given hready hoption hkeyword (hmanner.fits remaining)

/-- What is written out is walked over item by item. -/
theorem walk_of_areWritten {items : List Block} (hfree : PrefixFree options)
    (hready : ∀ option ∈ options, option.IsReady)
    (hitems : ∀ item ∈ items, item.IsWritten options threshold) :
    Walk options threshold (items.flatMap Block.tokens) items [] := by
  induction items with
  | nil => exact .stop []
  | cons item items ih =>
    obtain ⟨hitem, hrest⟩ := List.forall_mem_cons.mp hitems
    exact .step (hitem.fits hfree hready _) (ih hrest)

/-- No option is written out bare. -/
theorem Block.IsWritten.hasWritableDefault {block : Block}
    (hwritten : block.IsWritten options threshold) : block.HasWritableDefault := by
  cases block with
  | positional token => trivial
  | given option keyword manner =>
    cases manner with
    | bare => exact hwritten.2.2.elim
    | bareAttached text => exact hwritten.2.2.elim
    | _ => trivial

/-- An item that is written out has a written form when the options are built in. -/
theorem Block.IsWritten.isWritable {block : Block}
    (hbuiltIn : ∀ option ∈ options, option.IsBuiltIn)
    (hwritten : block.IsWritten options threshold) : block.IsWritable := by
  cases block with
  | positional token => trivial
  | given option keyword manner =>
    obtain ⟨hoption, _, hmanner⟩ := hwritten
    cases manner with
    | flag => trivial
    | attached text value => exact hmanner.2.2.isWritable (hbuiltIn option hoption)
    | separate text value =>
      have haccepts : option.Accepts text value := hmanner
      exact haccepts.isWritable (hbuiltIn option hoption)
    | bare => exact hmanner.elim
    | bareAttached text => exact hmanner.elim

/-- What is written out can be stored exactly when all values in it have written forms. -/
theorem areStorable_iff_of_areWritten {items : List Block} (hfree : PrefixFree options)
    (hready : ∀ option ∈ options, option.IsReady)
    (hitems : ∀ item ∈ items, item.IsWritten options threshold)
    (hlength : items.length < 10 ^ digitLimit) :
    AreStorable [] items ↔ ∀ item ∈ items, item.IsWritable :=
  (walk_of_areWritten hfree hready hitems).areStorable_iff
    (fun item hitem => (hitems item hitem).hasWritableDefault) hlength

/-- What is written out in front of a separator is cut off there. -/
theorem isCut_written {tokens : List String} (hseparator : separator ∉ tokens)
    (trailing : Option (List String)) :
    IsCut (tokens ++ trailing.elim [] (separator :: ·)) tokens (trailing.getD []) := by
  refine ⟨hseparator, ?_⟩
  cases trailing with
  | none => exact .inl ⟨by simp, rfl⟩
  | some after => exact .inr rfl

/-- A command line that is written out is read back when all values in it have written forms. -/
theorem parse_written_of_isWritable {items : List Block} (trailing : Option (List String))
    (hnames : (options.map Declaration.name).Nodup) (hfree : PrefixFree options)
    (hready : ∀ option ∈ options, option.IsReady)
    (hitems : ∀ item ∈ items, item.IsWritten options threshold)
    (hseparator : separator ∉ items.flatMap Block.tokens)
    (hrequired : ∀ option ∈ options, option.required = true →
      ∃ item ∈ items, item.name? = some option.name)
    (hlength : items.length < 10 ^ digitLimit) (hwritable : ∀ item ∈ items, item.IsWritable) :
    parse options threshold
        (items.flatMap Block.tokens ++ trailing.elim [] (separator :: ·)) =
      .ok (Parsed.ofBlocks options items (trailing.getD [])) := by
  have hwalk := walk_of_areWritten hfree hready hitems
  have hstorable := (areStorable_iff_of_areWritten hfree hready hitems hlength).mpr hwritable
  have hgiven : requireAll options (namesOf items) = .ok () :=
    requireAll_of_given fun option hoption hneeded =>
      mem_namesOf.mpr (hrequired option hoption hneeded)
  rw [parse_of_walk hnames (isCut_written hseparator trailing) hwalk hstorable, hgiven]
  rfl

/-- A command line that is written out is read back when no value comes from outside. -/
theorem parse_written_of_isBuiltIn {items : List Block} (trailing : Option (List String))
    (hnames : (options.map Declaration.name).Nodup) (hfree : PrefixFree options)
    (hready : ∀ option ∈ options, option.IsReady)
    (hitems : ∀ item ∈ items, item.IsWritten options threshold)
    (hseparator : separator ∉ items.flatMap Block.tokens)
    (hrequired : ∀ option ∈ options, option.required = true →
      ∃ item ∈ items, item.name? = some option.name)
    (hlength : items.length < 10 ^ digitLimit) (hbuiltIn : ∀ option ∈ options, option.IsBuiltIn) :
    parse options threshold
        (items.flatMap Block.tokens ++ trailing.elim [] (separator :: ·)) =
      .ok (Parsed.ofBlocks options items (trailing.getD [])) :=
  parse_written_of_isWritable trailing hnames hfree hready hitems hseparator hrequired hlength
    fun item hitem => (hitems item hitem).isWritable hbuiltIn

/-- A command line that is written out is not read when a value in it has no written form. -/
theorem parse_written_of_not_isWritable {items : List Block} (trailing : Option (List String))
    (hnames : (options.map Declaration.name).Nodup) (hfree : PrefixFree options)
    (hready : ∀ option ∈ options, option.IsReady)
    (hitems : ∀ item ∈ items, item.IsWritten options threshold)
    (hseparator : separator ∉ items.flatMap Block.tokens)
    (hlength : items.length < 10 ^ digitLimit) (hlong : ∃ item ∈ items, ¬item.IsWritable) :
    parse options threshold
        (items.flatMap Block.tokens ++ trailing.elim [] (separator :: ·)) =
      .error .tooLongToWrite := by
  have hwalk := walk_of_areWritten hfree hready hitems
  refine parse_of_not_areStorable hnames (isCut_written hseparator trailing) hwalk ?_
  rw [areStorable_iff_of_areWritten hfree hready hitems hlength]
  simpa using hlong

/-- **Reading undoes writing.** With prefix-free keywords, a command line that is written
out item by item, with any further arguments behind a separator, is read as just these
items, unless one of the values has no written form; that is then the fault, although the
value has been accepted. A list in memory is far shorter than the bound on its length, up to
which a count of flags can be written. -/
theorem parse_written {items : List Block} (trailing : Option (List String))
    (hnames : (options.map Declaration.name).Nodup) (hfree : PrefixFree options)
    (htargets : ∀ option ∈ options, ∃ slot, option.freshSlot = .ok slot)
    (hitems : ∀ item ∈ items, item.IsWritten options threshold)
    (hseparator : separator ∉ items.flatMap Block.tokens)
    (hrequired : ∀ option ∈ options, option.required = true →
      ∃ item ∈ items, item.name? = some option.name)
    (hlength : items.length < 10 ^ digitLimit) :
    ((∀ item ∈ items, item.IsWritable) →
      parse options threshold
          (items.flatMap Block.tokens ++ trailing.elim [] (separator :: ·)) =
        .ok (Parsed.ofBlocks options items (trailing.getD []))) ∧
    ((∃ item ∈ items, ¬item.IsWritable) →
      parse options threshold
          (items.flatMap Block.tokens ++ trailing.elim [] (separator :: ·)) =
        .error .tooLongToWrite) := by
  have hready : ∀ option ∈ options, option.IsReady := fun option hoption =>
    ⟨(hfree.inOrder option hoption).keywords_eq, htargets option hoption⟩
  exact ⟨parse_written_of_isWritable trailing hnames hfree hready hitems hseparator hrequired
      hlength,
    parse_written_of_not_isWritable trailing hnames hfree hready hitems hseparator hlength⟩

/-- A flag. -/
def verboseFlag : Declaration :=
  { name := "verbose", aliases := "-v --verbose" }

/-- A required option. -/
def levelOption : Declaration :=
  { name := "level", aliases := "-l --level", target := .integer, required := true }

/-- A repeatable option. -/
def pathOption : Declaration :=
  { name := "path", aliases := "-p --path", target := .text, multiple := true }

/-- An option with a converter and a default. -/
def releaseOption : Declaration :=
  { name := "release", aliases := "-r", target := .converter .version, default := .text "none" }

/-- Options of several kinds. -/
def severalOptions : List Declaration :=
  [verboseFlag, levelOption, pathOption, releaseOption]

/-- Items of several kinds, among them a value that looks like a flag and an empty one. -/
def severalItems : List Block :=
  [.positional "in", .given verboseFlag "--verbose" .flag,
    .given levelOption "-l" (.attached "3" (.int 3)),
    .given pathOption "-p" (.separate "-v" (.text "-v")),
    .given releaseOption "-r" (.separate "1.2" (.ofVersion ⟨1, 2, 0⟩)),
    .given pathOption "-p" (.separate "" (.text "")), .given verboseFlag "-v" .flag]

/-- Several items that are written out in front of a separator are read back. -/
theorem parse_written_several :
    parse severalOptions 2
        ["in", "--verbose", "-l3", "-p", "-v", "-r", "1.2", "-p", "", "-v", "--", "-v"] =
      .ok ⟨⟨[("verbose", .int 2), ("level", .int 3), ("path", .list [.text "-v", .text ""]),
        ("release", .ofVersion ⟨1, 2, 0⟩)]⟩, ["in", "-v"],
        ["release", "path", "level", "verbose"]⟩ := by
  have hfree : PrefixFree severalOptions := ⟨by decide +kernel, by decide +kernel⟩
  have htargets : ∀ option ∈ severalOptions, ∃ slot, option.freshSlot = .ok slot := by
    simp only [severalOptions, List.forall_mem_cons, List.not_mem_nil, false_imp_iff, implies_true]
    exact ⟨⟨_, rfl⟩, ⟨_, rfl⟩, ⟨_, rfl⟩, ⟨_, rfl⟩, trivial⟩
  have hitems : ∀ item ∈ severalItems, item.IsWritten severalOptions 2 := by
    have hpositional : ∀ option ∈ severalOptions, ¬option.Recognises 2 "in" := by
      decide +kernel
    simp only [severalItems, List.forall_mem_cons, List.not_mem_nil, false_imp_iff, implies_true]
    refine ⟨hpositional, ?_, ?_, ?_, ?_, ?_, ?_, trivial⟩
    · exact ⟨by simp [severalOptions], by decide, rfl⟩
    · exact ⟨by simp [severalOptions], by decide, by decide, by decide, .integer, rfl, rfl⟩
    · exact ⟨by simp [severalOptions], by decide, .text, rfl, rfl⟩
    · exact ⟨by simp [severalOptions], by decide, .converter .version, rfl, rfl⟩
    · exact ⟨by simp [severalOptions], by decide, .text, rfl, rfl⟩
    · exact ⟨by simp [severalOptions], by decide, rfl⟩
  have hrequired : ∀ option ∈ severalOptions, option.required = true →
      ∃ item ∈ severalItems, item.name? = some option.name := by
    decide +kernel
  have hlength : severalItems.length < 10 ^ digitLimit := lt_ten_pow_digitLimit (by decide)
  have hwritable : ∀ item ∈ severalItems, item.IsWritable := by
    simp only [severalItems, List.forall_mem_cons, List.not_mem_nil, false_imp_iff, implies_true]
    exact ⟨trivial, trivial, rfl, rfl, rfl, rfl, trivial, trivial⟩
  exact (parse_written (some ["-v"]) (by decide) hfree htargets hitems (by decide) hrequired
    hlength).1 hwritable

/-- A power of ten without a written form is accepted as a value, and yet the command line that is
written out with it is not read. -/
theorem parse_ne_written_power :
    PrefixFree [powerOption] ∧ (∃ slot, powerOption.freshSlot = .ok slot) ∧
      (powerBlock longText).IsWritten [powerOption] 2 ∧ separator ∉ (powerBlock longText).tokens ∧
      powerOption.required = false ∧
      parse [powerOption] 2 (powerBlock longText).tokens ≠
        .ok (Parsed.ofBlocks [powerOption] [powerBlock longText] []) := by
  have hfree : PrefixFree [powerOption] := ⟨by decide +kernel, by decide +kernel⟩
  have hwritten : (powerBlock longText).IsWritten [powerOption] 2 :=
    ⟨List.mem_singleton_self _, by decide, powerOption_accepts longText⟩
  have hseparator : separator ∉ (powerBlock longText).tokens := by
    simpa [powerBlock, Block.tokens, Manner.tokens, Manner.token, Manner.next, separator] using
      longText_ne_separator.symm
  have hready : ∀ option ∈ [powerOption], option.IsReady :=
    List.forall_mem_singleton.mpr powerOption_isReady
  refine ⟨hfree, ⟨_, rfl⟩, hwritten, hseparator, rfl, ?_⟩
  have hitems : ∀ item ∈ [powerBlock longText], item.IsWritten [powerOption] 2 :=
    List.forall_mem_singleton.mpr hwritten
  have hfault := parse_written_of_not_isWritable none (by decide) hfree hready hitems
    (by simpa using hseparator) (lt_ten_pow_digitLimit (by decide))
    ⟨_, List.mem_singleton_self _, not_isWritable_powerBlock⟩
  simp only [List.flatMap_singleton, Option.elim_none, List.append_nil] at hfault
  rw [hfault]
  rintro ⟨⟩

end VersionGate.CommandLine
