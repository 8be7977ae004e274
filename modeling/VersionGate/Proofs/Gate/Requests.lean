import Mathlib.Data.List.Nodup
import VersionGate.Gate.Check
import VersionGate.Proofs.CommandLine.Insertion

/-!
# Requests

What the arguments of a run ask of its check, in terms of the blocks that they are read
in: a flag is asked for when some block gives it, files are asked for in the order of
their blocks, and of several requirements or limits the last one counts. The check finds
the same in the values of the session.
-/

namespace VersionGate

namespace CommandLine

variable {options : List Declaration} {option : Declaration} {threshold : Int}

/-- An option accepts the values that it is given on a walk. -/
theorem Walk.exists_accepts {tokens remaining : List String} {blocks : List Block} {value : Value}
    (hnames : (options.map Declaration.name).Nodup) (hmem : option ∈ options)
    (hwalk : Walk options threshold tokens blocks remaining)
    (hvalue : value ∈ option.givenValues blocks) : ∃ text, option.Accepts text value := by
  obtain ⟨block, hblock, hgiven⟩ := List.mem_filterMap.mp hvalue
  obtain ⟨rest, hfits⟩ := hwalk.exists_fits block hblock
  cases block with
  | positional token => cases hgiven
  | given owner keyword manner =>
    rw [Block.valueFor?] at hgiven
    split at hgiven
    · next hname =>
      obtain rfl : owner = option := List.inj_on_of_nodup_map hnames hfits.1.mem hmem hname
      have hmanner := hfits.2.2
      cases manner with
      | attached text value' =>
        obtain rfl : value' = value := Option.some.inj hgiven
        exact ⟨text, hmanner.2.2⟩
      | separate text value' =>
        obtain rfl : value' = value := Option.some.inj hgiven
        exact ⟨text, hmanner⟩
      | _ => cases hgiven
    · cases hgiven

/-- An option for texts accepts every text as it is. -/
theorem Declaration.Accepts.eq_text {text : String} {value : Value}
    (haccepts : option.Accepts text value) (htarget : option.target = .text) :
    value = .text text := by
  obtain ⟨binder, hbinder, hconvert⟩ := haccepts
  rw [htarget] at hbinder
  cases hbinder
  cases hconvert
  rfl

/-- An option for integers accepts nothing but integers. -/
theorem Declaration.Accepts.exists_eq_int {text : String} {value : Value}
    (haccepts : option.Accepts text value) (htarget : option.target = .integer) :
    ∃ n, value = .int n := by
  obtain ⟨binder, hbinder, hconvert⟩ := haccepts
  rw [htarget] at hbinder
  cases hbinder
  simp only [Binder.convert] at hconvert
  split at hconvert
  · next n _ => exact ⟨n, (Except.ok.inj hconvert).symm⟩
  · cases hconvert

end CommandLine

namespace Gate

open CommandLine

/-- The flag that has the versions sorted. -/
def sortOption : Declaration :=
  { name := "sort", aliases := "-s --sort" }

/-- The option for version files. -/
def fileOption : Declaration :=
  { name := "file", aliases := "-f --file", target := .text, multiple := true }

/-- The option for the required version. -/
def requireOption : Declaration :=
  { name := "require", aliases := "-r --require", target := .text }

/-- The option for the count of versions that are checked at most. -/
def limitOption : Declaration :=
  { name := "limit", aliases := "-n --limit", target := .integer }

/-- No keyword of the options begins another one. -/
theorem prefixFree_options : PrefixFree options := ⟨by decide +kernel, by decide +kernel⟩

/-- The options are ready. -/
theorem isReady_of_mem_options : ∀ option ∈ options, option.IsReady := by
  intro option hoption
  refine ⟨(prefixFree_options.inOrder option hoption).keywords_eq, ?_⟩
  revert option
  simp only [options, List.forall_mem_cons, List.not_mem_nil, false_imp_iff, implies_true]
  exact ⟨⟨_, rfl⟩, ⟨_, rfl⟩, ⟨_, rfl⟩, ⟨_, rfl⟩, ⟨_, rfl⟩, ⟨_, rfl⟩, ⟨_, rfl⟩, trivial⟩

/-- What the arguments of a run ask of its check. -/
structure Request where
  verbose : Bool
  sorted : Bool
  files : List String
  requirement? : Option String
  limit? : Option Int

/-- The request that the check finds in the values of a session. -/
def Request.ofParsed (parsed : Parsed) : Request where
  verbose := isGiven parsed "verbose"
  sorted := isGiven parsed "sort"
  files := fileNames parsed
  requirement? := textOf? parsed "require"
  limit? := Gate.limit? parsed

/-- Some blocks make a request: each flag of it is given by a block, its files are all that
blocks give, in order, and its requirement and its limit are the last ones given, if any. -/
structure Request.IsMadeBy (request : Request) (blocks : List Block) : Prop where
  verbose_iff : request.verbose = true ↔ ∃ block ∈ blocks, block.name? = some "verbose"
  sorted_iff : request.sorted = true ↔ ∃ block ∈ blocks, block.name? = some "sort"
  files_eq : blocks.filterMap (Block.valueFor? "file") = request.files.map .text
  requirement_eq : (blocks.filterMap (Block.valueFor? "require")).getLast? =
    request.requirement?.map .text
  limit_eq : (blocks.filterMap (Block.valueFor? "limit")).getLast? = request.limit?.map .int

variable {blocks : List Block} (after : List String) {option : Declaration}

/-- The values of a session hold for each option what the blocks give it. -/
theorem get?_ofBlocks (hmem : option ∈ options) :
    (Parsed.ofBlocks options blocks after).values.get? option.name =
      some (option.valueAfter blocks) :=
  Table.get?_map_of_nodup (by decide) hmem

/-- A flag counts as given when some block gives it. -/
theorem isGiven_ofBlocks_iff (hmem : option ∈ options) (hflag : option.isFlag = true) :
    isGiven (Parsed.ofBlocks options blocks after) option.name = true ↔
      ∃ block ∈ blocks, block.name? = some option.name := by
  rw [isGiven, get?_ofBlocks after hmem, Declaration.valueAfter, if_pos hflag]
  simp only [Option.getD_some, Value.isTrue, bne_iff_ne, ne_eq, Int.natCast_eq_zero,
    ← Nat.pos_iff_ne_zero, List.countP_pos_iff, Block.gives, beq_iff_eq]

/-- An option with one value holds the last one that blocks give it. -/
theorem get?_ofBlocks_single (hmem : option ∈ options) (hflag : option.isFlag = false)
    (hmultiple : option.multiple = false) :
    (Parsed.ofBlocks options blocks after).values.get? option.name =
      some ((option.givenValues blocks).getLast?.getD option.default) := by
  rw [get?_ofBlocks after hmem, Declaration.valueAfter, if_neg (by simp [hflag]),
    if_neg (by simp [hmultiple])]

section Walk

variable {length : Int} {tokens remaining : List String}
  (hwalk : Walk options length tokens blocks remaining)

include hwalk

/-- The names of the version files are the texts that blocks give as such, in order. -/
theorem files_ofBlocks : blocks.filterMap (Block.valueFor? "file") =
    (fileNames (Parsed.ofBlocks options blocks after)).map .text := by
  have hmem : fileOption ∈ options := by simp [fileOption, options]
  have htext : ∀ value ∈ fileOption.givenValues blocks, Value.text value.plain = value := by
    intro value hvalue
    obtain ⟨text, haccepts⟩ := hwalk.exists_accepts (by decide) hmem hvalue
    rw [haccepts.eq_text rfl]
    rfl
  have hheld : (Parsed.ofBlocks options blocks after).values.get? "file" =
      some (.list (fileOption.givenValues blocks)) := get?_ofBlocks after hmem
  simp only [fileNames, hheld, List.map_map]
  exact ((List.map_congr_left htext).trans (List.map_id' _)).symm

/-- The text of the requirement is the last one that a block gives. -/
theorem requirement_ofBlocks : (blocks.filterMap (Block.valueFor? "require")).getLast? =
    (textOf? (Parsed.ofBlocks options blocks after) "require").map .text := by
  have hmem : requireOption ∈ options := by simp [requireOption, options]
  have hheld : (Parsed.ofBlocks options blocks after).values.get? "require" =
      some ((requireOption.givenValues blocks).getLast?.getD .none) :=
    get?_ofBlocks_single after hmem rfl rfl
  show (requireOption.givenValues blocks).getLast? = _
  cases hlast : (requireOption.givenValues blocks).getLast? with
  | none => simp [textOf?, hheld, hlast]
  | some value =>
    obtain ⟨text, haccepts⟩ :=
      hwalk.exists_accepts (by decide) hmem (List.mem_of_getLast? hlast)
    obtain rfl := haccepts.eq_text rfl
    simp [textOf?, hheld, hlast]

/-- The limit is the last one that a block gives. -/
theorem limit_ofBlocks : (blocks.filterMap (Block.valueFor? "limit")).getLast? =
    (limit? (Parsed.ofBlocks options blocks after)).map .int := by
  have hmem : limitOption ∈ options := by simp [limitOption, options]
  have hheld : (Parsed.ofBlocks options blocks after).values.get? "limit" =
      some ((limitOption.givenValues blocks).getLast?.getD .none) :=
    get?_ofBlocks_single after hmem rfl rfl
  show (limitOption.givenValues blocks).getLast? = _
  cases hlast : (limitOption.givenValues blocks).getLast? with
  | none => simp [limit?, hheld, hlast]
  | some value =>
    obtain ⟨text, haccepts⟩ :=
      hwalk.exists_accepts (by decide) hmem (List.mem_of_getLast? hlast)
    obtain ⟨n, rfl⟩ := haccepts.exists_eq_int rfl
    simp [limit?, hheld, hlast]

/-- The check finds the request that the blocks make. -/
theorem Request.ofParsed_isMadeBy :
    (Request.ofParsed (.ofBlocks options blocks after)).IsMadeBy blocks where
  verbose_iff := by
    have hmem : ({ name := "verbose", aliases := "-v --verbose" } : Declaration) ∈ options := by
      simp [options]
    exact isGiven_ofBlocks_iff after hmem rfl
  sorted_iff := by
    have hmem : sortOption ∈ options := by simp [sortOption, options]
    exact isGiven_ofBlocks_iff after hmem rfl
  files_eq := files_ofBlocks after hwalk
  requirement_eq := requirement_ofBlocks after hwalk
  limit_eq := limit_ofBlocks after hwalk

end Walk

section Seen

variable {length : Int} {arguments : List String} {parsed : Parsed}

/-- A flag counts as given when it was seen. -/
theorem isGiven_iff_of_parse (hmem : option ∈ options) (hflag : option.isFlag = true)
    (hparse : parse options length arguments = .ok parsed) :
    isGiven parsed option.name = true ↔ option.name ∈ parsed.seen := by
  obtain ⟨before, after, hcut⟩ := exists_isCut arguments
  obtain ⟨blocks, _, _, rfl⟩ := exists_walk_of_parse (by decide) hcut hparse
  rw [isGiven_ofBlocks_iff after hmem hflag, Parsed.ofBlocks, mem_namesOf]

/-- There is no limit when it was not seen. -/
theorem limit?_eq_none_of_parse (hparse : parse options length arguments = .ok parsed)
    (hnone : "limit" ∉ parsed.seen) : limit? parsed = none := by
  obtain ⟨before, after, hcut⟩ := exists_isCut arguments
  obtain ⟨blocks, hwalk, _, rfl⟩ := exists_walk_of_parse (by decide) hcut hparse
  have hmem : limitOption ∈ options := by simp [limitOption, options]
  have hheld : (Parsed.ofBlocks options blocks after).values.get? "limit" =
      some ((limitOption.givenValues blocks).getLast?.getD .none) :=
    get?_ofBlocks_single after hmem rfl rfl
  have hvalues : limitOption.givenValues blocks = [] :=
    (hwalk.givenValues_eq_nil_iff (by decide) (by decide +kernel) hmem rfl).mpr hnone
  simp [limit?, hheld, hvalues]

end Seen

section Agreement

variable {name : String} {parsed parsed' : Parsed}

/-- Whether a flag was given does not depend on the other values. -/
theorem isGiven_eq_of_agrees {flag : String} (hagrees : parsed.AgreesExcept name parsed')
    (hname : flag ≠ name) : isGiven parsed flag = isGiven parsed' flag := by
  rw [isGiven, isGiven, hagrees.get?_eq flag hname]

/-- The names of the version files do not depend on the other values. -/
theorem fileNames_eq_of_agrees (hagrees : parsed.AgreesExcept name parsed')
    (hname : "file" ≠ name) : fileNames parsed = fileNames parsed' := by
  rw [fileNames, fileNames, hagrees.get?_eq "file" hname]

/-- The limit does not depend on the other values. -/
theorem limit?_eq_of_agrees (hagrees : parsed.AgreesExcept name parsed')
    (hname : "limit" ≠ name) : Gate.limit? parsed = Gate.limit? parsed' := by
  rw [Gate.limit?, Gate.limit?, hagrees.get?_eq "limit" hname]

/-- The text of the required version does not depend on the other values. -/
theorem requirement_eq_of_agrees (hagrees : parsed.AgreesExcept name parsed')
    (hname : "require" ≠ name) (settings : Settings) :
    requirement parsed settings = requirement parsed' settings := by
  rw [requirement, requirement, textOf?, textOf?, hagrees.get?_eq "require" hname]

end Agreement

end Gate

end VersionGate
