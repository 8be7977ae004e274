import Mathlib.Data.List.Nodup
import VersionGate.Gate.Options
import VersionGate.Proofs.CommandLine.PrefixFree
import VersionGate.Proofs.CommandLine.Storing

/-!
# Concatenated arguments

When no value may be left out and keywords are prefix-free, a block fits in front of
everything if it fits in front of something: whether an option is given does not depend
on what comes after its value. Reading further arguments then goes on as reading them
alone does, and the two results are combined.
-/

namespace VersionGate.CommandLine

open Number

/-- What is held for an option after two sessions, one after the other: counts of a flag
are added, the values of a repeatable option are collected, and any other option has its
later value if it was given then. -/
def Declaration.combined (option : Declaration) (first second : Parsed) : Value :=
  if option.isFlag then
    match option.held first.values, option.held second.values with
    | .int count, .int more => .int (count + more)
    | held, _ => held
  else if option.multiple then
    match option.held first.values, option.held second.values with
    | .list items, .list more => .list (items ++ more)
    | held, _ => held
  else if second.gave option.name then option.held second.values
  else option.held first.values

/-- The result of two sessions, one after the other. -/
def Parsed.followedBy (first : Parsed) (options : List Declaration) (second : Parsed) : Parsed where
  values := ⟨options.map fun option => (option.name, option.combined first second)⟩
  positionals := first.positionals ++ second.positionals
  seen := second.seen ∪ first.seen

variable {options : List Declaration} {option : Declaration} {threshold : Int}

/-- An option that has answered is ready. -/
theorem Declaration.isReady_of_answer {tokens : List String} {given : Bool}
    (hanswer : option.answer threshold tokens = .ok given) : option.IsReady := by
  obtain ⟨attempt, hattempt, _⟩ := exists_attempt_of_answer hanswer
  exact isReady_of_attemptFirst hattempt

/-- A block that fits in front of some tokens fits in front of all others. -/
theorem Block.Fits.of_prefixFree {block : Block} {remaining : List String}
    (hfree : PrefixFree options) (hoptional : ∀ option ∈ options, option.valueOptional = false)
    (hfits : block.Fits options threshold remaining) (other : List String) :
    block.Fits options threshold other := by
  cases block with
  | positional token =>
    intro option hoption
    obtain ⟨hanswer, hsilent⟩ := hfits option hoption
    have hready := Declaration.isReady_of_answer hanswer
    refine ⟨hready.answer_of_firstKeyword?_eq_none ?_, hsilent⟩
    rw [Declaration.firstKeyword?, List.find?_eq_none]
    simpa using hsilent
  | given option keyword manner =>
    obtain ⟨howns, hkeyword, hmanner⟩ := hfits
    have hmanner' := (hmanner.fitsAlways (hoptional option howns.mem)).fits other
    refine ⟨?_, hkeyword, hmanner'⟩
    obtain ⟨earlier, later, rfl, hearlier, hanswer⟩ := howns
    exact hfree.owns_of_fits (Declaration.isReady_of_answer hanswer)
      (fun other hother => Declaration.isReady_of_answer (hearlier other hother)) hkeyword hmanner'

/-- A walk stays one when more tokens follow. -/
theorem Walk.extend {tokens remaining : List String} {blocks : List Block}
    (hfree : PrefixFree options) (hoptional : ∀ option ∈ options, option.valueOptional = false)
    (hwalk : Walk options threshold tokens blocks remaining) (more : List String) :
    Walk options threshold (tokens ++ more) blocks (remaining ++ more) := by
  induction hwalk with
  | stop tokens => exact .stop _
  | step hfits hwalk ih =>
    rw [List.append_assoc]
    exact .step (hfits.of_prefixFree hfree hoptional _) ih

/-- The names of the options that are given by blocks and further ones. -/
theorem namesOf_append (blocks more : List Block) :
    namesOf (blocks ++ more) = namesOf more ∪ namesOf blocks := by
  induction more using List.reverseRecOn with
  | nil => simp [namesOf]
  | append_singleton more block ih =>
    rw [← List.append_assoc]
    cases block with
    | positional token => rw [namesOf_concat_positional, namesOf_concat_positional, ih]
    | given option keyword manner =>
      rw [namesOf_concat_given, namesOf_concat_given, ih]
      -- A name that is given again stays where it was put first.
      by_cases hname : option.name ∈ namesOf more
      · rw [List.insert_of_mem hname, List.insert_of_mem]
        exact List.mem_union_iff.mpr (Or.inl hname)
      · rw [List.insert_of_not_mem hname, List.cons_union]

/-- Among blocks that fit, those that give an option its value are those that give the
option, unless it is a flag. -/
theorem Block.Fits.valueFor?_eq_none_iff {block : Block} {remaining : List String}
    (hnames : (options.map Declaration.name).Nodup)
    (hoptional : ∀ option ∈ options, option.valueOptional = false) (hmem : option ∈ options)
    (hflag : option.isFlag = false) (hfits : block.Fits options threshold remaining) :
    block.valueFor? option.name = none ↔ block.name? ≠ some option.name := by
  cases block with
  | positional token => simp [Block.valueFor?, Block.name?]
  | given owner keyword manner =>
    by_cases hname : owner.name = option.name
    · obtain rfl : owner = option := List.inj_on_of_nodup_map hnames hfits.1.mem hmem hname
      have halways := hfits.2.2.fitsAlways (hoptional owner hmem)
      cases manner with
      | flag => simp [Manner.FitsAlways, hflag] at halways
      | attached text value => simp [Block.valueFor?, Block.name?, Manner.value?]
      | separate text value => simp [Block.valueFor?, Block.name?, Manner.value?]
      | bare => exact halways.elim
      | bareAttached text => exact halways.elim
    · simp [Block.valueFor?, Block.name?, hname]

/-- An option other than a flag has been given some values on a walk exactly when it has
been given. -/
theorem Walk.givenValues_eq_nil_iff {tokens remaining : List String} {blocks : List Block}
    (hnames : (options.map Declaration.name).Nodup)
    (hoptional : ∀ option ∈ options, option.valueOptional = false) (hmem : option ∈ options)
    (hflag : option.isFlag = false) (hwalk : Walk options threshold tokens blocks remaining) :
    option.givenValues blocks = [] ↔ option.name ∉ namesOf blocks := by
  have hvalue : ∀ block ∈ blocks,
      (block.valueFor? option.name = none ↔ block.name? ≠ some option.name) := by
    intro block hblock
    obtain ⟨rest, hfits⟩ := hwalk.exists_fits block hblock
    exact hfits.valueFor?_eq_none_iff hnames hoptional hmem hflag
  rw [Declaration.givenValues, List.filterMap_eq_nil_iff, mem_namesOf]
  constructor
  · rintro hnone ⟨block, hblock, hname⟩
    exact (hvalue block hblock).mp (hnone block hblock) hname
  · intro hnot block hblock
    exact (hvalue block hblock).mpr fun hname => hnot ⟨block, hblock, hname⟩

/-- What is held for an option after some blocks and a walk combines what is held for it
after each of them. -/
theorem Declaration.combined_ofBlocks {tokens remaining after after' : List String}
    {blocks more : List Block} (hnames : (options.map Declaration.name).Nodup)
    (hoptional : ∀ option ∈ options, option.valueOptional = false) (hmem : option ∈ options)
    (hwalk : Walk options threshold tokens more remaining) :
    option.combined (.ofBlocks options blocks after) (.ofBlocks options more after') =
      option.valueAfter (blocks ++ more) := by
  simp only [combined, Parsed.ofBlocks, Parsed.gave, held_valuesAfter _ hnames hmem]
  cases hflag : option.isFlag with
  | true => simp [valueAfter, hflag, List.countP_append]
  | false =>
    cases hmultiple : option.multiple with
    | true => simp [valueAfter, hflag, hmultiple, givenValues, List.filterMap_append]
    | false =>
      have hgiven := hwalk.givenValues_eq_nil_iff hnames hoptional hmem hflag
      have happend : option.givenValues (blocks ++ more) =
          option.givenValues blocks ++ option.givenValues more := by
        simp [givenValues, List.filterMap_append]
      simp only [valueAfter, hflag, hmultiple, happend, Bool.false_eq_true, if_false,
        List.getLast?_append, List.contains_iff_mem]
      by_cases hnone : option.givenValues more = []
      · rw [if_neg (hgiven.mp hnone), hnone]
        rfl
      · rw [if_pos (by_contra fun hnot => hnone (hgiven.mpr hnot)),
          List.getLast?_eq_some_getLast hnone]
        rfl

/-- The result after some blocks and a walk combines the results after each of them. -/
theorem Parsed.followedBy_ofBlocks {tokens remaining after : List String}
    {blocks more : List Block} (hnames : (options.map Declaration.name).Nodup)
    (hoptional : ∀ option ∈ options, option.valueOptional = false)
    (hwalk : Walk options threshold tokens more remaining) :
    (ofBlocks options blocks []).followedBy options (ofBlocks options more after) =
      ofBlocks options (blocks ++ more) after := by
  have hvalues : (options.map fun option =>
      (option.name, option.combined (ofBlocks options blocks []) (ofBlocks options more after))) =
      options.map fun option => (option.name, option.valueAfter (blocks ++ more)) := by
    refine List.map_congr_left fun option hoption => ?_
    rw [Declaration.combined_ofBlocks hnames hoptional hoption hwalk]
  rw [followedBy, hvalues]
  simp [ofBlocks, valuesAfter, positionalsOf, namesOf_append, List.filterMap_append]

/-- What a walk gives can be stored behind the blocks of another one exactly when it can be
stored alone. -/
theorem Walk.areStorable_append_iff {tokens tokens' remaining remaining' : List String}
    {blocks more : List Block} (hoptional : ∀ option ∈ options, option.valueOptional = false)
    (hwalk : Walk options threshold tokens blocks remaining) (hstorable : AreStorable [] blocks)
    (hmore : Walk options threshold tokens' more remaining')
    (hboth : Walk options threshold (tokens ++ tokens') (blocks ++ more) remaining')
    (hlength : (tokens ++ tokens').length < 10 ^ digitLimit) :
    AreStorable [] (blocks ++ more) ↔ AreStorable [] more := by
  have hblocks := hwalk.length_le
  have hothers := hmore.length_le
  have hdefaults : ∀ option ∈ options, option.valueOptional = true →
      option.default.isWritable = true := fun option hoption hbare => by
    simp [hoptional option hoption] at hbare
  rw [List.length_append] at hlength
  have hwritable :=
    (hwalk.areStorable_iff (hwalk.hasWritableDefault hdefaults) (by omega)).mp hstorable
  rw [hboth.areStorable_iff (hboth.hasWritableDefault hdefaults)
      (by rw [List.length_append]; omega),
    hmore.areStorable_iff (hmore.hasWritableDefault hdefaults) (by omega), List.forall_mem_append]
  exact and_iff_right hwritable

/-- **Argument lists compose.** When no option is required or may leave out its value, and
keywords are prefix-free, reading further arguments behind ones that were read fails with
the same fault as reading them alone, and otherwise combines the two results. -/
theorem parse_append {xs ys : List String} {first : Parsed}
    (hnames : (options.map Declaration.name).Nodup) (hfree : PrefixFree options)
    (hrequired : ∀ option ∈ options, option.required = false)
    (hoptional : ∀ option ∈ options, option.valueOptional = false) (hseparator : separator ∉ xs)
    (hfirst : parse options threshold xs = .ok first)
    (hlength : (xs ++ ys).length < 10 ^ digitLimit) :
    parse options threshold (xs ++ ys) =
      (parse options threshold ys).map (first.followedBy options) := by
  obtain ⟨before, after, hcut⟩ := exists_isCut ys
  have hcut' : IsCut (xs ++ ys) (xs ++ before) after := hcut.append hseparator
  have hwhole : IsCut xs xs [] := ⟨hseparator, Or.inl ⟨rfl, rfl⟩⟩
  obtain ⟨blocks, hwalk, hstorable, rfl⟩ := exists_walk_of_parse hnames hwhole hfirst
  have hshort : (xs ++ before).length < 10 ^ digitLimit :=
    Nat.lt_of_le_of_lt hcut'.length_le hlength
  have hboth {more : List Block} {remaining : List String}
      (hmore : Walk options threshold before more remaining) :
      Walk options threshold (xs ++ before) (blocks ++ more) remaining :=
    (hwalk.extend hfree hoptional before).append hmore
  have hstored {more : List Block} {remaining : List String}
      (hmore : Walk options threshold before more remaining) :
      AreStorable [] (blocks ++ more) ↔ AreStorable [] more :=
    hwalk.areStorable_append_iff hoptional hstorable hmore (hboth hmore) hshort
  have hgiven (names : List String) : requireAll options names = .ok () :=
    requireAll_of_given fun option hoption hneeded => by simp [hrequired option hoption] at hneeded
  have hunstored {more : List Block} {remaining : List String}
      (hmore : Walk options threshold before more remaining) (hnot : ¬AreStorable [] more) :
      parse options threshold (xs ++ ys) = (parse options threshold ys).map
        ((Parsed.ofBlocks options blocks []).followedBy options) := by
    rw [parse_of_not_areStorable hnames hcut hmore hnot,
      parse_of_not_areStorable hnames hcut' (hboth hmore) (mt (hstored hmore).mp hnot)]
    rfl
  -- Both readings go the same way through the further arguments: to the end, to a token
  -- where they halt, or to a value that cannot be stored.
  rcases exists_walk_or_halts options threshold before with
    ⟨more, hmore⟩ | ⟨more, token, rest, fault, hmore, hhalts⟩
  · by_cases hsecond : AreStorable [] more
    · rw [parse_of_walk hnames hcut hmore hsecond, hgiven,
        parse_of_walk hnames hcut' (hboth hmore) ((hstored hmore).mpr hsecond), hgiven]
      simp only [bind, Except.bind, Except.map,
        Parsed.followedBy_ofBlocks hnames hoptional hmore]
    · exact hunstored hmore hsecond
  · by_cases hsecond : AreStorable [] more
    · rw [parse_of_halts hnames hcut hmore hsecond (by simp) hhalts,
        parse_of_halts hnames hcut' (hboth hmore) ((hstored hmore).mpr hsecond) (by simp) hhalts]
      rfl
    · exact hunstored hmore hsecond

/-- The options of the program compose: the later requirement wins, flags are counted and
files are collected. -/
theorem parse_append_gate :
    parse Gate.options defaultThreshold
        (["-v", "-r1.0", "-fa", "1.1"] ++ ["-v", "--require", "2.0", "-f", "b", "--", "-s"]) =
      .ok ⟨⟨[("help", .int 0), ("version", .int 0), ("verbose", .int 2), ("sort", .int 0),
        ("require", .text "2.0"), ("file", .list [.text "a", .text "b"]), ("limit", .none)]⟩,
        ["1.1", "-s"], ["file", "require", "verbose"]⟩ := by
  have hfree : PrefixFree Gate.options := ⟨by decide +kernel, by decide +kernel⟩
  have hlength : (["-v", "-r1.0", "-fa", "1.1"] ++
      ["-v", "--require", "2.0", "-f", "b", "--", "-s"]).length < 10 ^ digitLimit :=
    lt_ten_pow_digitLimit (by decide)
  have hfirst : parse Gate.options defaultThreshold ["-v", "-r1.0", "-fa", "1.1"] =
      .ok ⟨⟨[("help", .int 0), ("version", .int 0), ("verbose", .int 1), ("sort", .int 0),
        ("require", .text "1.0"), ("file", .list [.text "a"]), ("limit", .none)]⟩,
        ["1.1"], ["file", "require", "verbose"]⟩ := rfl
  exact parse_append (by decide) hfree (by decide +kernel) (by decide +kernel) (by decide) hfirst
    hlength

end VersionGate.CommandLine
