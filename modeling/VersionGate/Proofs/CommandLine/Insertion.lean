import VersionGate.Proofs.CommandLine.Concatenation
import VersionGate.Proofs.CommandLine.Writing

/-!
# Arguments that are put in

What is put behind a separator adds nothing but positional arguments. With prefix-free
keywords, a flag that is put between arguments that are read on their own and the others is
read as that flag, and nothing else is read in another way for it.
-/

namespace VersionGate.CommandLine

variable {options : List Declaration} {flag : Declaration} {threshold : Int} {keyword : String}
  {front back : List Block} {block : Block}

/-- Reading some tokens comes to a block that gives the option of a name. -/
def Finds (options : List Declaration) (threshold : Int) (tokens : List String) (name : String) :
    Prop :=
  ∃ blocks remaining, Walk options threshold tokens blocks remaining ∧
    ∃ block ∈ blocks, block.name? = some name

namespace Parsed

/-- The result of a session with further positional arguments. -/
def withMore (parsed : Parsed) (more : List String) : Parsed :=
  { parsed with positionals := parsed.positionals ++ more }

/-- Two results have the same positional arguments, and the same values except under one name. -/
structure AgreesExcept (name : String) (parsed parsed' : Parsed) : Prop where
  positionals_eq : parsed.positionals = parsed'.positionals
  get?_eq : ∀ other, other ≠ name → parsed.values.get? other = parsed'.values.get? other

end Parsed

/-- What comes behind a separator is positional. -/
theorem parse_append_separator {xs : List String} (hseparator : separator ∉ xs)
    (ys : List String) :
    parse options threshold (xs ++ separator :: ys) =
      (parse options threshold xs).map (·.withMore ys) := by
  have hwhole : IsCut xs xs [] := ⟨hseparator, .inl ⟨rfl, rfl⟩⟩
  have hcut : IsCut (xs ++ separator :: ys) xs ys := ⟨hseparator, .inr rfl⟩
  simp only [parse, hwhole.cutAtSeparator_eq, hcut.cutAtSeparator_eq]
  generalize xs.toArray.size = size
  cases Session.run options threshold xs.toArray size { values := initialValues options } with
  | error fault => rfl
  | ok session =>
    simp only [bind, Except.bind]
    cases ensure (session.cursor == size) "cursor at end of token list" with
    | error fault => rfl
    | ok _ =>
      cases requireAll options session.seen with
      | error fault => rfl
      | ok _ => simp [Except.map, Parsed.withMore]

/-- Reading that comes to an end has come to the blocks of the options that were given. -/
theorem finds_iff_of_parse {xs : List String} {parsed : Parsed} {name : String}
    (hnames : (options.map Declaration.name).Nodup) (hseparator : separator ∉ xs)
    (hparse : parse options threshold xs = .ok parsed) :
    Finds options threshold xs name ↔ name ∈ parsed.seen := by
  have hwhole : IsCut xs xs [] := ⟨hseparator, .inl ⟨rfl, rfl⟩⟩
  obtain ⟨all, hall, _, rfl⟩ := exists_walk_of_parse hnames hwhole hparse
  rw [Parsed.ofBlocks, mem_namesOf]
  constructor
  · rintro ⟨blocks, remaining, hwalk, block, hblock, hname⟩
    obtain ⟨more, rfl, _⟩ := hwalk.exists_rest hall
    exact ⟨block, List.mem_append_left _ hblock, hname⟩
  · rintro ⟨block, hblock, hname⟩
    exact ⟨all, [], hall, block, hblock, hname⟩

/-- What can be stored block by block can be stored in two parts. -/
theorem areStorable_append_iff {blocks more : List Block} :
    AreStorable blocks (more ++ back) ↔
      AreStorable blocks more ∧ AreStorable (blocks ++ more) back := by
  induction more generalizing blocks with
  | nil => simp [AreStorable]
  | cons block more ih =>
    rw [List.cons_append, AreStorable, AreStorable, ih, and_assoc, List.append_assoc]
    rfl

/-- Blocks can be stored behind another one as they can be stored without it, if it spares the
options that they give. -/
theorem areStorable_append_cons {middle : List Block}
    (hspares : ∀ option keyword manner, .given option keyword manner ∈ back →
      block.Spares option) :
    AreStorable (front ++ block :: middle) back ↔ AreStorable (front ++ middle) back := by
  induction back generalizing middle with
  | nil => simp [AreStorable]
  | cons first back ih =>
    have hback : ∀ option keyword manner, .given option keyword manner ∈ back →
        block.Spares option := fun option keyword manner hgiven =>
      hspares option keyword manner (List.mem_cons_of_mem _ hgiven)
    have hstorable : first.isStorable (front ++ block :: middle) =
        first.isStorable (front ++ middle) := by
      cases first with
      | positional token => rfl
      | given option keyword manner =>
        have hfirst := hspares option keyword manner List.mem_cons_self
        simp only [Block.isStorable, List.append_assoc, List.cons_append]
        rw [Declaration.valueAfter_append_cons hfirst]
    rw [AreStorable, AreStorable, hstorable, List.append_assoc, List.cons_append, ih hback,
      List.append_assoc]

section Flag

variable (hisFlag : flag.isFlag = true)
  (hnew : ∀ block ∈ front ++ back, block.name? ≠ some flag.name)

include hisFlag hnew

/-- A flag that other blocks do not give is counted once. -/
theorem valueAfter_flag :
    flag.valueAfter (front ++ .given flag keyword .flag :: back) = .int 1 := by
  have hnone : (front ++ back).countP (Block.gives flag.name) = 0 := by
    rw [List.countP_eq_zero]
    intro block hblock
    simpa [Block.gives] using hnew block hblock
  have hgives : Block.gives flag.name (.given flag keyword .flag) = true := by
    simp [Block.gives, Block.name?]
  rw [List.countP_append] at hnone
  rw [Declaration.valueAfter, if_pos hisFlag, List.countP_append, List.countP_cons, if_pos hgives,
    ← Nat.add_assoc, hnone]
  rfl

/-- What blocks give can be stored with a flag among them that they do not give if it can be
stored without that flag. -/
theorem areStorable_insert_flag (keyword : String) :
    AreStorable [] (front ++ .given flag keyword .flag :: back) ↔
      AreStorable [] (front ++ back) := by
  have honce : (Block.given flag keyword .flag).isStorable front = true := by
    have hvalue : flag.valueAfter (front ++ [.given flag keyword .flag]) = .int 1 :=
      valueAfter_flag hisFlag fun block hblock => hnew block (by simp_all)
    rw [Block.isStorable, hvalue]
    decide
  have hback : ∀ option keyword' manner, .given option keyword' manner ∈ back →
      (Block.given flag keyword .flag).Spares option := fun option keyword' manner hgiven =>
    Block.spares_of_ne (Ne.symm (hnew _ (List.mem_append_right _ hgiven)))
  have hrest : AreStorable (front ++ .given flag keyword .flag :: []) back ↔
      AreStorable (front ++ []) back := areStorable_append_cons hback
  rw [List.append_nil] at hrest
  simp only [areStorable_append_iff, AreStorable, List.nil_append, honce, true_and, hrest]

end Flag

/-- The results of blocks with and without a flag agree except under its name. -/
theorem Parsed.ofBlocks_agreesExcept (hnames : (options.map Declaration.name).Nodup) :
    (Parsed.ofBlocks options (front ++ back) []).AgreesExcept flag.name
      (.ofBlocks options (front ++ .given flag keyword .flag :: back) []) where
  positionals_eq := by simp [ofBlocks, positionalsOf, List.filterMap_cons, Block.positional?]
  get?_eq := by
    intro other hother
    by_cases hknown : other ∈ options.map Declaration.name
    · obtain ⟨option, hoption, rfl⟩ := List.mem_map.mp hknown
      have hname : (Block.given flag keyword .flag).name? ≠ some option.name := by
        simpa [Block.name?] using hother.symm
      simp only [ofBlocks, valuesAfter, Table.get?_map_of_nodup hnames hoption,
        Declaration.valueAfter_append_cons (Block.spares_of_ne hname)]
    · simp only [ofBlocks, valuesAfter, Table.get?_map_of_not_mem hknown]

/-- **A flag that is put in.** With prefix-free keywords, when no option is required or may leave
out its value, a flag that is not found otherwise can be put behind arguments that are read on
their own. Reading fails as without it, or the flag is held as given once and everything else is
read as without it. -/
theorem parse_insert_flag {xs ys : List String} {first : Parsed}
    (hnames : (options.map Declaration.name).Nodup) (hfree : PrefixFree options)
    (hready : ∀ option ∈ options, option.IsReady)
    (hrequired : ∀ option ∈ options, option.required = false)
    (hoptional : ∀ option ∈ options, option.valueOptional = false)
    (hflag : flag ∈ options) (hisFlag : flag.isFlag = true) (hkeyword : keyword ∈ flag.spellings)
    (hseparator : separator ∉ xs ++ keyword :: ys)
    (hfirst : parse options threshold xs = .ok first)
    (hnew : ¬Finds options threshold (xs ++ ys) flag.name) :
    (∀ fault, parse options threshold (xs ++ ys) = .error fault →
      parse options threshold (xs ++ keyword :: ys) = .error fault) ∧
    ∀ parsed, parse options threshold (xs ++ ys) = .ok parsed →
      ∃ parsed', parse options threshold (xs ++ keyword :: ys) = .ok parsed' ∧
        parsed.AgreesExcept flag.name parsed' ∧ parsed'.values.get? flag.name = some (.int 1) := by
  obtain ⟨hxs, -, hys⟩ : separator ∉ xs ∧ separator ≠ keyword ∧ separator ∉ ys := by
    simpa using hseparator
  have hwhole : IsCut xs xs [] := ⟨hxs, .inl ⟨rfl, rfl⟩⟩
  have hcut : IsCut (xs ++ ys) (xs ++ ys) [] := ⟨by simp [hxs, hys], .inl ⟨rfl, rfl⟩⟩
  have hcut' : IsCut (xs ++ keyword :: ys) (xs ++ keyword :: ys) [] := ⟨hseparator, .inl ⟨rfl, rfl⟩⟩
  have hgiven := requireAll_of_not_required hrequired
  obtain ⟨front, hfront, _, -⟩ := exists_walk_of_parse hnames hwhole hfirst
  have hwritten : (Block.given flag keyword .flag).IsWritten options threshold :=
    ⟨hflag, hkeyword, hisFlag⟩
  have hplain {back : List Block} {remaining : List String}
      (hback : Walk options threshold ys back remaining) :
      Walk options threshold (xs ++ ys) (front ++ back) remaining :=
    (hfront.extend hfree hoptional ys).append hback
  have hmarked {back : List Block} {remaining : List String}
      (hback : Walk options threshold ys back remaining) :
      Walk options threshold (xs ++ keyword :: ys) (front ++ .given flag keyword .flag :: back)
        remaining :=
    (hfront.extend hfree hoptional (keyword :: ys)).append
      (.step (hwritten.fits hfree hready ys) hback)
  have hothers {back : List Block} {remaining : List String}
      (hback : Walk options threshold ys back remaining) :
      ∀ block ∈ front ++ back, block.name? ≠ some flag.name :=
    fun block hblock hname => hnew ⟨_, _, hplain hback, block, hblock, hname⟩
  have hstored {back : List Block} {remaining : List String}
      (hback : Walk options threshold ys back remaining) :
      AreStorable [] (front ++ .given flag keyword .flag :: back) ↔
        AreStorable [] (front ++ back) :=
    areStorable_insert_flag hisFlag (hothers hback) keyword
  -- Both readings go the same way behind the flag: to the end, to where they halt, or to a
  -- value that cannot be stored.
  rcases exists_walk_or_halts_or_not_areStorable options threshold front ys with
    ⟨back, hback, hstorable⟩ | ⟨back, token, rest, fault, hback, hhalts, hstorable⟩ |
    ⟨back, remaining, hback, hnot⟩
  · rw [parse_of_walk hnames hcut (hplain hback) hstorable, hgiven,
      parse_of_walk hnames hcut' (hmarked hback) ((hstored hback).mpr hstorable), hgiven]
    refine ⟨nofun, fun parsed hparsed => ⟨_, rfl, ?_, ?_⟩⟩
    · rw [← Except.ok.inj hparsed]
      exact Parsed.ofBlocks_agreesExcept hnames
    · exact (Table.get?_map_of_nodup hnames hflag).trans
        (congrArg some (valueAfter_flag hisFlag (hothers hback)))
  · rw [parse_of_halts hnames hcut (hplain hback) hstorable (by simp) hhalts,
      parse_of_halts hnames hcut' (hmarked hback) ((hstored hback).mpr hstorable) (by simp) hhalts]
    exact ⟨fun _ hfault => hfault, nofun⟩
  · rw [parse_of_not_areStorable hnames hcut (hplain hback) hnot,
      parse_of_not_areStorable hnames hcut' (hmarked hback) (mt (hstored hback).mp hnot)]
    exact ⟨fun _ hfault => hfault, nofun⟩

end VersionGate.CommandLine
