import Mathlib.Data.List.Induction
import VersionGate.CommandLine.Session
import VersionGate.Proofs.CommandLine.Blocks
import VersionGate.Proofs.Table

/-!
# What a session holds after some blocks

The values, the positional arguments and the names of a session are functions of the
blocks that were read: a flag is counted, a repeatable option collects its values, any
other option keeps its last one. Storing what a block gives to its option leads from
the values after the blocks before it to those after it.
-/

namespace VersionGate.CommandLine

/-- A block gives the option of a name. -/
def Block.gives (name : String) (block : Block) : Bool :=
  block.name? == some name

namespace Declaration

/-- The values that some blocks give to an option, in order. -/
def givenValues (option : Declaration) (blocks : List Block) : List Value :=
  blocks.filterMap (Block.valueFor? option.name)

/-- What is held for an option after some blocks: the number of times that a flag was
given, the values of a repeatable option in order, the last value of any other one, and
its default when it has been given none. -/
def valueAfter (option : Declaration) (blocks : List Block) : Value :=
  if option.isFlag then .int (blocks.countP (Block.gives option.name))
  else if option.multiple then .list (option.givenValues blocks)
  else (option.givenValues blocks).getLast?.getD option.default

end Declaration

/-- The values of the options after some blocks. -/
def valuesAfter (options : List Declaration) (blocks : List Block) : Table Value :=
  ⟨options.map fun option => (option.name, option.valueAfter blocks)⟩

/-- The positional arguments among some blocks. -/
def positionalsOf (blocks : List Block) : List String :=
  blocks.filterMap Block.positional?

/-- The names of the options that some blocks give, each once. -/
def namesOf (blocks : List Block) : List String :=
  (blocks.filterMap Block.name?).foldl (fun names name => names.insert name) []

/-- The result of a session that has read some blocks, with further arguments after the
separator. -/
def Parsed.ofBlocks (options : List Declaration) (blocks : List Block) (after : List String) :
    Parsed :=
  ⟨valuesAfter options blocks, positionalsOf blocks ++ after, namesOf blocks⟩

/-- The session that has read some blocks. -/
def Session.ofBlocks (options : List Declaration) (blocks : List Block) : Session where
  cursor := (blocks.flatMap Block.tokens).length
  values := valuesAfter options blocks
  positionals := (positionalsOf blocks).toArray
  seen := namesOf blocks

/-- What a block gives to its option can be stored after some blocks if what is held then
has a written form. -/
def Block.isStorable (blocks : List Block) : Block → Bool
  | .positional _ => true
  | .given option keyword manner =>
    (option.valueAfter (blocks ++ [.given option keyword manner])).isWritable

/-- What some more blocks give can be stored, block by block. -/
def AreStorable : List Block → List Block → Prop
  | _, [] => True
  | blocks, block :: more => block.isStorable blocks = true ∧ AreStorable (blocks ++ [block]) more

/-- A block spares an option when it neither gives it a value nor counts it up as a flag. -/
structure Block.Spares (block : Block) (option : Declaration) : Prop where
  valueFor?_eq : block.valueFor? option.name = none
  not_counts : option.isFlag = true → block.name? ≠ some option.name

/-- A session begins with the values after no blocks. -/
theorem initialValues_eq {options : List Declaration}
    (hnames : (options.map Declaration.name).Nodup) :
    initialValues options = valuesAfter options [] := by
  have hentries : ((options.map fun option => (option.name, option.initialValue)).map
      Prod.fst).Nodup := by
    simpa [List.map_map, Function.comp_def] using hnames
  rw [initialValues, Table.ofList_of_nodup hentries]
  rfl

/-- A session begins without any blocks. -/
theorem start_eq_ofBlocks {options : List Declaration}
    (hnames : (options.map Declaration.name).Nodup) :
    ({ values := initialValues options } : Session) = Session.ofBlocks options [] := by
  rw [initialValues_eq hnames]
  rfl

section Concat

variable {option : Declaration} {blocks : List Block} {block : Block}

/-- A block spares an option whose name it does not give. -/
theorem Block.spares_of_ne (hname : block.name? ≠ some option.name) : block.Spares option where
  valueFor?_eq := by
    cases block with
    | positional token => rfl
    | given other keyword manner =>
      have hne : other.name ≠ option.name := by
        simpa [Block.name?] using hname
      rw [Block.valueFor?, if_neg hne]
  not_counts := fun _ => hname

/-- A block that spares an option leaves what is held for it as it is, wherever the block stands. -/
theorem Declaration.valueAfter_append_cons {back : List Block} (hspares : block.Spares option) :
    option.valueAfter (blocks ++ block :: back) = option.valueAfter (blocks ++ back) := by
  obtain ⟨hvalue, hcounts⟩ := hspares
  cases hflag : option.isFlag with
  | true =>
    have hgives : block.gives option.name = false := by
      simpa [Block.gives] using hcounts hflag
    simp [valueAfter, hflag, List.countP_append, hgives]
  | false => simp [valueAfter, hflag, givenValues, List.filterMap_append, hvalue]

/-- A last block that does not give an option leaves what is held for it as it is. -/
theorem Declaration.valueAfter_concat_of_ne (hname : block.name? ≠ some option.name) :
    option.valueAfter (blocks ++ [block]) = option.valueAfter blocks := by
  have hconcat : option.valueAfter (blocks ++ block :: []) = option.valueAfter (blocks ++ []) :=
    valueAfter_append_cons (Block.spares_of_ne hname)
  rwa [List.append_nil] at hconcat

/-- A positional argument changes no values. -/
theorem valuesAfter_concat_positional (options : List Declaration) (token : String) :
    valuesAfter options (blocks ++ [.positional token]) = valuesAfter options blocks := by
  have hvalue (option : Declaration) :
      option.valueAfter (blocks ++ [.positional token]) = option.valueAfter blocks :=
    Declaration.valueAfter_concat_of_ne (by simp [Block.name?])
  simp only [valuesAfter, hvalue]

/-- A flag that is given is counted up. -/
theorem Declaration.valueAfter_concat_flag {keyword : String} (hflag : option.isFlag = true) :
    option.valueAfter (blocks ++ [.given option keyword .flag]) =
      .int (blocks.countP (Block.gives option.name) + 1 : Nat) := by
  simp [valueAfter, hflag, Block.gives, Block.name?]

/-- The values that are given to an option take in the one of the last block. -/
theorem Declaration.givenValues_concat {keyword : String} {manner : Manner} :
    option.givenValues (blocks ++ [.given option keyword manner]) =
      option.givenValues blocks ++ manner.value?.toList := by
  cases hvalue : manner.value? <;>
    simp [givenValues, List.filterMap_append, Block.valueFor?, hvalue]

/-- What is held for an option changes with the slot of its block as the last block says. -/
theorem Declaration.heldAfter_valueAfter (keyword : String) {manner : Manner} {slot : Option Slot}
    (hslot : slot.map Slot.bound = manner.slotContent)
    (hflag : option.isFlag = true ↔ manner = .flag) :
    option.heldAfter slot (option.valueAfter blocks) =
      .ok (option.valueAfter (blocks ++ [.given option keyword manner])) := by
  by_cases hmanner : manner = .flag
  · subst hmanner
    have hisFlag := hflag.mpr rfl
    obtain rfl : slot = none := by simpa [Manner.slotContent] using hslot
    rw [valueAfter_concat_flag hisFlag]
    simp [heldAfter, valueAfter, hisFlag, Value.countUp]
  · have hisFlag : option.isFlag = false := by
      simpa using mt hflag.mp hmanner
    have hcontent : manner.slotContent = some manner.value? := by
      cases manner with
      | flag => exact absurd rfl hmanner
      | _ => rfl
    rw [hcontent, Option.map_eq_some_iff] at hslot
    obtain ⟨filled, rfl, hbound⟩ := hslot
    simp only [heldAfter, hbound, valueAfter, hisFlag, Bool.false_eq_true, if_false,
      givenValues_concat]
    cases manner.value? with
    | none => simp
    | some value => cases option.multiple <;> simp [Value.append]

/-- The values after some blocks hold for each option what the blocks give it. -/
theorem Declaration.held_valuesAfter {options : List Declaration} (blocks : List Block)
    (hnames : (options.map Declaration.name).Nodup) (hmem : option ∈ options) :
    option.held (valuesAfter options blocks) = option.valueAfter blocks := by
  rw [held, valuesAfter, Table.get?_map_of_nodup hnames hmem]
  rfl

/-- Storing what a block gives leads to the values after it, provided that they have a
written form. -/
theorem Declaration.store_valuesAfter {options : List Declaration} (blocks : List Block)
    (keyword : String) {manner : Manner} {slot : Option Slot}
    (hnames : (options.map Declaration.name).Nodup) (hmem : option ∈ options)
    (hslot : slot.map Slot.bound = manner.slotContent) (hflag : option.isFlag = true ↔ manner = .flag) :
    option.store slot (valuesAfter options blocks) =
      if (Block.given option keyword manner).isStorable blocks then
        .ok (valuesAfter options (blocks ++ [.given option keyword manner]))
      else .error .tooLongToWrite := by
  have hinsert : (valuesAfter options blocks).insert option.name
      (option.valueAfter (blocks ++ [.given option keyword manner])) =
      valuesAfter options (blocks ++ [.given option keyword manner]) := by
    refine Table.insert_map_of_nodup hnames hmem rfl fun other _ hne => ?_
    exact valueAfter_concat_of_ne (by simpa [Block.name?] using Ne.symm hne)
  rw [store, held_valuesAfter blocks hnames hmem,
    heldAfter_valueAfter keyword hslot hflag]
  simp only [hinsert]
  rfl

end Concat

/-- The positional arguments after one more block. -/
theorem positionalsOf_concat (blocks : List Block) (block : Block) :
    positionalsOf (blocks ++ [block]) = positionalsOf blocks ++ block.positional?.toList := by
  cases hpositional : block.positional? <;>
    simp [positionalsOf, List.filterMap_append, hpositional]

/-- The names of the options that are given after one more block that gives one. -/
theorem namesOf_concat_given (blocks : List Block) (option : Declaration) (keyword : String)
    (manner : Manner) :
    namesOf (blocks ++ [.given option keyword manner]) = (namesOf blocks).insert option.name := by
  simp [namesOf, List.filterMap_append, List.foldl_append, Block.name?]

/-- A positional argument gives no option. -/
theorem namesOf_concat_positional (blocks : List Block) (token : String) :
    namesOf (blocks ++ [.positional token]) = namesOf blocks := by
  rw [namesOf, List.filterMap_append, List.filterMap_cons_none rfl, List.filterMap_nil,
    List.append_nil, namesOf]

/-- A name is among those of the options that are given when some block gives it. -/
theorem mem_namesOf {name : String} {blocks : List Block} :
    name ∈ namesOf blocks ↔ ∃ block ∈ blocks, block.name? = some name := by
  induction blocks using List.reverseRecOn with
  | nil => simp [namesOf]
  | append_singleton blocks block ih =>
    cases block with
    | positional token =>
      rw [namesOf_concat_positional, ih]
      simp [Block.name?]
    | given option keyword manner =>
      rw [namesOf_concat_given, List.mem_insert_iff, ih]
      simp only [List.mem_append, List.mem_singleton]
      constructor
      · rintro (rfl | ⟨block, hblock, hname⟩)
        · exact ⟨_, Or.inr rfl, rfl⟩
        · exact ⟨block, Or.inl hblock, hname⟩
      · rintro ⟨block, hblock | rfl, hname⟩
        · exact Or.inr ⟨block, hblock, hname⟩
        · exact Or.inl (Option.some.inj hname).symm

end VersionGate.CommandLine
