import Mathlib.Data.List.Forall2
import VersionGate.Proofs.CommandLine.Splitting

/-!
# Blocks that give the same

What a session holds depends on its blocks only through the positional arguments and
through the values that they give to options, not on how these are spelled. Two lists of
arguments that lead by alike blocks to the same remaining ones are therefore read alike.
-/

namespace VersionGate.CommandLine

/-- Two blocks are alike when they are the same positional argument, or give the same value
to the same option. -/
inductive Block.Alike : Block → Block → Prop
  | positional (token : String) : Block.Alike (.positional token) (.positional token)
  | given {option : Declaration} {keyword keyword' : String} {manner manner' : Manner} :
    manner.value? = manner'.value? →
    Block.Alike (.given option keyword manner) (.given option keyword' manner')

namespace Block

variable {block block' : Block}

/-- Every block is alike to itself. -/
theorem Alike.refl (block : Block) : block.Alike block := by
  cases block with
  | positional token => exact .positional token
  | given option keyword manner => exact .given rfl

/-- Alike blocks are the same positional argument, if any. -/
theorem Alike.positional?_eq (halike : block.Alike block') :
    block.positional? = block'.positional? := by
  cases halike <;> rfl

/-- Alike blocks give an option of the same name. -/
theorem Alike.name?_eq (halike : block.Alike block') : block.name? = block'.name? := by
  cases halike <;> rfl

/-- Alike blocks give the option of a name the same value. -/
theorem Alike.valueFor?_eq (halike : block.Alike block') (name : String) :
    block.valueFor? name = block'.valueFor? name := by
  cases halike with
  | positional => rfl
  | given hvalue => simp only [valueFor?, hvalue]

end Block

section Lists

variable {blocks blocks' : List Block}

/-- What is collected from each of some blocks is the same for alike ones. -/
theorem filterMap_eq_of_alike {α : Type} {part : Block → Option α}
    (hpart : ∀ block block', block.Alike block' → part block = part block')
    (halike : List.Forall₂ Block.Alike blocks blocks') :
    blocks.filterMap part = blocks'.filterMap part := by
  induction halike with
  | nil => rfl
  | cons hblock _ ih => rw [List.filterMap_cons, List.filterMap_cons, hpart _ _ hblock, ih]

/-- Alike blocks give an option equally often. -/
theorem countP_gives_eq_of_alike (halike : List.Forall₂ Block.Alike blocks blocks')
    (name : String) : blocks.countP (Block.gives name) = blocks'.countP (Block.gives name) := by
  induction halike with
  | nil => rfl
  | @cons block block' _ _ hblock _ ih =>
    have hgives : block.gives name = block'.gives name := by
      rw [Block.gives, Block.gives, hblock.name?_eq]
    rw [List.countP_cons, List.countP_cons, ih, hgives]

/-- The same is held for an option after alike blocks. -/
theorem Declaration.valueAfter_eq_of_alike (halike : List.Forall₂ Block.Alike blocks blocks')
    (option : Declaration) : option.valueAfter blocks = option.valueAfter blocks' := by
  have hvalues : option.givenValues blocks = option.givenValues blocks' :=
    filterMap_eq_of_alike (fun _ _ hblock => hblock.valueFor?_eq option.name) halike
  rw [valueAfter, valueAfter, hvalues, countP_gives_eq_of_alike halike]

/-- Sessions that read alike blocks have the same result. -/
theorem Parsed.ofBlocks_eq_of_alike (halike : List.Forall₂ Block.Alike blocks blocks')
    (options : List Declaration) (after : List String) :
    ofBlocks options blocks after = ofBlocks options blocks' after := by
  have hpositionals : positionalsOf blocks = positionalsOf blocks' :=
    filterMap_eq_of_alike (fun _ _ hblock => hblock.positional?_eq) halike
  have hnames : namesOf blocks = namesOf blocks' := by
    rw [namesOf, namesOf, filterMap_eq_of_alike (fun _ _ hblock => hblock.name?_eq) halike]
  have hvalues : valuesAfter options blocks = valuesAfter options blocks' := by
    simp only [valuesAfter, Declaration.valueAfter_eq_of_alike halike]
  rw [ofBlocks, ofBlocks, hvalues, hpositionals, hnames]

/-- What a block gives can be stored after some blocks when an alike one can be stored after
alike blocks. -/
theorem Block.isStorable_eq_of_alike {block block' : Block}
    (halike : List.Forall₂ Block.Alike blocks blocks') (hblock : block.Alike block') :
    block.isStorable blocks = block'.isStorable blocks' := by
  have hconcat := List.rel_append halike (.cons hblock .nil)
  cases hblock with
  | positional => rfl
  | given => simp only [isStorable, Declaration.valueAfter_eq_of_alike hconcat]

/-- What some more blocks give can be stored when alike blocks can. -/
theorem areStorable_iff_of_alike {more more' : List Block}
    (halike : List.Forall₂ Block.Alike blocks blocks')
    (hmore : List.Forall₂ Block.Alike more more') :
    AreStorable blocks more ↔ AreStorable blocks' more' := by
  induction hmore generalizing blocks blocks' with
  | nil => exact Iff.rfl
  | cons hblock _ ih =>
    rw [AreStorable, AreStorable, Block.isStorable_eq_of_alike halike hblock,
      ih (List.rel_append halike (.cons hblock .nil))]

end Lists

variable {options : List Declaration} {threshold : Int}

/-- Arguments that lead by alike blocks to the same remaining ones are read alike. -/
theorem parse_eq_of_alike {arguments arguments' before before' after remaining : List String}
    {blocks blocks' : List Block} (hnames : (options.map Declaration.name).Nodup)
    (hcut : IsCut arguments before after) (hcut' : IsCut arguments' before' after)
    (hwalk : Walk options threshold before blocks remaining)
    (hwalk' : Walk options threshold before' blocks' remaining)
    (halike : List.Forall₂ Block.Alike blocks blocks') :
    parse options threshold arguments = parse options threshold arguments' := by
  -- The rest of both walks is the same, so that the blocks stay alike to its end.
  have hall (more : List Block) : List.Forall₂ Block.Alike (blocks ++ more) (blocks' ++ more) :=
    List.rel_append halike (List.forall₂_same.mpr fun block _ => Block.Alike.refl block)
  have hresult (more : List Block) : Parsed.ofBlocks options (blocks ++ more) after =
      id (Parsed.ofBlocks options (blocks' ++ more) after) :=
    Parsed.ofBlocks_eq_of_alike (hall more) options after
  have hsame := parse_eq_map_of_walk hnames hcut' hcut hwalk' hwalk
    (fun more _ _ => areStorable_iff_of_alike .nil (hall more))
    (fun more => congrArg (requireAll options) (congrArg Parsed.seen (hresult more)))
    (fun more _ => hresult more)
  rw [hsame]
  cases parse options threshold arguments' <;> rfl

end VersionGate.CommandLine
