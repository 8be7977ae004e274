import VersionGate.Proofs.CommandLine.Claims
import VersionGate.Proofs.CommandLine.Holdings

/-!
# Passes of a session over its blocks

Each pass of a session reads one block: it leads from the session after some blocks to
the session after one more, and it fails where the session halts or where a value
cannot be written. A run therefore walks over its tokens block by block.
-/

namespace VersionGate.CommandLine.Session

variable {options : List Declaration} {threshold : Int} {tokens : Array String}
  {blocks : List Block} {remaining : List String}

/-- A positional argument is kept. -/
theorem keep_ofBlocks (options : List Declaration) (blocks : List Block) (token : String) :
    (ofBlocks options blocks).keep token = ofBlocks options (blocks ++ [.positional token]) := by
  simp only [keep, ofBlocks, List.flatMap_append, List.length_append, positionalsOf_concat,
    namesOf_concat_positional, valuesAfter_concat_positional]
  simp [Block.tokens, Block.positional?]

/-- A claim is accepted with its tokens and the values after its block. -/
theorem accept_ofBlocks {option : Declaration} {keyword : String} {manner : Manner} {moved : Nat}
    (hmoved : (if moved = 0 then 1 else moved) = (manner.tokens keyword).length)
    (slot : Option Slot) :
    (ofBlocks options blocks).accept
        ⟨option, moved, slot, valuesAfter options (blocks ++ [.given option keyword manner])⟩ =
      ofBlocks options (blocks ++ [.given option keyword manner]) := by
  simp only [accept, ofBlocks, List.flatMap_append, List.length_append, positionalsOf_concat,
    namesOf_concat_given, hmoved]
  simp [Block.tokens, Block.positional?]

/-- A pass reads the block that fits at the cursor. -/
theorem pass_of_fits {block : Block} (hnames : (options.map Declaration.name).Nodup)
    (htokens : tokens.toList = blocks.flatMap Block.tokens ++ (block.tokens ++ remaining))
    (hfits : block.Fits options threshold remaining) :
    (ofBlocks options blocks).pass options threshold tokens =
      if block.isStorable blocks then .ok (ofBlocks options (blocks ++ [block]))
      else .error .tooLongToWrite := by
  have hremaining : tokens.toList.drop (ofBlocks options blocks).cursor =
      block.tokens ++ remaining := by
    rw [htokens, ofBlocks, List.drop_left]
  obtain ⟨token, rest, hblock⟩ := block.exists_tokens_eq_cons
  have htoken : tokens[(ofBlocks options blocks).cursor]? = some token := by
    rw [← Array.getElem?_toList, ← List.head?_drop, hremaining, hblock]
    rfl
  rw [pass, htoken]
  cases block with
  | positional token' =>
    obtain ⟨rfl, rfl⟩ : token' = token ∧ [] = rest := by simpa [Block.tokens] using hblock
    simp only [claim_of_positional hremaining hfits, keep_ofBlocks]
    rfl
  | given option keyword manner =>
    obtain ⟨moved, slot, hmoved, hslot, hclaim⟩ := claim_of_given hremaining hfits
      (ofBlocks options blocks).values
    have hstore := Declaration.store_valuesAfter blocks keyword hnames
      hfits.1.mem hslot hfits.2.2.isFlag_iff
    rw [hclaim, show (ofBlocks options blocks).values = valuesAfter options blocks from rfl, hstore]
    cases (Block.given option keyword manner).isStorable blocks with
    | true => simp only [if_true, bind, Except.bind, accept_ofBlocks hmoved]
    | false => rfl

/-- A pass fails where the session halts. -/
theorem pass_of_halts {fault : Fault}
    (htokens : tokens.toList = blocks.flatMap Block.tokens ++ remaining) (hne : remaining ≠ [])
    (hhalts : Halts options threshold remaining fault) :
    (ofBlocks options blocks).pass options threshold tokens = .error fault := by
  have hremaining : tokens.toList.drop (ofBlocks options blocks).cursor = remaining := by
    rw [htokens, ofBlocks, List.drop_left]
  obtain ⟨token, rest, rfl⟩ := List.exists_cons_of_ne_nil hne
  have htoken : tokens[(ofBlocks options blocks).cursor]? = some token := by
    rw [← Array.getElem?_toList, ← List.head?_drop, hremaining]
    rfl
  rw [pass, htoken]
  simp only [claim_of_halts hremaining hhalts]

end VersionGate.CommandLine.Session
