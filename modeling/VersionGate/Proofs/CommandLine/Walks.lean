import VersionGate.Proofs.CommandLine.Blocks

/-!
# Walks over the tokens

A token has one owner at most, which is given in one manner, so that only one block fits
in front of it. The blocks of a walk are therefore determined by the tokens.
-/

namespace VersionGate.CommandLine

namespace Declaration

/-- An option passes over the first of some tokens when it does not count as given there. -/
def passes (option : Declaration) (threshold : Int) (tokens : List String) : Bool :=
  match option.answer threshold tokens with
  | .ok false => true
  | _ => false

/-- To pass over a token is to answer that the option is not given. -/
theorem passes_iff {option : Declaration} {threshold : Int} {tokens : List String} :
    option.passes threshold tokens = true ↔ option.answer threshold tokens = .ok false := by
  unfold passes
  split
  · next hanswer => simp [hanswer]
  · next hanswer => simpa using hanswer

end Declaration

variable {options : List Declaration} {threshold : Int}

/-- The first option that does not pass over the first of some tokens. -/
def decider? (options : List Declaration) (threshold : Int) (tokens : List String) :
    Option Declaration :=
  options.find? fun option => !option.passes threshold tokens

/-- Nothing decides about a token when every option passes over it. -/
theorem decider?_eq_none_iff {tokens : List String} :
    decider? options threshold tokens = none ↔
      ∀ option ∈ options, option.answer threshold tokens = .ok false := by
  simp [decider?, Declaration.passes_iff]

/-- An option decides about a token when the ones declared before it pass over it. -/
theorem decider?_eq_some_iff {tokens : List String} {option : Declaration} :
    decider? options threshold tokens = some option ↔
      option.answer threshold tokens ≠ .ok false ∧
        ∃ earlier later, options = earlier ++ option :: later ∧
          ∀ other ∈ earlier, other.answer threshold tokens = .ok false := by
  simp [decider?, List.find?_eq_some_iff_append, ← Declaration.passes_iff]

/-- The owner of a token decides about it. -/
theorem Owns.decider?_eq {tokens : List String} {option : Declaration}
    (howns : Owns options threshold tokens option) :
    decider? options threshold tokens = some option := by
  obtain ⟨earlier, later, hoptions, hearlier, hanswer⟩ := howns
  rw [decider?_eq_some_iff, hanswer]
  exact ⟨by simp, earlier, later, hoptions, hearlier⟩

/-- A token has one owner at most. -/
theorem Owns.unique {tokens : List String} {option option' : Declaration}
    (howns : Owns options threshold tokens option)
    (howns' : Owns options threshold tokens option') : option = option' := by
  have hdecider := howns.decider?_eq
  rw [howns'.decider?_eq] at hdecider
  exact (Option.some.inj hdecider).symm

/-- The owner of a token is one of the options. -/
theorem Owns.mem {tokens : List String} {option : Declaration}
    (howns : Owns options threshold tokens option) : option ∈ options := by
  obtain ⟨earlier, later, rfl, _⟩ := howns
  simp

/-- The owner of a token counts as given there. -/
theorem Owns.answer_eq {tokens : List String} {option : Declaration}
    (howns : Owns options threshold tokens option) : option.answer threshold tokens = .ok true := by
  obtain ⟨_, _, _, _, hanswer⟩ := howns
  exact hanswer

/-- Nothing that is attached to a keyword gives the keyword itself. -/
theorem append_ne_self {keyword text : String} (htext : text ≠ "") : keyword ++ text ≠ keyword := by
  intro heq
  have hlength : keyword.length < (keyword ++ text).length := length_lt_append htext
  rw [heq] at hlength
  omega

/-- An option is a flag exactly when it is given as one. -/
theorem Manner.Fits.isFlag_iff {option : Declaration} {keyword : String} {manner : Manner}
    {remaining : List String} (hfits : manner.Fits option threshold keyword remaining) :
    option.isFlag = true ↔ manner = .flag := by
  cases manner with
  | flag => exact ⟨fun _ => rfl, fun _ => hfits⟩
  | attached text value => simp [hfits.2.2.isFlag_eq_false]
  | separate text value => simp [Declaration.Accepts.isFlag_eq_false hfits]
  | bare => simp [hfits.1]
  | bareAttached text => simp [hfits.2.2.2.isFlag_eq_false]

/-- An option is not given bare in front of a text that it accepts. -/
theorem Manner.Fits.ne_cons_of_accepts {option : Declaration} {keyword text : String}
    {value : Value} {remaining rest : List String}
    (hbare : Manner.bare.Fits option threshold keyword remaining)
    (haccepts : option.Accepts text value) : remaining ≠ text :: rest := by
  rintro rfl
  obtain ⟨_, _, hempty | ⟨text', following, heq, hrefuses⟩⟩ := hbare
  · cases hempty
  · rw [List.cons.injEq] at heq
    exact haccepts.not_refuses (heq.1 ▸ hrefuses)

/-- The tokens determine the manner in which an option is given with a keyword. -/
theorem Manner.Fits.unique {option : Declaration} {keyword : String} {manner manner' : Manner}
    {remaining remaining' : List String} (hfits : manner.Fits option threshold keyword remaining)
    (hfits' : manner'.Fits option threshold keyword remaining')
    (htokens : manner.tokens keyword ++ remaining = manner'.tokens keyword ++ remaining') :
    manner = manner' ∧ remaining = remaining' := by
  have hflag : manner = .flag ↔ manner' = .flag := by
    rw [← hfits.isFlag_iff, ← hfits'.isFlag_iff]
  simp only [Manner.tokens, List.cons_append, List.cons.injEq] at htokens
  obtain ⟨htoken, hrest⟩ := htokens
  cases manner with
  | flag =>
    rw [hflag.mp rfl] at hrest ⊢
    exact ⟨rfl, hrest⟩
  | attached text value =>
    obtain ⟨htext, _, haccepts⟩ := hfits
    cases manner' with
    | attached text' value' =>
      obtain rfl : text = text' := (String.append_right_inj _).mp htoken
      rw [haccepts.unique hfits'.2.2]
      exact ⟨rfl, hrest⟩
    | bareAttached text' =>
      obtain rfl : text = text' := (String.append_right_inj _).mp htoken
      exact absurd hfits'.2.2.2 haccepts.not_refuses
    | _ => exact absurd htoken (append_ne_self htext)
  | bareAttached text =>
    obtain ⟨htext, _, _, hrefuses⟩ := hfits
    cases manner' with
    | attached text' value' =>
      obtain rfl : text = text' := (String.append_right_inj _).mp htoken
      exact absurd hrefuses hfits'.2.2.not_refuses
    | bareAttached text' =>
      obtain rfl : text = text' := (String.append_right_inj _).mp htoken
      exact ⟨rfl, hrest⟩
    | _ => exact absurd htoken (append_ne_self htext)
  | separate text value =>
    have haccepts : option.Accepts text value := hfits
    cases manner' with
    | flag => simp at hflag
    | separate text' value' =>
      simp only [Manner.next, List.cons_append, List.nil_append, List.cons.injEq] at hrest
      obtain ⟨rfl, hrest⟩ := hrest
      rw [haccepts.unique hfits']
      exact ⟨rfl, hrest⟩
    | bare =>
      exact absurd hrest.symm (Manner.Fits.ne_cons_of_accepts hfits' haccepts)
    | _ => exact absurd htoken.symm (append_ne_self hfits'.1)
  | bare =>
    cases manner' with
    | flag => simp at hflag
    | separate text' value' =>
      exact absurd hrest (Manner.Fits.ne_cons_of_accepts hfits hfits')
    | bare => exact ⟨rfl, hrest⟩
    | _ => exact absurd htoken.symm (append_ne_self hfits'.1)

/-- Every block has a first token. -/
theorem Block.exists_tokens_eq_cons (block : Block) :
    ∃ token rest, block.tokens = token :: rest := by
  cases block with
  | positional token => exact ⟨token, [], rfl⟩
  | given option keyword manner => exact ⟨manner.token keyword, manner.next, rfl⟩

/-- The tokens determine the block that fits at their front. -/
theorem Block.Fits.unique {block block' : Block} {remaining remaining' : List String}
    (hfits : block.Fits options threshold remaining)
    (hfits' : block'.Fits options threshold remaining')
    (htokens : block.tokens ++ remaining = block'.tokens ++ remaining') :
    block = block' ∧ remaining = remaining' := by
  cases block with
  | positional token =>
    cases block' with
    | positional token' =>
      obtain ⟨rfl, rfl⟩ : token = token' ∧ remaining = remaining' := by
        simpa [Block.tokens] using htokens
      exact ⟨rfl, rfl⟩
    | given option keyword manner =>
      have hanswer := (hfits option hfits'.1.mem).1
      rw [show token :: remaining = _ from htokens, Block.tokens, hfits'.1.answer_eq] at hanswer
      cases hanswer
  | given option keyword manner =>
    cases block' with
    | positional token =>
      have hanswer := (hfits' option hfits.1.mem).1
      rw [show token :: remaining' = _ from htokens.symm, Block.tokens, hfits.1.answer_eq]
        at hanswer
      cases hanswer
    | given option' keyword' manner' =>
      obtain ⟨howns, hkeyword, hmanner⟩ := hfits
      obtain ⟨howns', hkeyword', hmanner'⟩ := hfits'
      simp only [Block.tokens] at htokens
      rw [htokens] at howns
      obtain rfl := howns.unique howns'
      have htoken : manner.token keyword = manner'.token keyword' := by
        simp only [Manner.tokens, List.cons_append, List.cons.injEq] at htokens
        exact htokens.1
      rw [htoken, hkeyword', Option.some.injEq] at hkeyword
      subst hkeyword
      obtain ⟨rfl, rfl⟩ := hmanner.unique hmanner' htokens
      exact ⟨rfl, rfl⟩

/-- The tokens of the blocks of a walk come before the remaining ones. -/
theorem Walk.tokens_eq {tokens remaining : List String} {blocks : List Block}
    (hwalk : Walk options threshold tokens blocks remaining) :
    tokens = blocks.flatMap Block.tokens ++ remaining := by
  induction hwalk with
  | stop tokens => rfl
  | step hfits hwalk ih => rw [ih, List.flatMap_cons, List.append_assoc]

/-- A walk has at most as many blocks as it has tokens. -/
theorem Walk.length_le {tokens remaining : List String} {blocks : List Block}
    (hwalk : Walk options threshold tokens blocks remaining) :
    blocks.length + remaining.length ≤ tokens.length := by
  induction hwalk with
  | stop tokens => simp
  | @step block tokens blocks remaining hfits hwalk ih =>
    obtain ⟨token, rest, hblock⟩ := block.exists_tokens_eq_cons
    rw [hblock, List.length_cons, List.length_append, List.length_cons]
    omega

/-- Every block of a walk fits where it stands. -/
theorem Walk.exists_fits {tokens remaining : List String} {blocks : List Block}
    (hwalk : Walk options threshold tokens blocks remaining) :
    ∀ block ∈ blocks, ∃ rest, block.Fits options threshold rest := by
  induction hwalk with
  | stop tokens => simp
  | step hfits hwalk ih => exact List.forall_mem_cons.mpr ⟨⟨_, hfits⟩, ih⟩

/-- One walk may follow another. -/
theorem Walk.append {tokens middle remaining : List String} {blocks more : List Block}
    (hwalk : Walk options threshold tokens blocks middle)
    (hmore : Walk options threshold middle more remaining) :
    Walk options threshold tokens (blocks ++ more) remaining := by
  induction hwalk with
  | stop tokens => exact hmore
  | step hfits hwalk ih => exact .step hfits (ih hmore)

/-- A walk over all tokens goes on from where another walk over them stops. -/
theorem Walk.exists_rest {tokens remaining : List String} {blocks all : List Block}
    (hwalk : Walk options threshold tokens blocks remaining)
    (hall : Walk options threshold tokens all []) :
    ∃ more, all = blocks ++ more ∧ Walk options threshold remaining more [] := by
  induction hwalk generalizing all with
  | stop tokens => exact ⟨all, rfl, hall⟩
  | @step block tokens blocks remaining hfits hwalk ih =>
    generalize hwhole : block.tokens ++ tokens = whole at hall
    cases hall with
    | stop =>
      obtain ⟨token, rest, hblock⟩ := block.exists_tokens_eq_cons
      simp [hblock] at hwhole
    | step hfits' hall =>
      obtain ⟨rfl, rfl⟩ := hfits.unique hfits' hwhole
      obtain ⟨more, rfl, hmore⟩ := ih hall
      exact ⟨more, rfl, hmore⟩

/-- The tokens determine the blocks of a walk to their end. -/
theorem Walk.unique {tokens : List String} {blocks blocks' : List Block}
    (hwalk : Walk options threshold tokens blocks [])
    (hwalk' : Walk options threshold tokens blocks' []) : blocks = blocks' := by
  obtain ⟨more, rfl, hmore⟩ := hwalk.exists_rest hwalk'
  have hshort := hmore.length_le
  obtain rfl : more = [] := List.length_eq_zero_iff.mp (by simpa using hshort)
  rw [List.append_nil]

end VersionGate.CommandLine
