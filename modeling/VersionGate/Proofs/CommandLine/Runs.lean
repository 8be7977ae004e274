import VersionGate.Proofs.CommandLine.Passes

/-!
# Runs of a session

A run goes over the remaining tokens block by block. What holds of all tokens is shown
by one induction: at the end of the tokens, in front of a block that fits, and where the
session halts. A run that reaches the end has walked there, and every walk is followed
by a run when its values can be written.
-/

namespace VersionGate.CommandLine

variable {options : List Declaration} {threshold : Int}

/-- Tokens are at their end, begin with a block that fits in front of the others, or make
the session halt. -/
theorem reading_induction (options : List Declaration) (threshold : Int)
    {motive : List String → Prop} (nil : motive [])
    (fits : ∀ (block : Block) (remaining : List String),
      block.Fits options threshold remaining → motive remaining →
      motive (block.tokens ++ remaining))
    (halts : ∀ (token : String) (rest : List String) (fault : Fault),
      Halts options threshold (token :: rest) fault → motive (token :: rest))
    (tokens : List String) : motive tokens := by
  match tokens with
  | [] => exact nil
  | token :: rest =>
    rcases exists_fits_or_halts options threshold token rest with
      ⟨block, remaining, htokens, hfits⟩ | ⟨fault, hhalts⟩
    · -- A block has at least one token, so what remains behind it is shorter.
      have hshorter : remaining.length < (token :: rest).length := by
        obtain ⟨first, others, hblock⟩ := block.exists_tokens_eq_cons
        rw [htokens, hblock]
        simp only [List.cons_append, List.length_cons, List.length_append]
        omega
      rw [htokens]
      have ih := reading_induction options threshold nil fits halts remaining
      exact fits block remaining hfits ih
    · exact halts token rest fault hhalts
termination_by tokens.length
decreasing_by exact hshorter

/-- A walk leads to the end of all tokens or to where a session halts. -/
theorem exists_walk_or_halts (options : List Declaration) (threshold : Int)
    (tokens : List String) :
    (∃ blocks, Walk options threshold tokens blocks []) ∨
    ∃ blocks token rest fault, Walk options threshold tokens blocks (token :: rest) ∧
      Halts options threshold (token :: rest) fault := by
  induction tokens using reading_induction options threshold with
  | nil => exact Or.inl ⟨[], .stop []⟩
  | fits block remaining hfits ih =>
    rcases ih with ⟨blocks, hwalk⟩ | ⟨blocks, token, rest, fault, hwalk, hhalts⟩
    · exact Or.inl ⟨block :: blocks, .step hfits hwalk⟩
    · exact Or.inr ⟨block :: blocks, token, rest, fault, .step hfits hwalk, hhalts⟩
  | halts token rest fault hhalts => exact Or.inr ⟨[], token, rest, fault, .stop _, hhalts⟩

namespace Session

variable {tokens : Array String} {blocks : List Block} {remaining : List String}

/-- The cursor of a session is at the end when no tokens remain. -/
theorem cursor_ofBlocks_lt_iff (options : List Declaration)
    (htokens : tokens.toList = blocks.flatMap Block.tokens ++ remaining) :
    (ofBlocks options blocks).cursor < tokens.size ↔ remaining ≠ [] := by
  have hsize : tokens.size = (ofBlocks options blocks).cursor + remaining.length := by
    rw [← Array.length_toList, htokens, List.length_append, ofBlocks]
  rw [hsize, ← List.length_pos_iff]
  omega

/-- A run ends with its tokens. -/
theorem run_of_end (htokens : tokens.toList = blocks.flatMap Block.tokens) (passes : Nat) :
    (ofBlocks options blocks).run options threshold tokens passes =
      .ok (ofBlocks options blocks) := by
  have htokens' : tokens.toList = blocks.flatMap Block.tokens ++ [] := by simpa using htokens
  have hend := cursor_ofBlocks_lt_iff options htokens'
  cases passes with
  | zero => rfl
  | succ passes => rw [run, if_neg (by simpa using hend)]

/-- A run goes on behind a block that fits. -/
theorem run_of_fits {block : Block} (hnames : (options.map Declaration.name).Nodup)
    (htokens : tokens.toList = blocks.flatMap Block.tokens ++ (block.tokens ++ remaining))
    (hfits : block.Fits options threshold remaining) (passes : Nat) :
    (ofBlocks options blocks).run options threshold tokens (passes + 1) =
      if block.isStorable blocks then
        (ofBlocks options (blocks ++ [block])).run options threshold tokens passes
      else .error .tooLongToWrite := by
  have hinside : (ofBlocks options blocks).cursor < tokens.size := by
    obtain ⟨first, others, hblock⟩ := block.exists_tokens_eq_cons
    rw [cursor_ofBlocks_lt_iff options htokens, hblock]
    simp
  rw [run, if_pos hinside, pass_of_fits hnames htokens hfits]
  cases block.isStorable blocks <;> rfl

/-- A run fails where the session halts. -/
theorem run_of_halts {fault : Fault}
    (htokens : tokens.toList = blocks.flatMap Block.tokens ++ remaining) (hne : remaining ≠ [])
    (hhalts : Halts options threshold remaining fault) (passes : Nat) :
    (ofBlocks options blocks).run options threshold tokens (passes + 1) = .error fault := by
  have hinside := (cursor_ofBlocks_lt_iff options htokens).mpr hne
  rw [run, if_pos hinside, pass_of_halts htokens hne hhalts]

/-- A run to the end of its tokens has walked over them, and all values on the way could be
stored. -/
theorem exists_walk_of_run {session : Session} {passes : Nat}
    (hnames : (options.map Declaration.name).Nodup)
    (htokens : tokens.toList = blocks.flatMap Block.tokens ++ remaining)
    (hrun : (ofBlocks options blocks).run options threshold tokens passes = .ok session)
    (hend : session.cursor = tokens.size) :
    ∃ more, Walk options threshold remaining more [] ∧ AreStorable blocks more ∧
      session = ofBlocks options (blocks ++ more) := by
  -- There are as many passes as tokens, so they are not used up before the end.
  have hstuck {remaining : List String} {blocks : List Block} (hne : remaining ≠ [])
      (htokens : tokens.toList = blocks.flatMap Block.tokens ++ remaining)
      (hrun : (ofBlocks options blocks).run options threshold tokens 0 = .ok session) : False := by
    have hinside := (cursor_ofBlocks_lt_iff options htokens).mpr hne
    rw [run, Except.ok.injEq] at hrun
    rw [hrun, hend] at hinside
    omega
  induction remaining using reading_induction options threshold
    generalizing blocks passes with
  | nil =>
    rw [run_of_end (by simpa using htokens), Except.ok.injEq] at hrun
    exact ⟨[], .stop [], trivial, by rw [List.append_nil, hrun]⟩
  | fits block remaining hfits ih =>
    cases passes with
    | zero =>
      obtain ⟨first, others, hblock⟩ := block.exists_tokens_eq_cons
      exact (hstuck (by simp [hblock]) htokens hrun).elim
    | succ passes =>
      rw [run_of_fits hnames htokens hfits] at hrun
      cases hstorable : block.isStorable blocks with
      | false => simp [hstorable] at hrun
      | true =>
        rw [hstorable, if_pos rfl] at hrun
        have htokens' : tokens.toList = (blocks ++ [block]).flatMap Block.tokens ++ remaining := by
          simpa using htokens
        obtain ⟨more, hwalk, hmore, hsession⟩ := ih htokens' hrun
        exact ⟨block :: more, .step hfits hwalk, ⟨hstorable, hmore⟩, by simpa using hsession⟩
  | halts token rest fault hhalts =>
    cases passes with
    | zero => exact (hstuck (by simp) htokens hrun).elim
    | succ passes => simp [run_of_halts htokens (by simp) hhalts] at hrun

/-- A run follows a walk whose values can be stored. -/
theorem run_of_walk {more : List Block} {tokens' : List String}
    (hnames : (options.map Declaration.name).Nodup)
    (htokens : tokens.toList = blocks.flatMap Block.tokens ++ tokens')
    (hwalk : Walk options threshold tokens' more remaining) (hmore : AreStorable blocks more)
    (passes : Nat) :
    (ofBlocks options blocks).run options threshold tokens (passes + more.length) =
      (ofBlocks options (blocks ++ more)).run options threshold tokens passes := by
  induction hwalk generalizing blocks with
  | stop tokens' => simp
  | @step block tokens' more remaining hfits hwalk ih =>
    have htokens' : tokens.toList = (blocks ++ [block]).flatMap Block.tokens ++ tokens' := by
      simpa using htokens
    rw [List.length_cons, ← Nat.add_assoc, run_of_fits hnames htokens hfits, hmore.1, if_pos rfl,
      ih htokens' hmore.2]
    simp

/-- A run fails on a walk whose values cannot all be stored. -/
theorem run_of_not_areStorable {more : List Block} {tokens' : List String}
    (hnames : (options.map Declaration.name).Nodup)
    (htokens : tokens.toList = blocks.flatMap Block.tokens ++ tokens')
    (hwalk : Walk options threshold tokens' more remaining) (hmore : ¬AreStorable blocks more)
    (passes : Nat) :
    (ofBlocks options blocks).run options threshold tokens (passes + more.length) =
      .error .tooLongToWrite := by
  induction hwalk generalizing blocks with
  | stop tokens' => exact absurd trivial hmore
  | @step block tokens' more remaining hfits hwalk ih =>
    rw [List.length_cons, ← Nat.add_assoc, run_of_fits hnames htokens hfits]
    by_cases hstorable : block.isStorable blocks = true
    · rw [if_pos hstorable]
      have htokens' : tokens.toList = (blocks ++ [block]).flatMap Block.tokens ++ tokens' := by
        simpa using htokens
      exact ih htokens' fun hrest => hmore ⟨hstorable, hrest⟩
    · rw [if_neg hstorable]

end Session

end VersionGate.CommandLine
