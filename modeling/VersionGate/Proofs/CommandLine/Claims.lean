import VersionGate.CommandLine.Session
import VersionGate.Proofs.CommandLine.Findings
import VersionGate.Proofs.CommandLine.Walks

/-!
# Claims of a token

The options make their attempts at a token one after the other until one of them settles
it. Either a block fits there and is claimed, or the session halts with a fault.
-/

namespace VersionGate.CommandLine

namespace Declaration

/-- The complaint about an option that is found at the first of some tokens but cannot
take its value. -/
def complaint? (option : Declaration) (threshold : Int) (tokens : List String) :
    Option Complaint :=
  match option.attemptFirst threshold tokens with
  | .ok attempt => attempt.complaint?
  | .error _ => none

/-- An answer comes from an attempt. -/
theorem exists_attempt_of_answer {option : Declaration} {threshold : Int} {tokens : List String}
    {given : Bool} (hanswer : option.answer threshold tokens = .ok given) :
    ∃ attempt, option.attemptFirst threshold tokens = .ok attempt ∧
      attempt.answer = .ok given := by
  unfold answer at hanswer
  cases hattempt : option.attemptFirst threshold tokens with
  | error fault => simp [hattempt, bind, Except.bind] at hanswer
  | ok attempt => exact ⟨attempt, rfl, by simpa [hattempt, bind, Except.bind] using hanswer⟩

/-- An option that passes over a token does not recognise it and has no complaint, or it
has one since it lacks the value that it cannot do without. -/
theorem complaint?_of_answer_false {option : Declaration} {threshold : Int} {token : String}
    {rest : List String} (hanswer : option.answer threshold (token :: rest) = .ok false) :
    (option.complaint? threshold (token :: rest) = none ∧
      option.firstKeyword? threshold token = none) ∨
    ∃ keyword complaint, option.complaint? threshold (token :: rest) = some complaint ∧
      option.firstKeyword? threshold token = some keyword ∧ option.isFlag = false ∧
      option.valueOptional = false ∧ option.Lacks keyword (token :: rest) complaint := by
  obtain ⟨attempt, hattempt, hfalse⟩ := exists_attempt_of_answer hanswer
  have hcomplaint : option.complaint? threshold (token :: rest) = attempt.complaint? := by
    simp only [complaint?, hattempt]
  rcases (trial_of_attemptFirst hattempt).complaint hfalse with
    ⟨hsilent, token', rest', heq, hkeyword⟩ |
      ⟨token', rest', keyword, complaint, heq, hkeyword, hflag, hoptional, hlacks, hsome⟩
  · obtain ⟨rfl, rfl⟩ := List.cons.inj heq
    exact Or.inl ⟨hcomplaint.trans hsilent, hkeyword⟩
  · obtain ⟨rfl, rfl⟩ := List.cons.inj heq
    exact Or.inr ⟨keyword, complaint, hcomplaint.trans hsome, hkeyword, hflag, hoptional, hlacks⟩

/-- An option that passes over a token without a complaint does not recognise it. -/
theorem not_recognises_of_complaint?_eq_none {option : Declaration} {threshold : Int}
    {token : String} {rest : List String}
    (hanswer : option.answer threshold (token :: rest) = .ok false)
    (hsilent : option.complaint? threshold (token :: rest) = none) :
    ¬option.Recognises threshold token := by
  rw [← firstKeyword?_eq_none_iff]
  rcases complaint?_of_answer_false hanswer with ⟨_, hkeyword⟩ | ⟨_, _, hsome, _⟩
  · exact hkeyword
  · rw [hsilent] at hsome
    cases hsome

end Declaration

/-- A session halts at the first of some tokens: the first option that does not pass over
it lets out a fault, or all pass over it and one of them has a complaint. -/
inductive Halts (options : List Declaration) (threshold : Int) (tokens : List String) :
    Fault → Prop
  | escaped {earlier later : List Declaration} {option : Declaration} {fault : Fault} :
    options = earlier ++ option :: later →
    (∀ other ∈ earlier, other.answer threshold tokens = .ok false) →
    option.answer threshold tokens = .error fault → Halts options threshold tokens fault
  | unbound {complaint : Complaint} :
    (∀ option ∈ options, option.answer threshold tokens = .ok false) →
    options.findSome? (·.complaint? threshold tokens) = some complaint →
    Halts options threshold tokens (.complaint complaint)

variable {options : List Declaration} {threshold : Int}

/-- The first option that does not pass over a token decides what becomes of it; when all
pass over it, the first complaint does. -/
theorem claim_eq {tokens : Array String} {cursor : Nat} {remaining : List String}
    (hremaining : tokens.toList.drop cursor = remaining) (values : Table Value)
    (pending : Option Complaint) :
    claim threshold tokens cursor values options pending =
      match decider? options threshold remaining with
      | some option =>
        option.attemptFirst threshold remaining >>= fun attempt =>
          attempt.answer >>= fun _ => option.store attempt.slot values >>= fun stored =>
            .ok (some ⟨option, attempt.moved, attempt.slot, stored⟩)
      | none =>
        match pending.or (options.findSome? (·.complaint? threshold remaining)) with
        | none => .ok none
        | some complaint => .error (.complaint complaint) := by
  -- The options declared so far have passed over the token and left the pending complaint.
  induction options generalizing pending with
  | nil => cases pending <;> rfl
  | cons option options ih =>
    rw [claim, Declaration.attempt_eq_attemptFirst, hremaining, decider?, List.find?_cons,
      List.findSome?_cons, ← decider?]
    cases hattempt : option.attemptFirst threshold remaining with
    | error fault =>
      have hpasses : option.passes threshold remaining = false := by
        simp [Declaration.passes, Declaration.answer, hattempt, bind, Except.bind]
      simp [hpasses, hattempt, bind, Except.bind]
    | ok attempt =>
      have hcomplaint : option.complaint? threshold remaining = attempt.complaint? := by
        simp [Declaration.complaint?, hattempt]
      cases hanswer : attempt.answer with
      | error fault =>
        have hpasses : option.passes threshold remaining = false := by
          simp [Declaration.passes, Declaration.answer, hattempt, hanswer, bind, Except.bind]
        simp [hpasses, hattempt, hanswer, bind, Except.bind]
      | ok given =>
        have hpasses : option.passes threshold remaining = !given := by
          cases given <;>
            simp [Declaration.passes, Declaration.answer, hattempt, hanswer, bind, Except.bind]
        cases given with
        | true => simp [hpasses, hattempt, hanswer, bind, Except.bind]
        | false =>
          simp only [hpasses, hcomplaint, hanswer, bind, Except.bind, Bool.not_false, Bool.not_true,
            Bool.false_eq_true, if_false, ih]
          cases pending <;> cases attempt.complaint? <;> rfl

/-- No option claims a positional argument. -/
theorem claim_of_positional {tokens : Array String} {cursor : Nat} {token : String}
    {remaining : List String} (hremaining : tokens.toList.drop cursor = token :: remaining)
    (hfits : (Block.positional token).Fits options threshold remaining) (values : Table Value) :
    claim threshold tokens cursor values options none = .ok none := by
  have hdecider : decider? options threshold (token :: remaining) = none :=
    decider?_eq_none_iff.mpr fun option hoption => (hfits option hoption).1
  have hsilent : options.findSome? (·.complaint? threshold (token :: remaining)) = none := by
    rw [List.findSome?_eq_none_iff]
    intro option hoption
    obtain ⟨hanswer, hkeywords⟩ := hfits option hoption
    obtain ⟨attempt, hattempt, hanswer⟩ := Declaration.exists_attempt_of_answer hanswer
    have htrial := Declaration.trial_of_attemptFirst hattempt
    rcases htrial.complaint hanswer with
      ⟨hnone, _⟩ | ⟨token', rest, keyword, complaint, heq, hkeyword, _⟩
    · simpa [Declaration.complaint?, hattempt] using hnone
    · obtain ⟨rfl, rfl⟩ := List.cons.inj heq
      have happlies := List.find?_some hkeyword
      rw [hkeywords keyword (List.mem_of_find?_eq_some hkeyword)] at happlies
      cases happlies
  rw [claim_eq hremaining, hdecider, hsilent]
  rfl

/-- The owner of a token claims it, with the tokens that belong to the manner in which it
is given, and what its slot holds is stored. -/
theorem claim_of_given {tokens : Array String} {cursor : Nat} {option : Declaration}
    {keyword : String} {manner : Manner} {remaining : List String}
    (hremaining : tokens.toList.drop cursor = manner.tokens keyword ++ remaining)
    (hfits : (Block.given option keyword manner).Fits options threshold remaining)
    (values : Table Value) :
    ∃ moved slot, (if moved = 0 then 1 else moved) = (manner.tokens keyword).length ∧
      slot.map Slot.bound = manner.slotContent ∧
      claim threshold tokens cursor values options none =
        option.store slot values >>= fun stored => .ok (some ⟨option, moved, slot, stored⟩) := by
  obtain ⟨howns, hkeyword, hmanner⟩ := hfits
  obtain ⟨attempt, hattempt, hanswer⟩ := Declaration.exists_attempt_of_answer howns.answer_eq
  have htrial := Declaration.trial_of_attemptFirst hattempt
  obtain ⟨keyword', manner', remaining', htokens, hkeyword', hmanner', hmoved, hslot⟩ :=
    htrial.exists_manner hanswer
  have htoken : manner.token keyword = manner'.token keyword' := by
    simp only [Manner.tokens, List.cons_append, List.cons.injEq] at htokens
    exact htokens.1
  rw [htoken, hkeyword', Option.some.injEq] at hkeyword
  subst hkeyword
  obtain ⟨rfl, rfl⟩ := hmanner.unique hmanner' htokens
  refine ⟨attempt.moved, attempt.slot, hmoved, hslot, ?_⟩
  rw [claim_eq hremaining, howns.decider?_eq]
  simp only [hattempt, hanswer, bind, Except.bind]

/-- A session that halts at a token has no claim of it. -/
theorem claim_of_halts {tokens : Array String} {cursor : Nat} {remaining : List String}
    {fault : Fault} (hremaining : tokens.toList.drop cursor = remaining)
    (hhalts : Halts options threshold remaining fault) (values : Table Value) :
    claim threshold tokens cursor values options none = .error fault := by
  rw [claim_eq hremaining]
  cases hhalts with
  | @escaped earlier later option fault hoptions hearlier hanswer =>
    have hdecider : decider? options threshold remaining = some option := by
      rw [decider?_eq_some_iff, hanswer]
      exact ⟨by simp, earlier, later, hoptions, hearlier⟩
    rw [hdecider]
    unfold Declaration.answer at hanswer
    cases hattempt : option.attemptFirst threshold remaining with
    | error fault' =>
      rw [hattempt] at hanswer
      cases hanswer
      simp only [hattempt, bind, Except.bind]
    | ok attempt =>
      rw [hattempt] at hanswer
      simp only [bind, Except.bind] at hanswer
      simp only [hattempt, hanswer, bind, Except.bind]
  | unbound hpasses hcomplaint =>
    rw [decider?_eq_none_iff.mpr hpasses, hcomplaint]
    rfl

/-- At every token either a block fits or the session halts. -/
theorem exists_fits_or_halts (options : List Declaration) (threshold : Int) (token : String)
    (rest : List String) :
    (∃ (block : Block) (remaining : List String), token :: rest = block.tokens ++ remaining ∧
      block.Fits options threshold remaining) ∨
    ∃ fault, Halts options threshold (token :: rest) fault := by
  cases hdecider : decider? options threshold (token :: rest) with
  | some option =>
    obtain ⟨hdecides, earlier, later, hoptions, hearlier⟩ := decider?_eq_some_iff.mp hdecider
    cases hanswer : option.answer threshold (token :: rest) with
    | error fault => exact Or.inr ⟨fault, .escaped hoptions hearlier hanswer⟩
    | ok given =>
      cases given with
      | false => exact absurd hanswer hdecides
      | true =>
        obtain ⟨attempt, hattempt, htrue⟩ := Declaration.exists_attempt_of_answer hanswer
        obtain ⟨keyword, manner, remaining, htokens, hkeyword, hmanner, _⟩ :=
          (Declaration.trial_of_attemptFirst hattempt).exists_manner htrue
        refine Or.inl ⟨.given option keyword manner, remaining, htokens, ?_, hkeyword, hmanner⟩
        rw [← htokens]
        exact ⟨earlier, later, hoptions, hearlier, hanswer⟩
  | none =>
    have hanswers := decider?_eq_none_iff.mp hdecider
    cases hcomplaint : options.findSome? (·.complaint? threshold (token :: rest)) with
    | some complaint => exact Or.inr ⟨_, .unbound hanswers hcomplaint⟩
    | none =>
      refine Or.inl ⟨.positional token, rest, rfl, ?_⟩
      intro option hoption
      have hsilent := List.findSome?_eq_none_iff.mp hcomplaint option hoption
      have hunrecognised :=
        Declaration.not_recognises_of_complaint?_eq_none (hanswers option hoption) hsilent
      exact ⟨hanswers option hoption, by simpa [Declaration.Recognises] using hunrecognised⟩

end VersionGate.CommandLine
