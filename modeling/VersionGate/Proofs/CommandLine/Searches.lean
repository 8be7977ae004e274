import VersionGate.CommandLine.Session
import VersionGate.Proofs.CommandLine.Effects
import VersionGate.Proofs.CommandLine.Storing

/-!
# Searches with one matcher

A search finds the first of some options that counts as given under the cursor. All options
make their attempts with one matcher, whose cursor is put back before each of them, and whether
an attempt has failed is seen from the finding that it leaves in the matcher. A failed attempt
leaves no trace for the later ones: what the search finds is what the options find alone, with
matchers of their own, and it is what a session claims. An attempt that counts as given can still
end a search with a fault, when what is held afterwards has no written form.
-/

namespace VersionGate.CommandLine

/-- The complaint about an option whose call has found it without its value. -/
def Matcher.Call.complaint? (call : Matcher.Call) : Option Complaint :=
  let keyword := call.matcher.last.keyword.getD ""
  match call.matcher.last.outcome with
  | .missingValue => some (.missingValue keyword)
  | .invalidValue =>
    some (.invalidValue keyword call.matcher.last.candidate
      (call.slot.map fun slot => slot.binder.name))
  | _ => none

/-- The values with what is held for an option after it was found, be it written or not. -/
def Declaration.enter (option : Declaration) (slot : Option Slot) (values : Table Value) :
    Table Value :=
  match option.heldAfter slot (option.held values) with
  | .error _ => values
  | .ok held => values.insert option.name held

/-- What a search leaves: the option that it found, if any, the matcher and the values. -/
structure Search where
  answer : Except Fault (Option Declaration)
  matcher : Matcher
  values : Table Value

namespace Matcher

/-- A search that began at a position goes on with the options that are left. A complaint is
pending when one of the options so far was found without its value. -/
def searchFrom (start : Nat) (values : Table Value) (matcher : Matcher)
    (pending : Option Complaint) : List Declaration → Search
  | [] =>
    { answer := match pending with
        | none => .ok none
        | some complaint => .error (.complaint complaint)
      matcher := { matcher with cursor := start }
      values }
  | option :: rest =>
    match option.freshSlot with
    | .error fault => ⟨.error fault, { matcher with cursor := start }, values⟩
    | .ok slot =>
      let call := { matcher with cursor := start }.attempt option.aliases slot option.valueOptional
      match call.answer with
      | .error fault => ⟨.error fault, call.matcher, values⟩
      | .ok true =>
        { answer := (option.store call.slot values).map fun _ => some option
          matcher := call.matcher
          values := option.enter call.slot values }
      | .ok false => searchFrom start values call.matcher (pending.or call.complaint?) rest

/-- The search for the first of some options that counts as given under the cursor. -/
def search (matcher : Matcher) (values : Table Value) (options : List Declaration) : Search :=
  searchFrom matcher.cursor values matcher none options

/-- One matcher serves the same tokens as another, with the same threshold. -/
structure Serves (matcher before : Matcher) : Prop where
  tokens_eq : matcher.tokens = before.tokens
  threshold_eq : matcher.threshold = before.threshold

end Matcher

section Steps

variable {matcher before : Matcher} {spec : String} {slot : Option Slot} {valueOptional : Bool}

/-- A call leaves a matcher that serves the same tokens. -/
theorem Matcher.Serves.attempt (hserves : matcher.Serves before) (spec : String)
    (slot : Option Slot) (valueOptional : Bool) :
    (matcher.attempt spec slot valueOptional).matcher.Serves before := by
  refine ⟨(matcher.tokens_attempt spec slot valueOptional).trans hserves.tokens_eq, ?_⟩
  unfold Matcher.attempt
  cases keywords spec <;> exact hserves.threshold_eq

/-- A matcher that serves the same tokens differs from another in its cursor and its finding
only. -/
theorem Matcher.Serves.eq (hserves : matcher.Serves before) :
    { matcher with cursor := before.cursor } = { before with last := matcher.last } := by
  obtain ⟨tokens, cursor, threshold, last⟩ := matcher
  obtain ⟨rfl, rfl⟩ := hserves
  rfl

/-- What is entered is what is stored. -/
theorem Declaration.enter_of_store {option : Declaration} {values stored : Table Value}
    (hstore : option.store slot values = .ok stored) : option.enter slot values = stored := by
  unfold store at hstore
  unfold enter
  cases hheld : option.heldAfter slot (option.held values) with
  | error fault =>
    rw [hheld] at hstore
    cases hstore
  | ok held =>
    simp only [hheld] at hstore ⊢
    split at hstore
    · exact Except.ok.inj hstore
    · cases hstore

/-- What is held afterwards is stored under the name of the option when it has a written form. -/
theorem Declaration.store_eq {option : Declaration} {values : Table Value} {held : Value}
    (hafter : option.heldAfter slot (option.held values) = .ok held) :
    option.store slot values =
      if held.isWritable then .ok (values.insert option.name held) else .error .tooLongToWrite := by
  rw [store, hafter]

/-- What is held afterwards is entered under the name of the option. -/
theorem Declaration.enter_eq {option : Declaration} {values : Table Value} {held : Value}
    (hafter : option.heldAfter slot (option.held values) = .ok held) :
    option.enter slot values = values.insert option.name held := by
  rw [enter, hafter]

/-- An option with a fresh slot makes the attempt that the matcher makes with this slot, or both
refuse its alias spec. -/
theorem Declaration.attempt_eq_or_refused {option : Declaration} (matcher : Matcher)
    (hslot : option.freshSlot = .ok slot) :
    (∃ complaint,
      option.attempt matcher.threshold matcher.tokens matcher.cursor =
        .error (.complaint complaint) ∧
      matcher.attempt option.aliases slot option.valueOptional =
        ⟨.error (.complaint complaint), matcher, slot⟩) ∨
    ∃ result,
      option.attempt matcher.threshold matcher.tokens matcher.cursor = .ok result ∧
      matcher.attempt option.aliases slot option.valueOptional =
        ⟨result.answer, { matcher with
          cursor := matcher.cursor + result.moved
          last := result.finding }, result.slot⟩ := by
  unfold Declaration.attempt Matcher.attempt
  rw [hslot]
  cases keywords option.aliases with
  | error complaint => exact Or.inl ⟨complaint, rfl, rfl⟩
  | ok found => exact Or.inr ⟨_, rfl, rfl⟩

/-- **The claim of a session is what a search with one matcher finds**: the same option, with
the cursor and the values that the search leaves, or the same fault. -/
theorem claim_eq_searchFrom (hserves : matcher.Serves before) (values : Table Value)
    (pending : Option Complaint) (options : List Declaration) :
    (claim before.threshold before.tokens before.cursor values options pending).map
        (Option.map fun claim => (claim.option, before.cursor + claim.moved, claim.values)) =
      (matcher.searchFrom before.cursor values pending options).answer.map
        (Option.map fun option =>
          (option, (matcher.searchFrom before.cursor values pending options).matcher.cursor,
            (matcher.searchFrom before.cursor values pending options).values)) := by
  induction options generalizing matcher pending with
  | nil => cases pending <;> rfl
  | cons option rest ih =>
    rw [claim, Matcher.searchFrom]
    cases hslot : option.freshSlot with
    | error fault => simp [Declaration.attempt, hslot, bind, Except.bind, Except.map]
    | ok slot =>
      simp only [hserves.eq]
      rcases option.attempt_eq_or_refused { before with last := matcher.last } hslot with
        ⟨complaint, hattempt, hcall⟩ | ⟨result, hattempt, hcall⟩
      · rw [hcall]
        simp only [hattempt, bind, Except.bind, Except.map]
      · have hserves' : Matcher.Serves { before with
            cursor := before.cursor + result.moved
            last := result.finding } before := ⟨rfl, rfl⟩
        have hnext := ih hserves' (pending.or result.complaint?)
        rw [hcall]
        simp only [hattempt, bind, Except.bind]
        cases result.answer with
        | error fault => rfl
        | ok given =>
          cases given with
          | false => exact hnext
          | true =>
            simp only [if_true]
            cases hstore : option.store result.slot values with
            | error fault => rfl
            | ok stored => simp only [Except.map, Option.map_some, option.enter_of_store hstore]

end Steps

/-- The call that an option makes alone: with a fresh slot, of a matcher of its own that stands
at the same place. -/
def Declaration.callAlone (option : Declaration) (before : Matcher) :
    Except Fault Matcher.Call :=
  option.freshSlot.map fun slot =>
    { before with last := {} }.attempt option.aliases slot option.valueOptional

/-- An option declines when it does not count as given in the call that it makes alone. -/
def Declaration.Declines (option : Declaration) (before : Matcher) : Prop :=
  ∃ call, option.callAlone before = .ok call ∧ call.answer = .ok false

/-- An option lets out no fault when it is tried alone: its call has an answer. -/
def Declaration.IsTried (option : Declaration) (before : Matcher) : Prop :=
  ∃ call given, option.callAlone before = .ok call ∧ call.answer = .ok given

/-- What a call says of an option that it has found without its value: the value is missing, or
the binder of the slot has refused the candidate. -/
inductive Matcher.Call.Lacks (call : Matcher.Call) : Complaint → Prop
  | missing {keyword : String} :
    call.matcher.last = ⟨.missingValue, some keyword, none⟩ → call.Lacks (.missingValue keyword)
  | invalid {keyword text : String} {held : Slot} :
    call.matcher.last = ⟨.invalidValue, some keyword, some text⟩ → call.slot = some held →
    call.Lacks (.invalidValue keyword (some text) (some held.binder.name))

/-- What may be held for an option when it is looked for: the count of a flag, the list of what
was collected for a repeatable option, and anything for any other one. -/
def Declaration.MayHold (option : Declaration) (held : Value) : Prop :=
  (option.isFlag = true → ∃ n : Int, held = .int n) ∧
    (option.isFlag = false → option.multiple = true → ∃ items, held = .list items)

/-- What is held for an option before and after it was found, by what the slot of its call
holds: a flag is counted up, a bound value is collected or stored, and nothing changes when no
value is bound. -/
inductive Declaration.Takes (option : Declaration) : Option Slot → Value → Value → Prop
  | counted {n : Int} : option.isFlag = true → option.Takes none (.int n) (.int (n + 1))
  | bare {binder : Binder} {held : Value} : option.Takes (some ⟨binder, none⟩) held held
  | collected {binder : Binder} {value : Value} {items : List Value} : option.multiple = true →
    option.Takes (some ⟨binder, some value⟩) (.list items) (.list (items ++ [value]))
  | stored {binder : Binder} {value held : Value} : option.multiple = false →
    option.Takes (some ⟨binder, some value⟩) held value

/-- Of some options, one is the first that counts as given in the call that it makes alone. It
takes what the slot of this call holds, so that `held'` is held for it among the values
afterwards, and nothing else changes. -/
structure Search.Finds (options : List Declaration) (before : Matcher) (values : Table Value)
    (option : Declaration) (call : Matcher.Call) (held' : Value) (values' : Table Value) :
    Prop where
  exists_earlier : ∃ earlier later, options = earlier ++ option :: later ∧
    ∀ other ∈ earlier, other.Declines before
  callAlone_eq : option.callAlone before = .ok call
  answer_eq : call.answer = .ok true
  takes : ∃ held, values.get? option.name = some held ∧ option.Takes call.slot held held'
  get?_eq : values'.get? option.name = some held'
  get?_of_ne : ∀ name, name ≠ option.name → values'.get? name = values.get? name

/-- What a search leaves, told by the calls that the options make alone. A value without a written
form is held like any other, and then the search ends with a fault. -/
inductive Search.IsIsolated (options : List Declaration) (before : Matcher)
    (values : Table Value) : Search → Prop
  | found {option : Declaration} {call : Matcher.Call} {held' : Value} {values' : Table Value} :
    Search.Finds options before values option call held' values' → held'.isWritable = true →
    IsIsolated options before values ⟨.ok (some option), call.matcher, values'⟩
  | unwritten {option : Declaration} {call : Matcher.Call} {held' : Value}
    {values' : Table Value} :
    Search.Finds options before values option call held' values' → held'.isWritable = false →
    IsIsolated options before values ⟨.error .tooLongToWrite, call.matcher, values'⟩
  | nothing {matcher : Matcher} :
    (∀ option ∈ options, ∃ call, option.callAlone before = .ok call ∧
      call.answer = .ok false ∧ call.matcher.last.outcome = .noMatch) →
    matcher.cursor = before.cursor → IsIsolated options before values ⟨.ok none, matcher, values⟩
  | unbound {earlier later : List Declaration} {option : Declaration} {call : Matcher.Call}
    {complaint : Complaint} {matcher : Matcher} :
    (∀ option ∈ options, option.Declines before) → options = earlier ++ option :: later →
    (∀ other ∈ earlier, ∃ call, other.callAlone before = .ok call ∧
      call.matcher.last.outcome = .noMatch) →
    option.callAlone before = .ok call → call.Lacks complaint →
    matcher.cursor = before.cursor →
    IsIsolated options before values ⟨.error (.complaint complaint), matcher, values⟩

section Alone

variable {matcher before : Matcher} {option : Declaration} {call : Matcher.Call}
  {values : Table Value} {options : List Declaration}

/-- A call that answers does not depend on what the matcher has found before. -/
theorem Matcher.attempt_of_last {spec : String} {slot : Option Slot} {valueOptional given : Bool}
    (hanswer : (before.attempt spec slot valueOptional).answer = .ok given) (last : Finding) :
    { before with last }.attempt spec slot valueOptional =
      before.attempt spec slot valueOptional := by
  unfold attempt at hanswer ⊢
  cases hkeywords : keywords spec with
  | error complaint =>
    rw [hkeywords] at hanswer
    cases hanswer
  | ok found => rfl

/-- The call that an option makes alone is that of its fresh slot. -/
theorem Declaration.exists_freshSlot_of_callAlone (hcall : option.callAlone before = .ok call) :
    ∃ slot, option.freshSlot = .ok slot ∧
      call = { before with last := {} }.attempt option.aliases slot option.valueOptional := by
  unfold callAlone at hcall
  cases hslot : option.freshSlot with
  | error fault =>
    rw [hslot] at hcall
    cases hcall
  | ok slot =>
    rw [hslot] at hcall
    exact ⟨slot, rfl, (Except.ok.inj hcall).symm⟩

/-- An attempt at the tokens from the cursor on is the call that the option makes alone. -/
theorem Declaration.exists_callAlone {attempt : Attempt} {given : Bool}
    (hattempt : option.attemptFirst before.threshold (before.tokens.toList.drop before.cursor) =
      .ok attempt)
    (hanswer : attempt.answer = .ok given) :
    ∃ call, option.callAlone before = .ok call ∧ call.answer = .ok given := by
  rw [← option.attempt_eq_attemptFirst] at hattempt
  cases hslot : option.freshSlot with
  | error fault =>
    rw [Declaration.attempt, hslot] at hattempt
    cases hattempt
  | ok slot =>
    rcases option.attempt_eq_or_refused { before with last := {} } hslot with
      ⟨complaint, hrefused, _⟩ | ⟨result, hresult, hcall⟩
    · rw [hattempt] at hrefused
      cases hrefused
    · obtain rfl := Except.ok.inj (hattempt.symm.trans hresult)
      exact ⟨_, by rw [callAlone, hslot, Except.map, hcall], hanswer⟩

/-- With the one matcher of the search an option makes the call that it makes alone. -/
theorem Matcher.Serves.exists_attempt_eq {given : Bool} (hserves : matcher.Serves before)
    (hcall : option.callAlone before = .ok call) (hanswer : call.answer = .ok given) :
    ∃ slot, option.freshSlot = .ok slot ∧
      { matcher with cursor := before.cursor }.attempt option.aliases slot option.valueOptional =
        call := by
  obtain ⟨slot, hslot, rfl⟩ := Declaration.exists_freshSlot_of_callAlone hcall
  refine ⟨slot, hslot, ?_⟩
  rw [hserves.eq]
  exact Matcher.attempt_of_last hanswer matcher.last

/-- The matcher that a call leaves serves the same tokens. -/
theorem Declaration.serves_of_callAlone (hcall : option.callAlone before = .ok call) :
    call.matcher.Serves before := by
  obtain ⟨slot, _, rfl⟩ := Declaration.exists_freshSlot_of_callAlone hcall
  have hserves : Matcher.Serves { before with last := {} } before := ⟨rfl, rfl⟩
  exact hserves.attempt option.aliases slot option.valueOptional

/-- The complaint of the call that an option makes alone. -/
def Declaration.complaintAlone? (option : Declaration) (before : Matcher) : Option Complaint :=
  match option.callAlone before with
  | .error _ => none
  | .ok call => call.complaint?

/-- Options that decline leave no trace in a search but the first of their complaints. -/
theorem Matcher.Serves.exists_searchFrom_append {earlier : List Declaration}
    (hserves : matcher.Serves before) (hearlier : ∀ other ∈ earlier, other.Declines before)
    (values : Table Value) (pending : Option Complaint) (rest : List Declaration) :
    ∃ matcher' : Matcher, matcher'.Serves before ∧
      matcher.searchFrom before.cursor values pending (earlier ++ rest) =
        matcher'.searchFrom before.cursor values
          (pending.or (earlier.findSome? (·.complaintAlone? before))) rest := by
  induction earlier generalizing matcher pending with
  | nil => exact ⟨matcher, hserves, by simp⟩
  | cons option earlier ih =>
    rw [List.forall_mem_cons] at hearlier
    obtain ⟨⟨call, hcall, hfalse⟩, hearlier⟩ := hearlier
    obtain ⟨slot, hslot, hattempt⟩ := hserves.exists_attempt_eq hcall hfalse
    have hcomplaint : option.complaintAlone? before = call.complaint? := by
      simp only [Declaration.complaintAlone?, hcall]
    obtain ⟨matcher', hserves', hsearch⟩ := ih (Declaration.serves_of_callAlone hcall) hearlier
      (pending.or call.complaint?)
    refine ⟨matcher', hserves', ?_⟩
    rw [List.cons_append, searchFrom]
    simp only [hslot, hattempt, hfalse, hsearch, List.findSome?_cons, hcomplaint]
    cases pending <;> cases call.complaint? <;> rfl

/-- The first option that counts as given ends a search. -/
theorem Matcher.Serves.searchFrom_cons (hserves : matcher.Serves before)
    (hcall : option.callAlone before = .ok call) (htrue : call.answer = .ok true)
    (values : Table Value) (pending : Option Complaint) (later : List Declaration) :
    matcher.searchFrom before.cursor values pending (option :: later) =
      ⟨(option.store call.slot values).map fun _ => some option, call.matcher,
        option.enter call.slot values⟩ := by
  obtain ⟨slot, hslot, hattempt⟩ := hserves.exists_attempt_eq hcall htrue
  rw [searchFrom]
  simp only [hslot, hattempt, htrue]

/-- An option that declines has found nothing, or it has a complaint since it was found without
its value. -/
theorem Declaration.cases_of_declines (hcall : option.callAlone before = .ok call)
    (hfalse : call.answer = .ok false) :
    (call.matcher.last.outcome = .noMatch ∧ call.complaint? = none) ∨
      ∃ complaint, call.Lacks complaint ∧ call.complaint? = some complaint := by
  obtain ⟨slot, _, rfl⟩ := Declaration.exists_freshSlot_of_callAlone hcall
  obtain ⟨found, result, hcourse, hattempt⟩ := Matcher.exists_course_of_answer _ _ _ _ hfalse
  rw [hattempt] at hfalse ⊢
  cases hcourse with
  | ended => exact Or.inl ⟨rfl, rfl⟩
  | unsuited => exact Or.inl ⟨rfl, rfl⟩
  | flag => cases hfalse
  | missing => exact Or.inr ⟨_, .missing rfl, rfl⟩
  | bound => cases hfalse
  | refused => exact Or.inr ⟨_, .invalid rfl rfl, rfl⟩

/-- An option that is found takes what the slot of its call holds. -/
theorem Declaration.exists_takes {held : Value} (hcall : option.callAlone before = .ok call)
    (hheld : option.MayHold held) :
    ∃ held', option.heldAfter call.slot held = .ok held' ∧ option.Takes call.slot held held' := by
  obtain ⟨slot, hslot, rfl⟩ := Declaration.exists_freshSlot_of_callAlone hcall
  have hcases := Matcher.slot_attempt { before with last := {} } option.aliases slot
    option.valueOptional
  rcases option.freshSlot_eq hslot with ⟨hflag, rfl⟩ | ⟨hflag, binder, _, rfl⟩
  · rcases hcases with ⟨_, _, _, hsome, _⟩ | ⟨hkept, _⟩
    · cases hsome
    · obtain ⟨n, rfl⟩ := hheld.1 hflag
      rw [hkept]
      exact ⟨_, rfl, .counted hflag⟩
  · rcases hcases with ⟨held', text, value, hsome, _, hbound, _⟩ | ⟨hkept, _⟩
    · obtain rfl := Option.some.inj hsome
      rw [hbound]
      cases hmultiple : option.multiple with
      | true =>
        obtain ⟨items, rfl⟩ := hheld.2 hflag hmultiple
        exact ⟨_, by simp only [heldAfter, hmultiple, if_true, Value.append], .collected hmultiple⟩
      | false =>
        exact ⟨_, by simp only [heldAfter, hmultiple, Bool.false_eq_true, if_false],
          .stored hmultiple⟩
    · rw [hkept]
      exact ⟨_, rfl, .bare⟩

/-- A fault of the claim is the fault of the search. -/
theorem Matcher.answer_search_of_claim {fault : Fault}
    (hclaim : claim matcher.threshold matcher.tokens matcher.cursor values options none =
      .error fault) :
    (matcher.search values options).answer = .error fault := by
  have hserves : matcher.Serves matcher := ⟨rfl, rfl⟩
  have hsearch := claim_eq_searchFrom hserves values none options
  rw [hclaim] at hsearch
  unfold search
  cases hanswer : (matcher.searchFrom matcher.cursor values none options).answer with
  | ok found =>
    rw [hanswer] at hsearch
    cases hsearch
  | error fault' =>
    rw [hanswer] at hsearch
    exact congrArg _ (Except.error.inj hsearch).symm

/-- A search comes to the first option that counts as given alone. -/
theorem Matcher.search_of_found {earlier later : List Declaration} {held : Value}
    (hearlier : ∀ other ∈ earlier, other.Declines before)
    (hcall : option.callAlone before = .ok call) (htrue : call.answer = .ok true)
    (hget : values.get? option.name = some held) (hmay : option.MayHold held) :
    Search.IsIsolated (earlier ++ option :: later) before values
      (before.search values (earlier ++ option :: later)) := by
  obtain ⟨held', hafter, htakes⟩ := option.exists_takes hcall hmay
  have hbefore : option.held values = held := by rw [Declaration.held, hget, Option.getD_some]
  rw [← hbefore] at hafter
  have hfinds : Search.Finds (earlier ++ option :: later) before values option call held'
      (values.insert option.name held') :=
    ⟨⟨earlier, later, rfl, hearlier⟩, hcall, htrue, ⟨held, hget, htakes⟩,
      values.get?_insert_self option.name held',
      fun name hname => by rw [Table.get?_insert, if_neg hname]⟩
  have hserves : before.Serves before := ⟨rfl, rfl⟩
  obtain ⟨matcher, hserves', hsearch⟩ :=
    hserves.exists_searchFrom_append hearlier values none (option :: later)
  rw [search, hsearch, hserves'.searchFrom_cons hcall htrue, option.enter_eq hafter,
    option.store_eq hafter]
  cases hwritable : held'.isWritable with
  | true => exact .found hfinds hwritable
  | false => exact .unwritten hfinds hwritable

/-- A search through options that all decline has found nothing or has the first of their
complaints. -/
theorem Matcher.search_of_declines (hall : ∀ option ∈ options, option.Declines before) :
    Search.IsIsolated options before values (before.search values options) := by
  have hserves : before.Serves before := ⟨rfl, rfl⟩
  obtain ⟨matcher, _, hsearch⟩ := hserves.exists_searchFrom_append hall values none []
  -- An option without a complaint has found nothing.
  have hsilent {other : Declaration} (hother : other ∈ options)
      (hnone : other.complaintAlone? before = none) :
      ∃ call, other.callAlone before = .ok call ∧ call.answer = .ok false ∧
        call.matcher.last.outcome = .noMatch := by
    obtain ⟨call, hcall, hfalse⟩ := hall other hother
    simp only [Declaration.complaintAlone?, hcall] at hnone
    rcases Declaration.cases_of_declines hcall hfalse with ⟨hnothing, _⟩ | ⟨complaint, _, hsome⟩
    · exact ⟨call, hcall, hfalse, hnothing⟩
    · rw [hnone] at hsome
      cases hsome
  rw [List.append_nil, Option.none_or] at hsearch
  rw [search, hsearch]
  cases hfirst : options.findSome? (·.complaintAlone? before) with
  | none =>
    rw [List.findSome?_eq_none_iff] at hfirst
    exact .nothing (fun other hother => hsilent hother (hfirst other hother)) rfl
  | some complaint =>
    obtain ⟨earlier, option, later, rfl, hcomplaint, hearlier⟩ :=
      List.findSome?_eq_some_iff.mp hfirst
    obtain ⟨call, hcall, hfalse⟩ := hall option (by simp)
    simp only [Declaration.complaintAlone?, hcall] at hcomplaint
    rcases Declaration.cases_of_declines hcall hfalse with ⟨_, hnone⟩ | ⟨complaint', hlacks, hsome⟩
    · rw [hnone] at hcomplaint
      cases hcomplaint
    · obtain rfl : complaint' = complaint := Option.some.inj (hsome.symm.trans hcomplaint)
      refine .unbound hall rfl (fun other hother => ?_) hcall hlacks rfl
      obtain ⟨call', hcall', _, hnothing⟩ := hsilent (by simp [hother]) (hearlier other hother)
      exact ⟨call', hcall', hnothing⟩

/-- **Failed attempts leave no trace in a search.** When no option lets out a fault alone, a
search with one matcher comes to the first one that counts as given alone, with the cursor that
its call leaves; of the values only the one held for it changes, by what its slot holds. The
search finds this option when what is held for it then has a written form, and otherwise ends with
the fault of writing it. When none counts as given, cursor and values are as before, and the
search finds nothing or has the complaint of the first option that was found without its value. A
session claims what the search finds. -/
theorem Matcher.search_isIsolated (matcher : Matcher)
    (hheld : ∀ option ∈ options, ∃ held, values.get? option.name = some held ∧
      option.MayHold held)
    (htried : ∀ option ∈ options, option.IsTried matcher) :
    Search.IsIsolated options matcher values (matcher.search values options) ∧
      (claim matcher.threshold matcher.tokens matcher.cursor values options none).map
          (Option.map fun claim => (claim.option, matcher.cursor + claim.moved, claim.values)) =
        (matcher.search values options).answer.map
          (Option.map fun option => (option, (matcher.search values options).matcher.cursor,
            (matcher.search values options).values)) := by
  refine ⟨?_, claim_eq_searchFrom ⟨rfl, rfl⟩ values none options⟩
  classical
  cases hfind : options.find? fun option => decide (¬option.Declines matcher) with
  | none => exact matcher.search_of_declines (by simpa using hfind)
  | some option =>
    obtain ⟨hnot, earlier, later, rfl, hearlier⟩ := List.find?_eq_some_iff_append.mp hfind
    obtain ⟨call, given, hcall, hanswer⟩ := htried option (by simp)
    obtain ⟨held, hget, hmay⟩ := hheld option (by simp)
    cases given with
    | false => exact absurd ⟨call, hcall, hanswer⟩ (of_decide_eq_true hnot)
    | true => exact matcher.search_of_found (by simpa using hearlier) hcall hanswer hget hmay

end Alone

/-- Two options of one keyword, of which the first takes integers only. -/
def overlappingOptions : List Declaration :=
  [{ name := "lines", aliases := "-n", target := .integer },
    { name := "name", aliases := "-n --name", target := .text }]

/-- A text that is no integer is found as the value of the later option. -/
theorem Matcher.search_isIsolated_overlapping :
    (∀ option ∈ overlappingOptions, ∃ held,
      (initialValues overlappingOptions).get? option.name = some held ∧ option.MayHold held) ∧
    (∀ option ∈ overlappingOptions,
      option.IsTried ⟨#["-n", "x"], 0, 2, {}⟩) ∧
    Search.IsIsolated overlappingOptions ⟨#["-n", "x"], 0, 2, {}⟩
      (initialValues overlappingOptions)
      ⟨.ok (some { name := "name", aliases := "-n --name", target := .text }),
        ⟨#["-n", "x"], 2, 2, ⟨.value, some "-n", some "x"⟩⟩,
        ⟨[("lines", .none), ("name", .text "x")]⟩⟩ := by
  have hheld : ∀ option ∈ overlappingOptions, ∃ held,
      (initialValues overlappingOptions).get? option.name = some held ∧
        option.MayHold held := by
    rw [overlappingOptions, List.forall_mem_cons, List.forall_mem_singleton]
    exact ⟨⟨_, rfl, (fun hflag => by cases hflag), fun _ hmultiple => by cases hmultiple⟩,
      ⟨_, rfl, (fun hflag => by cases hflag), fun _ hmultiple => by cases hmultiple⟩⟩
  have htried : ∀ option ∈ overlappingOptions,
      option.IsTried ⟨#["-n", "x"], 0, 2, {}⟩ := by
    rw [overlappingOptions, List.forall_mem_cons, List.forall_mem_singleton]
    exact ⟨⟨_, false, rfl, rfl⟩, ⟨_, true, rfl, rfl⟩⟩
  exact ⟨hheld, htried, (Matcher.search_isIsolated ⟨#["-n", "x"], 0, 2, {}⟩ hheld htried).1⟩

/-- The long text is given to the option when this is tried alone, but its power of ten has no
written form and the search ends with a fault. -/
theorem Matcher.search_power_fails :
    (∃ held, (initialValues [powerOption]).get? powerOption.name = some held ∧
      powerOption.MayHold held) ∧
    (∃ call, powerOption.callAlone ⟨#["-p", longText], 0, 2, {}⟩ = .ok call ∧
      call.answer = .ok true) ∧
    (Matcher.search ⟨#["-p", longText], 0, 2, {}⟩ (initialValues [powerOption])
      [powerOption]).answer = .error .tooLongToWrite := by
  have hfits := fits_powerBlock longText []
  obtain ⟨attempt, hattempt, hanswer⟩ := Declaration.exists_attempt_of_answer hfits.1.answer_eq
  refine ⟨⟨_, rfl, (fun hflag => by cases hflag), fun _ hmultiple => by cases hmultiple⟩,
    Declaration.exists_callAlone hattempt hanswer, Matcher.answer_search_of_claim ?_⟩
  have htokens : (#["-p", longText] : Array String).toList.drop 0 =
      (Manner.separate longText (.int (10 ^ longText.length))).tokens "-p" ++ [] := rfl
  obtain ⟨moved, slot, _, hslot, hclaim⟩ :=
    claim_of_given htokens hfits (initialValues [powerOption])
  obtain ⟨⟨binder, bound⟩, rfl, hbound⟩ := Option.map_eq_some_iff.mp hslot
  obtain rfl : bound = some (.int (10 ^ longText.length)) := hbound
  have hafter : powerOption.heldAfter (some ⟨binder, some (.int (10 ^ longText.length))⟩)
      (powerOption.held (initialValues [powerOption])) = .ok (.int (10 ^ longText.length)) := rfl
  rw [hclaim, Declaration.store_eq hafter,
    Value.isWritable_ten_pow (Nat.le_of_eq length_longText.symm)]
  rfl

end VersionGate.CommandLine
