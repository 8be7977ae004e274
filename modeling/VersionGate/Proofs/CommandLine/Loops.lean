import VersionGate.Proofs.CommandLine.Searches

/-!
# The loop of a session

A session goes over its tokens with one matcher. A pass searches for an option at the cursor; it
keeps the token there when none is found, and steps on when the search has left the cursor in
its place. Here every look at a token can go wrong, and so can the look at the slot of an option
that was found without its value. None of them ever does: each pass moves the cursor by one or
two tokens and not past the end, so that the loop comes to the end of its tokens unless a fault
is let out before.
-/

namespace VersionGate.CommandLine

/-- What can stop a loop in front of the end of its tokens. -/
inductive Stop where
  /-- A token was looked for behind the end. -/
  | outOfRange (index : Nat)
  /-- The binder was looked for of an option without a slot. -/
  | slotless
  | fault (fault : Fault)

/-- The token at an index, which has to be there. -/
def readToken (tokens : Array String) (index : Nat) : Except Stop String :=
  match tokens[index]? with
  | none => .error (.outOfRange index)
  | some token => .ok token

/-- An attempt at a position that compares it with the end before it reads a token. -/
def Attempt.reading (threshold : Int) (keywords : List String) (slot : Option Slot)
    (valueOptional : Bool) (tokens : Array String) (cursor : Nat) : Except Stop Attempt :=
  if tokens.size ≤ cursor then .ok (.nothing slot)
  else do
    let token ← readToken tokens cursor
    match keywords.find? (applies threshold slot.isSome token), slot with
    | none, slot => .ok (.nothing slot)
    | some keyword, none => .ok (.flag keyword)
    | some keyword, some slot =>
      if keyword.length < token.length then
        .ok (.withValue keyword (attachedValue keyword token) slot valueOptional 0 0)
      else if tokens.size ≤ cursor + 1 then .ok (.withoutValue keyword slot valueOptional)
      else do
        let candidate ← readToken tokens (cursor + 1)
        .ok (.withValue keyword candidate slot valueOptional 2 1)

namespace Matcher

/-- A call of a matcher whose attempt reads its tokens. -/
def attemptReading (matcher : Matcher) (spec : String) (slot : Option Slot)
    (valueOptional : Bool) : Except Stop Call :=
  match keywords spec with
  | .error complaint => .ok ⟨.error (.complaint complaint), matcher, slot⟩
  | .ok found => do
    let result ← Attempt.reading matcher.threshold found slot valueOptional matcher.tokens
      matcher.cursor
    .ok {
      answer := result.answer
      matcher := { matcher with cursor := matcher.cursor + result.moved, last := result.finding }
      slot := result.slot }

/-- The complaint about an option that was found without its value names the binder of its slot,
which has to be there. -/
def Call.complaintReading (call : Call) : Except Stop (Option Complaint) :=
  if call.matcher.last.outcome = .missingValue ∨ call.matcher.last.outcome = .invalidValue then
    match call.slot with
    | none => .error .slotless
    | some _ => .ok call.complaint?
  else .ok none

/-- A search that reads its tokens; the first complaint stays the pending one. -/
def searchReading (start : Nat) (values : Table Value) (matcher : Matcher)
    (pending : Option Complaint) :
    List Declaration → Except Stop (Option Declaration × Matcher × Table Value)
  | [] =>
    match pending with
    | none => .ok (none, { matcher with cursor := start }, values)
    | some complaint => .error (.fault (.complaint complaint))
  | option :: rest => do
    let slot ← option.freshSlot.mapError .fault
    let call ← { matcher with cursor := start }.attemptReading option.aliases slot
      option.valueOptional
    if ← call.answer.mapError .fault then
      let stored ← (option.store call.slot values).mapError .fault
      .ok (some option, call.matcher, stored)
    else
      let pending ← match pending with
        | some complaint => .ok (some complaint)
        | none => call.complaintReading
      searchReading start values call.matcher pending rest

/-- The matcher with its cursor one token further. -/
def stepOn (matcher : Matcher) : Matcher :=
  { matcher with cursor := matcher.cursor + 1 }

end Matcher

/-- A loop over the tokens of a matcher, between two passes. -/
structure Loop where
  matcher : Matcher
  values : Table Value
  positionals : Array String := #[]
  seen : List String := []

namespace Loop

/-- The loop of a session at its start. -/
def start (options : List Declaration) (threshold : Int) (arguments : List String) : Loop :=
  { matcher := { tokens := (cutAtSeparator arguments).1.toArray, threshold }
    values := initialValues options }

/-- One pass of a loop. -/
def pass (options : List Declaration) (loop : Loop) : Except Stop Loop := do
  let start := loop.matcher.cursor
  let (found, matcher, values) ← loop.matcher.searchReading start loop.values none options
  match found with
  | none =>
    let token ← readToken matcher.tokens start
    .ok { loop with matcher := matcher.stepOn, values, positionals := loop.positionals.push token }
  | some option =>
    let matcher := if matcher.cursor = start then matcher.stepOn else matcher
    .ok { loop with matcher, values, seen := loop.seen.insert option.name }

/-- A loop makes passes as long as its cursor is in front of the end. -/
inductive Ends (options : List Declaration) : Loop → Nat → Except Stop Loop → Prop
  | atEnd {loop : Loop} : ¬loop.matcher.cursor < loop.matcher.tokens.size →
    loop.Ends options 0 (.ok loop)
  | stopped {loop : Loop} {stop : Stop} : loop.matcher.cursor < loop.matcher.tokens.size →
    loop.pass options = .error stop → loop.Ends options 1 (.error stop)
  | passed {loop next : Loop} {passes : Nat} {result : Except Stop Loop} :
    loop.matcher.cursor < loop.matcher.tokens.size → loop.pass options = .ok next →
    next.Ends options passes result → loop.Ends options (passes + 1) result

/-- What a pass of a loop comes to: the cursor has moved by one or two tokens and not past the
end, or a fault was let out. -/
inductive Advances (before : Loop) : Except Stop Loop → Prop
  | moved {after : Loop} :
    after.matcher.cursor = before.matcher.cursor + 1 ∨
      after.matcher.cursor = before.matcher.cursor + 2 →
    after.matcher.cursor ≤ before.matcher.tokens.size →
    after.matcher.tokens = before.matcher.tokens →
    after.matcher.threshold = before.matcher.threshold → before.Advances (.ok after)
  | fault {fault : Fault} : before.Advances (.error (.fault fault))

/-- The session after a loop, whose cursor is not looked at any more. -/
def finish (options : List Declaration) (after : List String) (loop : Loop) :
    Except Fault Parsed := do
  requireAll options loop.seen
  .ok ⟨loop.values, loop.positionals.toList ++ after, loop.seen⟩

/-- What a session comes to by the end of its loop: the loop has stopped at the end of the
tokens, or it has let out the fault that the session lets out. -/
inductive Decides (options : List Declaration) (threshold : Int) (arguments : List String) :
    Except Stop Loop → Prop
  | done {last : Loop} :
    last.matcher.cursor = (cutAtSeparator arguments).1.length →
    parse options threshold arguments = last.finish options (cutAtSeparator arguments).2 →
    Decides options threshold arguments (.ok last)
  | fault {fault : Fault} : parse options threshold arguments = .error fault →
    Decides options threshold arguments (.error (.fault fault))

end Loop

section Reading

variable {matcher before : Matcher} {spec : String} {slot : Option Slot} {valueOptional : Bool}

/-- A token in front of the end can be read. -/
theorem readToken_of_lt {tokens : Array String} {index : Nat} (hinside : index < tokens.size) :
    readToken tokens index = .ok tokens[index] := by
  rw [readToken, Array.getElem?_eq_getElem hinside]

/-- An attempt reads no token behind the end. -/
theorem Attempt.reading_eq (threshold : Int) (keywords : List String) (slot : Option Slot)
    (valueOptional : Bool) (tokens : Array String) (cursor : Nat) :
    reading threshold keywords slot valueOptional tokens cursor =
      .ok (atCursor threshold keywords slot valueOptional tokens cursor) := by
  unfold reading atCursor
  split
  · next hend => rw [Array.getElem?_eq_none hend]
  · next hinside =>
    rw [Nat.not_le] at hinside
    rw [readToken_of_lt hinside, Array.getElem?_eq_getElem hinside]
    simp only [bind, Except.bind, atToken]
    cases keywords.find? (applies threshold slot.isSome tokens[cursor]) with
    | none => rfl
    | some keyword =>
      cases slot with
      | none => rfl
      | some slot =>
        simp only [withKeyword]
        split
        · rfl
        · split
          · next hend => rw [Array.getElem?_eq_none hend]
          · next hnext =>
            rw [Nat.not_le] at hnext
            rw [readToken_of_lt hnext, Array.getElem?_eq_getElem hnext]

/-- A call that reads its tokens is a call. -/
theorem Matcher.attemptReading_eq (matcher : Matcher) (spec : String) (slot : Option Slot)
    (valueOptional : Bool) :
    matcher.attemptReading spec slot valueOptional =
      .ok (matcher.attempt spec slot valueOptional) := by
  unfold attemptReading attempt
  cases keywords spec with
  | error complaint => rfl
  | ok found => simp only [Attempt.reading_eq, bind, Except.bind]

/-- An option that was found without its value has a slot. -/
theorem Matcher.complaintReading_eq {given : Bool}
    (hanswer : (matcher.attempt spec slot valueOptional).answer = .ok given) :
    (matcher.attempt spec slot valueOptional).complaintReading =
      .ok (matcher.attempt spec slot valueOptional).complaint? := by
  obtain ⟨found, result, hcourse, hattempt⟩ := matcher.exists_course_of_answer _ _ _ hanswer
  rw [hattempt]
  cases hcourse <;> rfl

/-- A search that reads its tokens is a search. -/
theorem Matcher.searchReading_eq (start : Nat) (values : Table Value) (matcher : Matcher)
    (pending : Option Complaint) (options : List Declaration) :
    matcher.searchReading start values pending options =
      match (matcher.searchFrom start values pending options).answer with
      | .error fault => .error (.fault fault)
      | .ok found => .ok (found, (matcher.searchFrom start values pending options).matcher,
          (matcher.searchFrom start values pending options).values) := by
  induction options generalizing matcher pending with
  | nil => cases pending <;> rfl
  | cons option rest ih =>
    rw [searchReading, searchFrom]
    cases option.freshSlot with
    | error fault => rfl
    | ok slot =>
      simp only [Except.mapError, bind, Except.bind, attemptReading_eq]
      cases hanswer : ({ matcher with cursor := start }.attempt option.aliases slot
        option.valueOptional).answer with
      | error fault => rfl
      | ok given =>
        cases given with
        | true =>
          simp only [if_true]
          cases hstore : option.store _ values with
          | error fault => rfl
          | ok stored => simp only [Except.map, option.enter_of_store hstore]
        | false =>
          simp only [Bool.false_eq_true, if_false]
          cases pending with
          | none => simp only [complaintReading_eq hanswer, ih, Option.none_or]
          | some complaint => simp only [ih, Option.some_or]

/-- A call that answers moves the cursor by at most two tokens, and not past the end. -/
theorem Matcher.exists_moved_of_answer {given : Bool}
    (hinside : matcher.cursor ≤ matcher.tokens.size)
    (hanswer : (matcher.attempt spec slot valueOptional).answer = .ok given) :
    ∃ moved, (matcher.attempt spec slot valueOptional).matcher.cursor = matcher.cursor + moved ∧
      moved ≤ 2 ∧ matcher.cursor + moved ≤ matcher.tokens.size := by
  obtain ⟨found, result, hcourse, hattempt⟩ := matcher.exists_course_of_answer _ _ _ hanswer
  have hmoved := hcourse.moved_iff.2.2
  exact ⟨result.moved, by rw [hattempt], by omega, hcourse.moved_le hinside⟩

/-- A search that answers leaves the cursor and the values as they were when it has found nothing;
otherwise the cursor is at most two tokens further, but not past the end. -/
theorem Matcher.Serves.exists_moved_of_searchFrom {found : Option Declaration}
    {values : Table Value} {pending : Option Complaint} {options : List Declaration}
    (hserves : matcher.Serves before) (hinside : before.cursor ≤ before.tokens.size)
    (hanswer : (matcher.searchFrom before.cursor values pending options).answer = .ok found) :
    (matcher.searchFrom before.cursor values pending options).matcher.Serves before ∧
      ∃ moved, (matcher.searchFrom before.cursor values pending options).matcher.cursor =
          before.cursor + moved ∧
        moved ≤ 2 ∧ before.cursor + moved ≤ before.tokens.size ∧ (found = none → moved = 0 ∧
          (matcher.searchFrom before.cursor values pending options).values = values) := by
  induction options generalizing matcher pending with
  | nil =>
    exact ⟨⟨hserves.tokens_eq, hserves.threshold_eq⟩, 0, rfl, by omega, hinside,
      fun _ => ⟨rfl, rfl⟩⟩
  | cons option rest ih =>
    rw [searchFrom] at hanswer ⊢
    cases hslot : option.freshSlot with
    | error fault =>
      rw [hslot] at hanswer
      cases hanswer
    | ok slot =>
      have hstart : Matcher.Serves { matcher with cursor := before.cursor } before :=
        ⟨hserves.tokens_eq, hserves.threshold_eq⟩
      have hleft := hstart.attempt option.aliases slot option.valueOptional
      simp only [hslot] at hanswer ⊢
      cases hcall : ({ matcher with cursor := before.cursor }.attempt option.aliases slot
        option.valueOptional).answer with
      | error fault =>
        rw [hcall] at hanswer
        cases hanswer
      | ok given =>
        simp only [hcall] at hanswer ⊢
        cases given with
        | false => exact ih hleft hanswer
        | true =>
          cases hstore : option.store _ values with
          | error fault =>
            rw [hstore] at hanswer
            cases hanswer
          | ok stored =>
            rw [hstore] at hanswer
            obtain rfl : some option = found := Except.ok.inj hanswer
            obtain ⟨moved, hcursor, htwo, hsize⟩ := Matcher.exists_moved_of_answer
              (by rw [hserves.tokens_eq]; exact hinside) hcall
            rw [hserves.tokens_eq] at hsize
            exact ⟨hleft, moved, hcursor, htwo, hsize, fun hnone => by cases hnone⟩

/-- A session claims what the search finds, or lets out the fault of the search. -/
theorem claim_of_searchFrom (hserves : matcher.Serves before) (values : Table Value)
    (pending : Option Complaint) (options : List Declaration) :
    let made := claim before.threshold before.tokens before.cursor values options pending
    let search := matcher.searchFrom before.cursor values pending options
    match search.answer with
    | .error fault => made = .error fault
    | .ok none => made = .ok none
    | .ok (some option) => ∃ moved slot, made = .ok (some ⟨option, moved, slot, search.values⟩) ∧
        search.matcher.cursor = before.cursor + moved := by
  intro made search
  have hclaim : made.map (Option.map fun claim =>
      (claim.option, before.cursor + claim.moved, claim.values)) =
    search.answer.map (Option.map fun option =>
      (option, search.matcher.cursor, search.values)) :=
    claim_eq_searchFrom hserves values pending options
  generalize made = made at hclaim ⊢
  generalize search = search at hclaim ⊢
  obtain ⟨answer, left, values'⟩ := search
  cases answer with
  | error fault =>
    cases made with
    | error fault' =>
      obtain rfl : fault' = fault := Except.error.inj hclaim
      rfl
    | ok made => cases hclaim
  | ok found =>
    cases made with
    | error fault => cases hclaim
    | ok made =>
      have hmade := Except.ok.inj hclaim
      cases found with
      | none => rw [Option.map_none, Option.map_eq_none_iff] at hmade; rw [hmade]
      | some option =>
        obtain ⟨⟨option', moved, slot, stored⟩, rfl, hfields⟩ := Option.map_eq_some_iff.mp hmade
        obtain ⟨rfl, hcursor, rfl⟩ : option' = option ∧ before.cursor + moved = left.cursor ∧
            stored = values' := by simpa using hfields
        exact ⟨moved, slot, rfl, hcursor.symm⟩

end Reading

namespace Loop

variable {options : List Declaration} {loop : Loop}

/-- The session that a loop stands for. -/
def session (loop : Loop) : Session :=
  ⟨loop.matcher.cursor, loop.values, loop.positionals, loop.seen⟩

/-- A pass of a loop moves on and is a pass of its session, or it lets out the fault of it. -/
theorem pass_cases (options : List Declaration)
    (hinside : loop.matcher.cursor < loop.matcher.tokens.size) :
    (∃ next, loop.pass options = .ok next ∧ loop.Advances (.ok next) ∧
      loop.session.pass options loop.matcher.threshold loop.matcher.tokens = .ok next.session) ∨
    ∃ fault, loop.pass options = .error (.fault fault) ∧
      loop.session.pass options loop.matcher.threshold loop.matcher.tokens = .error fault := by
  have hserves : loop.matcher.Serves loop.matcher := ⟨rfl, rfl⟩
  have hclaim := claim_of_searchFrom hserves loop.values none options
  have hmoved (found : Option Declaration) (hanswer : (loop.matcher.searchFrom
      loop.matcher.cursor loop.values none options).answer = .ok found) :=
    hserves.exists_moved_of_searchFrom (Nat.le_of_lt hinside) hanswer
  unfold pass Session.pass
  simp only [Matcher.searchReading_eq, session, Array.getElem?_eq_getElem hinside] at hclaim ⊢
  generalize loop.matcher.searchFrom loop.matcher.cursor loop.values none options = search
    at hclaim hmoved ⊢
  cases hanswer : search.answer with
  | error fault =>
    rw [hanswer] at hclaim
    rw [hclaim]
    exact Or.inr ⟨fault, rfl, rfl⟩
  | ok found =>
    obtain ⟨hleft, moved, hcursor, htwo, hsize, hnone⟩ := hmoved found hanswer
    cases found with
    | none =>
      obtain ⟨rfl, hvalues⟩ := hnone rfl
      have hread : readToken search.matcher.tokens loop.matcher.cursor =
          .ok loop.matcher.tokens[loop.matcher.cursor] := by
        rw [hleft.tokens_eq]
        exact readToken_of_lt hinside
      rw [hanswer] at hclaim
      simp only [hclaim, hread, bind, Except.bind]
      refine Or.inl ⟨_, rfl, .moved ?_ ?_ hleft.tokens_eq hleft.threshold_eq, ?_⟩
      · simp only [Matcher.stepOn]
        omega
      · simp only [Matcher.stepOn]
        omega
      · simp only [Session.keep, Matcher.stepOn, hcursor, hvalues, Nat.add_zero]
    | some option =>
      rw [hanswer] at hclaim
      obtain ⟨moved', slot, hmade, hcursor'⟩ := hclaim
      obtain rfl : moved' = moved := by omega
      simp only [hmade, bind, Except.bind]
      -- A claim that has not moved the cursor is stepped over.
      by_cases hstill : moved' = 0
      · have hstart : search.matcher.cursor = loop.matcher.cursor := by omega
        simp only [hstart, if_true]
        refine Or.inl ⟨_, rfl, .moved ?_ ?_ hleft.tokens_eq hleft.threshold_eq, ?_⟩
        · simp only [Matcher.stepOn, hstart, true_or]
        · simp only [Matcher.stepOn, hstart]
          omega
        · simp only [Session.accept, Matcher.stepOn, hstart, hstill, if_true]
      · have hfar : search.matcher.cursor ≠ loop.matcher.cursor := by omega
        simp only [hfar, if_false]
        refine Or.inl ⟨_, rfl, .moved ?_ ?_ hleft.tokens_eq hleft.threshold_eq, ?_⟩
        · simp only
          omega
        · simp only [hcursor]
          exact hsize
        · simp only [Session.accept, hcursor, hstill, if_false]

/-- What a loop comes to at the end, told by the run of its session. -/
inductive IsRunOf (size : Nat) : Except Fault Session → Except Stop Loop → Prop
  | done {last : Loop} : last.matcher.cursor = size → IsRunOf size (.ok last.session) (.ok last)
  | fault {fault : Fault} : IsRunOf size (.error fault) (.error (.fault fault))

/-- A loop ends after at most as many passes as there are tokens in front of it, as the run of
its session does. -/
theorem exists_ends {passes : Nat} (options : List Declaration)
    (hinside : loop.matcher.cursor ≤ loop.matcher.tokens.size)
    (hpasses : loop.matcher.tokens.size ≤ loop.matcher.cursor + passes) :
    ∃ made result, loop.matcher.cursor + made ≤ loop.matcher.tokens.size ∧
      loop.Ends options made result ∧
      IsRunOf loop.matcher.tokens.size
        (loop.session.run options loop.matcher.threshold loop.matcher.tokens passes) result := by
  induction passes generalizing loop with
  | zero => exact ⟨0, _, hinside, .atEnd (by omega), .done (by omega)⟩
  | succ passes ih =>
    by_cases hend : loop.matcher.cursor < loop.matcher.tokens.size
    · have hrun : loop.session.cursor < loop.matcher.tokens.size := hend
      rw [Session.run, if_pos hrun]
      rcases loop.pass_cases options hend with ⟨next, hpass, hadvances, hsession⟩ |
        ⟨fault, hpass, hsession⟩
      · cases hadvances with
        | moved hmoved hsize htokens hthreshold =>
          rw [← htokens] at hsize
          obtain ⟨made, result, hmade, hends, hresult⟩ := ih hsize (by rw [htokens]; omega)
          rw [htokens, hthreshold] at hresult
          rw [htokens] at hmade
          rw [hsession]
          exact ⟨made + 1, result, by omega, .passed hend hpass hends, hresult⟩
      · rw [hsession]
        exact ⟨1, _, hend, .stopped hend hpass, .fault⟩
    · have hrun : ¬loop.session.cursor < loop.matcher.tokens.size := hend
      rw [Session.run, if_neg hrun]
      exact ⟨0, _, hinside, .atEnd hend, .done (by omega)⟩

/-- **The loop of a session comes to the end of its tokens**, unless it lets out a fault. Every
pass in front of the end moves the cursor by one or two tokens, and not past the end; so there
are no more passes than tokens, no token is looked for behind the end, and no slot where there
is none. The check of the cursor after the loop always holds. -/
theorem parse_ends (options : List Declaration) (threshold : Int) (arguments : List String) :
    (∀ loop : Loop, loop.matcher.cursor < loop.matcher.tokens.size →
      loop.Advances (loop.pass options)) ∧
    ∃ passes result, passes ≤ (cutAtSeparator arguments).1.length ∧
      (start options threshold arguments).Ends options passes result ∧
      Decides options threshold arguments result := by
  constructor
  · intro loop hinside
    rcases loop.pass_cases options hinside with ⟨next, hpass, hadvances, _⟩ | ⟨fault, hpass, _⟩
    · rw [hpass]
      exact hadvances
    · rw [hpass]
      exact .fault
  · obtain ⟨passes, result, hpasses, hends, hresult⟩ :=
      (start options threshold arguments).exists_ends options (Nat.zero_le _)
        (Nat.le_of_eq (Nat.zero_add _).symm)
    refine ⟨passes, result, by simpa [start] using hpasses, hends, ?_⟩
    have hresult : IsRunOf (cutAtSeparator arguments).1.toArray.size
        (Session.run options threshold (cutAtSeparator arguments).1.toArray
          (cutAtSeparator arguments).1.toArray.size { values := initialValues options }) result :=
      hresult
    generalize hrun : Session.run _ _ _ _ _ = ran at hresult
    cases hresult with
    | @done last hcursor =>
      have hcheck : (last.session.cursor == (cutAtSeparator arguments).1.toArray.size) = true :=
        beq_iff_eq.mpr hcursor
      refine .done (by simpa using hcursor) ?_
      unfold parse
      simp only [hrun, bind, Except.bind, ensure, hcheck, if_true]
      rfl
    | fault =>
      refine .fault ?_
      unfold parse
      simp only [hrun, bind, Except.bind]

/-- A pass over two options of one keyword moves on by two tokens. -/
theorem parse_ends_overlapping :
    (start overlappingOptions 2 ["-n", "x"]).matcher.cursor <
      (start overlappingOptions 2 ["-n", "x"]).matcher.tokens.size ∧
    (start overlappingOptions 2 ["-n", "x"]).Advances
      (.ok ⟨⟨#["-n", "x"], 2, 2, ⟨.value, some "-n", some "x"⟩⟩,
        ⟨[("lines", .none), ("name", .text "x")]⟩, #[], ["name"]⟩) :=
  ⟨by decide, (parse_ends overlappingOptions 2 ["-n", "x"]).1 (start _ 2 _) (by decide)⟩

end Loop

end VersionGate.CommandLine
