import VersionGate.Fault

/-!
# Status of file operations

What is reported when an operation on a file has failed: the reason that the
operating system gives, or else the text of its error. A failure that is fatal
stops the operation as well.
-/

namespace VersionGate.Files

namespace SystemError

/-- The numbers of the errors of an operation that would have to wait. -/
def waitNumbers : List Int := [11, 114, 115]

/-- Whether the number of an error tells of an operation that would have to wait. -/
def wouldWait (number : Value) : Bool :=
  number.integer?.any waitNumbers.contains

/-- The least number that is too large for a count. -/
def countBound : Int := 9223372036854775808

/-- A count of things done before an operation would have to wait: an integer of a
suitable size. -/
def checkCount (value : Value) : Except Fault Unit :=
  match value.integer? with
  | none => .error (.noCount value)
  | some n => if -countBound ≤ n ∧ n < countBound then .ok () else .error (.noCount value)

/-- Whether a value is a number of any kind. -/
def isNumber : Value → Bool
  | .bool _ | .int _ | .float _ | .decimal _ => true
  | _ => false

/-- A value that is something at all. -/
def something : Option Value → Option Value
  | some .none => none
  | value => value

/-- The error with a number, a reason and up to three more values: a path, a value
that does not matter, and another path. An operation that would have to wait may have
a count in place of the path. -/
def ofFailure (number reason : Value) (more : List Value) : Except Fault SystemError :=
  match something more.head? with
  | none => .ok (.failure number reason none none)
  | some path =>
    if wouldWait number && isNumber path then
      (checkCount path).map fun _ => .failure number reason none none
    else .ok (.failure number reason (some path) (something more[2]?))

/-- The error with the given values. -/
def ofValues : List Value → Except Fault SystemError
  | number :: reason :: more =>
    if more.length ≤ 3 then ofFailure number reason more
    else .ok (.remark (number :: reason :: more))
  | values => .ok (.remark values)

end SystemError

/-- The reason for a failed operation, if there is an error to take it from. -/
def reasonOf (error : Option SystemError) : Value :=
  (error.map SystemError.reason).getD (.text "unknown I/O error")

/-- What is logged about an operation, and whether it stops: nothing happens when it
went well, and a failure stops it only when it is fatal. -/
def settleStatus (ok : Bool) (task : String) (fatal : Bool) (error : Option SystemError) :
    List String × Except Fault Unit :=
  if ok then ([], .ok ())
  else
    let complaint := Complaint.failedAccess task (reasonOf error)
    (complaint.notice, if fatal then .error (.complaint complaint) else .ok ())

end VersionGate.Files
