import SourceAudit.Text.Blank
import SourceAudit.Text.Digit

/-!
# Number of workers

How many files are worked on at once. The number asked for counts when it is a text of
decimal digits that denotes a positive number; anything else stands for a default. A
text of digits that denotes no number is refused.
-/

namespace SourceAudit

open Text

/-- Why a number of workers is refused. -/
inductive WorkerFault where
  | notNumber
  | tooManyDigits
  deriving DecidableEq, Repr

/-- The number that is asked for, zero when none is. -/
def requestedWorkers (raw : Option String) : Except WorkerFault Nat :=
  let text := trim (raw.getD "").toList
  if text.isEmpty || !text.all isDigit then .ok 0
  else
    match decimalNumber? text with
    | none => .error .notNumber
    | some n => if text.length > maxDigits then .error .tooManyDigits else .ok n

/-- The most workers there are unless another bound is given. -/
def defaultMaxWorkers : Int := 32

/-- The number of workers when none is asked for: the default that is named, or else twice the
number of processors, which counts as one when it is not known. -/
def fallbackWorkers (default : Option Int) (processors : Option Nat) : Int :=
  default.getD (2 * (max 1 (processors.getD 1) : Nat))

/-- The number of workers for a text, with a default and a bound. -/
def workerCount (raw : Option String) (default bound : Int) : Except WorkerFault Int :=
  (requestedWorkers raw).map fun n =>
    min (if n = 0 then max 1 default else (n : Int)) bound

end SourceAudit
