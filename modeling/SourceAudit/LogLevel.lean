import SourceAudit.Text.Blank

/-!
# Choosing a log level

How much of the log a run shows. Asking for all of it wins over asking for little, and
that wins over the level that the environment names. A name that is no level stands for
the usual one.
-/

namespace SourceAudit

open Text

/-- The capital form of a character, as far as level names are concerned: that of a
letter of ASCII, and of the two other letters whose capitals are letters of ASCII. -/
def levelCapital (c : Char) : Char :=
  if c.toNat = 0x131 then 'I' else if c.toNat = 0x17F then 'S' else c.toUpper

/-- The rank of the level with a name in capitals. -/
def levelRank? : String → Option Nat
  | "CRITICAL" => some 50
  | "FATAL" => some 50
  | "ERROR" => some 40
  | "WARN" => some 30
  | "WARNING" => some 30
  | "INFO" => some 20
  | "DEBUG" => some 10
  | "NOTSET" => some 0
  | _ => none

/-- The rank that a run shows log records from. -/
def logLevel (verbose quiet : Bool) (named : Option String) : Nat :=
  if verbose then 10
  else if quiet then 30
  else
    let name := String.ofList ((trim (named.getD "").toList).map levelCapital)
    (levelRank? name).getD 20

end SourceAudit
