import SourceAudit.Config.Basic

/-!
# Options of rules

The options a rule takes are a list of names, each with the value it has when nothing
is set. The kind of that value is the kind every other value must have: a truth value, a
whole number that is not negative, or a list of texts. An option of any other kind takes
every value.
-/

namespace SourceAudit

open Text

/-- Checks a value against the one that stands when nothing is set. -/
def readOption (setting : String) (default v : Value) : Except ConfigFault Value :=
  match default with
  | .list _ => (Section.trimmedTexts setting v).map fun ts => .list (ts.map .text)
  | .bool _ =>
    match v with
    | .bool b => .ok (.bool b)
    | _ => .error (.notBoolean setting)
  | .int _ =>
    match v with
    | .int n => if n < 0 then .error (.negative setting) else .ok (.int n)
    | _ => .error (.notInteger setting)
  | _ => .ok v

/-- How the names of options are shown: in order, with hyphens. -/
def shownOptions (fields : Entries) : List String :=
  sortTexts ((fields.map (·.1)).map fun name =>
    String.ofList (replaceChar '_' '-' name.toList))

/-- Reads options one after another into the values they have so far. -/
def readOptionsInto (fields : Entries) (setting : String) :
    Entries → Entries → Except ConfigFault Entries
  | values, [] => .ok values
  | values, (key, v) :: rest =>
    match fields.get? (optionName key) with
    | none => .error (.unknownOption setting key (shownOptions fields))
    | some default =>
      match readOption (setting ++ "." ++ key) default v with
      | .error e => .error e
      | .ok v => readOptionsInto fields setting (values.put (optionName key) v) rest

/-- The value of every option a rule takes. -/
def readOptions (fields : Entries) (setting : String) (raw : Entries) :
    Except ConfigFault Entries :=
  readOptionsInto fields setting fields raw

/-- What is said to be the table of a rule's options. -/
def ruleTableName (rule : String) : String :=
  "tool.avesta.rules." ++ rule

end SourceAudit
