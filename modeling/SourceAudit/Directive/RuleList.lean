import SourceAudit.Text.Quoted
import SourceAudit.Text.Search

/-!
# Rule lists

The payload of a directive: rule names separated by commas, with blanks around them.

A rule name is written in small letters, digits and hyphens. A line feed at the very end
of a name is let through. Commas are checked before names: a list that begins or ends
with a comma, or has two commas side by side, is refused whatever its names are.
-/

namespace SourceAudit

open Text

/-- Whether a character may stand in a rule name. -/
def isRuleChar (c : Char) : Bool :=
  ('a' ≤ c && c ≤ 'z') || ('0' ≤ c && c ≤ '9') || c = '-'

/-- Whether the characters make a rule name, which may be followed by one line feed. -/
def isRuleNameChars : List Char → Bool
  | [] => false
  | [c] => isRuleChar c
  | c :: '\n' :: [] => isRuleChar c
  | c :: s => isRuleChar c && isRuleNameChars s

/-- Whether a text is a rule name. -/
def isRuleName (name : String) : Bool :=
  isRuleNameChars name.toList

/-- Why a rule list is refused. -/
inductive RuleListFault where
  | commas
  | noRules
  | ruleName (name : String)
  deriving DecidableEq, Repr

/-- What is said about a text that is no rule name. -/
def ruleNameMessage (name : String) : String :=
  "Invalid rule name: " ++ quoted name ++ ". Rule names must be lowercase, "
    ++ "and can only contain letters, numbers, and hyphens."

def RuleListFault.message : RuleListFault → String
  | .commas => "Invalid comma placement in rule list"
  | .noRules => "No rules specified in disable comment"
  | .ruleName name => ruleNameMessage name

/-- Whether two commas stand side by side. -/
def hasCommaPair : List Char → Bool
  | ',' :: ',' :: _ => true
  | _ :: s => hasCommaPair s
  | [] => false

/-- Whether the commas of a trimmed list are misplaced. -/
def commasMisplaced (s : List Char) : Bool :=
  s.head? == some ',' || s.getLast? == some ',' || hasCommaPair s

/-- The items of a list: the texts between commas, trimmed, without the empty ones. -/
def listItems (s : List Char) : List (List Char) :=
  ((pieces ',' s).map trim).filter fun item => !item.isEmpty

/-- The rule names that a payload lists. -/
def readRuleList (payload : List Char) : Except RuleListFault (List String) :=
  let s := trim payload
  if commasMisplaced s then .error .commas
  else
    let items := listItems s
    if items.isEmpty then .error .noRules
    else
      match items.find? fun item => !isRuleNameChars item with
      | some item => .error (.ruleName (String.ofList item))
      | none => .ok (items.map String.ofList)

end SourceAudit
