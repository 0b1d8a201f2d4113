import SourceAudit.Text.Order
import SourceAudit.Text.Quoted

/-!
# Faults of settings

Why settings are refused. Every fault names the setting it is about.
-/

namespace SourceAudit

/-- Why settings are refused. -/
inductive ConfigFault where
  | notTable (setting : String)
  | notTexts (setting : String)
  | notText (setting : String)
  | notTextOrTexts (setting : String)
  | notSeconds (setting : String)
  | severity (setting : String)
  | ruleToken (setting token : String)
  | ruleTable (setting : String)
  | languages (names : List String)
  | unknownOption (setting option : String) (valid : List String)
  | notBoolean (setting : String)
  | notInteger (setting : String)
  | negative (setting : String)
  /-- A settings file does not follow the format. -/
  | malformedFile (file : String)
  deriving DecidableEq, Repr

def ConfigFault.message : ConfigFault → String
  | .notTable s => "`" ++ s ++ "` must be a table."
  | .notTexts s => "`" ++ s ++ "` must be a list of strings."
  | .notText s => "`" ++ s ++ "` must be a string."
  | .notTextOrTexts s => "`" ++ s ++ "` must be a string or a list of strings."
  | .notSeconds s => "`" ++ s ++ "` must be a positive integer (seconds)."
  | .severity s => "`" ++ s ++ "` must be one of: info, warn, error."
  | .ruleToken s token =>
    "`" ++ s ++ "` contains an invalid rule id: " ++ Text.quoted token ++ ". "
      ++ "Rule ids are lowercase letters, digits and hyphens (e.g. handle-negative-first)."
  | .ruleTable s => "`" ++ s ++ "` is invalid; expected a rule id like handle-negative-first."
  | .languages names =>
    "`tool.avesta.languages` has unsupported entries: " ++ Text.joinWith ", " names
  | .unknownOption s option valid =>
    let listed := if valid.isEmpty then "(none)" else Text.joinWith ", " valid
    "`" ++ s ++ "` has unknown option " ++ Text.quoted option ++ ". Valid options: " ++ listed
      ++ "."
  | .notBoolean s => "`" ++ s ++ "` must be a boolean."
  | .notInteger s => "`" ++ s ++ "` must be an integer."
  | .negative s => "`" ++ s ++ "` must be >= 0."
  | .malformedFile file => "Invalid TOML in " ++ file

end SourceAudit
