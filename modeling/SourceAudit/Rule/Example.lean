import SourceAudit.Text.Order

/-!
# Examples of rules

Code that a built-in rule finds fault with, and code it is content with.
-/

namespace SourceAudit

open Text

/-- An example of a rule. -/
structure RuleExample where
  language : String
  flagged : String
  preferred : Option String
  notes : Option String
  deriving DecidableEq, Repr

/-- Lines of code, each ended by a line feed. -/
private def codeLines (lines : List String) : String :=
  joinWith "\n" (lines ++ [""])

/-- The examples, by the names of rules. -/
def ruleExamples : List (String × RuleExample) := [
  ("handle-negative-first", {
    language := "typescript"
    flagged := codeLines [
      "function processUser(user) \x7b",
      "  if (user.isActive) \x7b",
      "    if (user.hasPermission) \x7b",
      "      return processUserData(user.data);",
      "    \x7d",
      "  \x7d",
      "  return null;",
      "\x7d"]
    preferred := some <| codeLines [
      "function processUser(user) \x7b",
      "  if (!user.isActive) return null;",
      "  if (!user.hasPermission) return null;",
      "  return processUserData(user.data);",
      "\x7d"]
    notes := some <| "Options: max-nesting-depth, allow-single-nesting, enforce-throw, "
      ++ "max-else-depth, check-ternaries, ..." }),
  ("react-props-helper", {
    language := "tsx"
    flagged := codeLines [
      "<Chart",
      "  options=\x7b\x7b title: `Sales $\x7byear\x7d`, legend: isWide ? 'right' : 'bottom', "
        ++ "animate: true \x7d\x7d",
      "/>"]
    preferred := some <| codeLines [
      "const chartOptions = buildChartOptions(year, isWide);",
      "",
      "<Chart options=\x7bchartOptions\x7d />"]
    notes := some "Options: max-inline-props, max-ternary-operations, ignore-props." }),
  ("prometheus-label-config", {
    language := "typescript"
    flagged := codeLines ["const config = \x7b prometheusLabels: \x7b query: '' \x7d \x7d;"]
    preferred := some <| codeLines
      ["const config = \x7b prometheusLabels: \x7b query: 'orders_total' \x7d \x7d;"]
    notes := none })]

end SourceAudit
