import SourceAudit.Path
import SourceAudit.Text.Blank
import SourceAudit.Text.Letter

/-!
# Languages and dialects

The suffix of a file tells its dialect: the language that settings speak of, the grammar
that parses it, and whether it may hold markup elements.
-/

namespace SourceAudit

open Text

/-- A language that settings can name. -/
inductive Language where
  | javascript
  | typescript
  deriving DecidableEq, Repr

def Language.name : Language → String
  | .javascript => "javascript"
  | .typescript => "typescript"

/-- The language with a given name. -/
def Language.ofName? : String → Option Language
  | "javascript" => some .javascript
  | "typescript" => some .typescript
  | _ => none

theorem Language.ofName?_eq_some_iff (name : String) (l : Language) :
  Language.ofName? name = some l ↔ name = l.name
  := by
  constructor
  · intro h
    unfold Language.ofName? at h
    split at h <;> simp_all [Language.name]
    all_goals subst h; rfl
  · rintro rfl
    cases l <;> rfl

/-- A grammar that can parse a file. -/
inductive Grammar where
  | javascript
  | typescript
  | tsx
  deriving DecidableEq, Repr

def Grammar.name : Grammar → String
  | .javascript => "javascript"
  | .typescript => "typescript"
  | .tsx => "tsx"

/-- The grammar with a given name. -/
def Grammar.ofName? : String → Option Grammar
  | "javascript" => some .javascript
  | "typescript" => some .typescript
  | "tsx" => some .tsx
  | _ => none

/-- A flavour of source. -/
structure Dialect where
  language : Language
  grammar : Grammar
  markup : Bool := false
  deriving DecidableEq, Repr

/-- The dialects by suffix. -/
def dialects : List (String × Dialect) := [
  (".js", ⟨.javascript, .javascript, true⟩),
  (".jsx", ⟨.javascript, .javascript, true⟩),
  (".mjs", ⟨.javascript, .javascript, false⟩),
  (".cjs", ⟨.javascript, .javascript, false⟩),
  (".ts", ⟨.typescript, .typescript, false⟩),
  (".mts", ⟨.typescript, .typescript, false⟩),
  (".cts", ⟨.typescript, .typescript, false⟩),
  (".tsx", ⟨.typescript, .tsx, true⟩)]

/-- The dialect of a file. -/
def dialectOf? (p : Path) : Option Dialect :=
  dialects.lookup (small p.suffix)

/-- The suffixes of some languages. -/
def suffixesOf (languages : List Language) : List String :=
  (dialects.filter fun (_, d) => languages.contains d.language).map (·.1)

/-- The suffixes of the languages with some names; an unknown name adds none. -/
def suffixesNamed (names : List String) : List String :=
  suffixesOf (names.filterMap fun name => Language.ofName? (small (trimmed name)))

end SourceAudit
