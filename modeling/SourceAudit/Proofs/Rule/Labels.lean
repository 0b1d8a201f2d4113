import SourceAudit.Rule.PrometheusLabels
import Mathlib.Data.List.Basic
import Mathlib.Tactic.Use

/-!
# Labels without an identifier

Labels that are said to have neither a `query` nor a `label` have no pair with such a key, when
the key is written as an identifier. Members in other forms are not looked at.

* `Names`: the forms in which a member of an object literal has a name.
* `pairNamed?_eq_some_iff`: the first pair with a name.
* `mem_faults_noIdentifier_iff`: which labels are said to have no identifier.
* `check_noIdentifier`: the same of the findings in a file.
-/

namespace SourceAudit.PrometheusLabels

open Text Node

/-! ### Names of members -/

/-- The forms in which a member of an object literal has a name. -/
inductive Form where
  /-- `name: value` -/
  | plain
  /-- `"name": value` -/
  | quoted
  /-- `name` -/
  | shorthand
  /-- `name() { .. }` -/
  | method
  deriving DecidableEq, Repr

/-- The key is an identifier with the name. -/
def IsPlainKey (source : Octets) (name : String) (key : Node) : Prop :=
  key.isA "property_identifier" = true ∧ key.textIn source = name

/-- The key is a string with the name in quotes. -/
def IsQuotedKey (source : Octets) (name : String) (key : Node) : Prop :=
  key.isA "string" = true
    ∧ (key.textIn source = "\"" ++ name ++ "\"" ∨ key.textIn source = "'" ++ name ++ "'")

/-- A member of an object literal has a name in a form. -/
inductive Names (source : Octets) (name : String) : Form → Node → Prop where
  | plain {m key : Node} {rest : List Node} :
      m.isA "pair" = true → m.parts = key :: rest → IsPlainKey source name key
        → Names source name .plain m
  | quoted {m key : Node} {rest : List Node} :
      m.isA "pair" = true → m.parts = key :: rest → IsQuotedKey source name key
        → Names source name .quoted m
  | shorthand {m : Node} :
      m.isA "shorthand_property_identifier" = true → m.textIn source = name
        → Names source name .shorthand m
  | method {m key : Node} :
      m.isA "method_definition" = true → key ∈ m.parts
        → IsPlainKey source name key ∨ IsQuotedKey source name key
        → Names source name .method m

section

variable {source : Octets} {name : String} {m : Node}

theorem pairKey_eq_some_iff :
  m.pairKey source = some name
    ↔ ∃ key rest, m.parts = key :: rest ∧ IsPlainKey source name key
  := by
  rw [pairKey]
  cases m.parts with
  | nil => simp
  | cons key rest => simp [IsPlainKey, Option.ite_none_right_eq_some]

theorem names_plain_iff :
  Names source name .plain m ↔ m.isA "pair" = true ∧ m.pairKey source = some name
  := by
  rw [pairKey_eq_some_iff]
  constructor
  · rintro ⟨hpair, hparts, hkey⟩
    exact ⟨hpair, _, _, hparts, hkey⟩
  · rintro ⟨hpair, key, rest, hparts, hkey⟩
    exact .plain hpair hparts hkey

end

/-! ### The first pair with a name -/

/-- The object has a pair with one of the names, no pair before which has one of them. -/
structure IsFirstNamed (source : Octets) (names : List String) (object pair : Node) : Prop where
  named : ∃ name ∈ names, Names source name .plain pair
  first : ∃ before after, object.pairs = before ++ pair :: after
    ∧ ∀ p ∈ before, ∀ name ∈ names, ¬ Names source name .plain p

section

variable {source : Octets} {names : List String} {object : Node}

theorem mem_pairs_iff {p : Node} :
  p ∈ object.pairs ↔ p ∈ object.parts ∧ p.isA "pair" = true
  := List.mem_filter

theorem pairNamed?_eq_find? :
  pairNamed? source names object
    = object.pairs.find? fun p => (p.pairKey source).any names.contains
  := by
  rw [pairNamed?]
  congr 1
  funext p
  cases p.pairKey source <;> rfl

theorem any_pairKey_iff {p : Node} (hp : p ∈ object.pairs) :
  (p.pairKey source).any names.contains = true ↔ ∃ name ∈ names, Names source name .plain p
  := by
  simp only [names_plain_iff, (mem_pairs_iff.mp hp).2, true_and, Option.any_eq_true,
    List.contains_iff_mem]
  exact exists_congr fun name => and_comm

theorem pairNamed?_eq_none_iff :
  pairNamed? source names object = none
    ↔ ∀ name ∈ names, ∀ m ∈ object.parts, ¬ Names source name .plain m
  := by
  rw [pairNamed?_eq_find?, List.find?_eq_none]
  constructor
  · intro h name hname m hm hnames
    have hpair := mem_pairs_iff.mpr ⟨hm, (names_plain_iff.mp hnames).1⟩
    exact h m hpair ((any_pairKey_iff hpair).mpr ⟨name, hname, hnames⟩)
  · intro h p hp hkey
    obtain ⟨name, hname, hnames⟩ := (any_pairKey_iff hp).mp hkey
    exact h name hname p (mem_pairs_iff.mp hp).1 hnames

theorem pairNamed?_eq_some_iff {pair : Node} :
  pairNamed? source names object = some pair ↔ IsFirstNamed source names object pair
  := by
  rw [pairNamed?_eq_find?, List.find?_eq_some_iff_append]
  constructor
  · rintro ⟨hkey, before, after, hpairs, hbefore⟩
    have hmem : pair ∈ object.pairs := by simp [hpairs]
    use (any_pairKey_iff hmem).mp hkey, before, after, hpairs
    intro p hp name hname hnames
    have hother : p ∈ object.pairs := by simp [hpairs, hp]
    have hnot := hbefore p hp
    rw [(any_pairKey_iff hother).mpr ⟨name, hname, hnames⟩] at hnot
    cases hnot
  · rintro ⟨hnamed, before, after, hpairs, hbefore⟩
    have hmem : pair ∈ object.pairs := by simp [hpairs]
    use (any_pairKey_iff hmem).mpr hnamed, before, after, hpairs
    intro p hp
    have hother : p ∈ object.pairs := by simp [hpairs, hp]
    rw [Bool.not_eq_true', Bool.eq_false_iff, Ne, any_pairKey_iff hother]
    rintro ⟨name, hname, hnames⟩
    exact hbefore p hp name hname hnames

end

/-! ### Labels that are said to have no identifier -/

/-- The node is the value of the first pair of an object that is named `prometheusLabels`. -/
structure IsLabelsOf (source : Octets) (config labels : Node) : Prop where
  object : config.isA "object" = true
  value : ∃ pair, IsFirstNamed source ["prometheusLabels"] config pair
    ∧ pair.pairValue = some labels

/-- The object has no pair with the name of an identifier as its key. -/
def LacksIdentifier (source : Octets) (labels : Node) : Prop :=
  ∀ name ∈ ["query", "label"], ∀ m ∈ labels.parts, ¬ Names source name .plain m

section

variable {source : Octets} {n labels : Node}

theorem identifierFault?_ne_noIdentifier :
  identifierFault? source n ≠ some (.noIdentifier, labels)
  := by
  rw [identifierFault?]
  split_ifs <;> simp

theorem labelsFault?_eq_noIdentifier_iff :
  labelsFault? source n = some (.noIdentifier, labels)
    ↔ n = labels ∧ n.isA "object" = true ∧ LacksIdentifier source n
  := by
  rw [labelsFault?, LacksIdentifier, ← pairNamed?_eq_none_iff]
  cases n.isA "object" with
  | false => simp
  | true =>
      cases pairNamed? source ["query", "label"] n with
      | none => simp
      | some pair =>
          simp only [Bool.not_true, Bool.false_eq_true, if_false, Option.bind_eq_some_iff,
            identifierFault?_ne_noIdentifier, and_false, exists_false, reduceCtorEq]

theorem objectFault?_eq_noIdentifier_iff {config : Node} :
  objectFault? source config = some (.noIdentifier, labels)
    ↔ (∃ pair, IsFirstNamed source ["prometheusLabels"] config pair
        ∧ pair.pairValue = some labels)
      ∧ labels.isA "object" = true ∧ LacksIdentifier source labels
  := by
  simp only [← pairNamed?_eq_some_iff]
  rw [objectFault?]
  cases pairNamed? source ["prometheusLabels"] config with
  | none => simp
  | some pair =>
      dsimp only
      rw [Option.bind_eq_some_iff]
      constructor
      · rintro ⟨n, hvalue, hfault⟩
        obtain ⟨rfl, hobject, hlacks⟩ := labelsFault?_eq_noIdentifier_iff.mp hfault
        exact ⟨⟨pair, rfl, hvalue⟩, hobject, hlacks⟩
      · rintro ⟨⟨_, ⟨⟩, hvalue⟩, hobject, hlacks⟩
        use labels, hvalue
        exact labelsFault?_eq_noIdentifier_iff.mpr ⟨rfl, hobject, hlacks⟩

theorem mem_faults_noIdentifier_iff {root : Node} :
  (.noIdentifier, labels) ∈ faults source root
    ↔ (∃ config ∈ root.nodes, IsLabelsOf source config labels)
      ∧ labels.isA "object" = true ∧ LacksIdentifier source labels
  := by
  rw [faults, List.mem_filterMap]
  constructor
  · rintro ⟨config, hconfig, hfault⟩
    rw [Option.ite_none_right_eq_some, objectFault?_eq_noIdentifier_iff] at hfault
    obtain ⟨hobject, hvalue, hlabels⟩ := hfault
    exact ⟨⟨config, hconfig, hobject, hvalue⟩, hlabels⟩
  · rintro ⟨⟨config, hconfig, hobject, hvalue⟩, hlabels⟩
    use config, hconfig
    rw [Option.ite_none_right_eq_some, objectFault?_eq_noIdentifier_iff]
    exact ⟨hobject, hvalue, hlabels⟩

end

theorem message_eq_noIdentifier_iff (complaint : Complaint) :
  complaint.message = Complaint.noIdentifier.message ↔ complaint = .noIdentifier
  := by
  cases complaint <;> decide

/-- The labels that are said to have neither a `query` nor a `label` are an object literal, the
value of the first pair named `prometheusLabels` of another one, and have no pair with such a
key as an identifier. All such labels are said so; a member that has the name in another form
makes no difference. -/
theorem check_noIdentifier (file : FileContext) (root : Node) (d : Diagnostic) :
  d ∈ check file root ∧ d.message = Complaint.noIdentifier.message
    ↔ ∃ labels, d = about.finding file labels Complaint.noIdentifier.message
      ∧ (∃ config ∈ root.nodes, IsLabelsOf file.octets config labels)
      ∧ labels.isA "object" = true
      ∧ ∀ name ∈ ["query", "label"], ∀ m ∈ labels.parts, ∀ form,
        Names file.octets name form m → form ≠ .plain
  := by
  have hforms : ∀ labels, LacksIdentifier file.octets labels
      ↔ ∀ name ∈ ["query", "label"], ∀ m ∈ labels.parts, ∀ form,
        Names file.octets name form m → form ≠ .plain := by
    intro labels
    constructor
    · rintro hlacks name hname m hm _ hnames rfl
      exact hlacks name hname m hm hnames
    · intro hforms name hname m hm hnames
      exact hforms name hname m hm .plain hnames rfl
  rw [check, List.mem_map]
  constructor
  · rintro ⟨⟨⟨complaint, labels⟩, hfault, rfl⟩, hmessage⟩
    obtain rfl := (message_eq_noIdentifier_iff complaint).mp hmessage
    use labels, rfl
    rw [← hforms]
    exact mem_faults_noIdentifier_iff.mp hfault
  · rintro ⟨labels, rfl, hlabels⟩
    rw [← hforms] at hlabels
    exact ⟨⟨(.noIdentifier, labels), mem_faults_noIdentifier_iff.mpr hlabels, rfl⟩, rfl⟩

/-! ### Identifiers in other forms -/

/-- The labels of `({prometheusLabels: {..}})` with one member. -/
def exampleLabels (member : Node) : Node :=
  .between "object" 20 (member.label.endOctet + 1) [member]

/-- The expression `({prometheusLabels: {..}})` with one member in the labels. -/
def exampleConfig (member : Node) : Node :=
  .between "parenthesized_expression" 0 (member.label.endOctet + 3) [
    .between "object" 1 (member.label.endOctet + 2) [
      .between "pair" 2 (member.label.endOctet + 1) [
        .between "property_identifier" 2 18 [], exampleLabels member]]]

/-- The member `"query": "up"`. -/
def exampleQuoted : Node :=
  .between "pair" 21 34 [.between "string" 21 28 [], .between "string" 30 34 []]

/-- The member `query`. -/
def exampleShorthand : Node :=
  .between "shorthand_property_identifier" 21 26 []

/-- The member `query() {}`. -/
def exampleMethod : Node :=
  .between "method_definition" 21 31 [
    .between "property_identifier" 21 26 [], .between "formal_parameters" 26 28 [],
    .between "statement_block" 29 31 []]

/-- Labels with a `query` whose key is in quotes, that is a shorthand, or that is a method are
said to have neither a `query` nor a `label`. -/
theorem check_noIdentifier_of_other_forms :
  let quoted := FileContext.single "a.ts" "(\x7bprometheusLabels: \x7b\"query\": \"up\"\x7d\x7d)"
    (some (exampleConfig exampleQuoted))
  let shorthand := FileContext.single "a.ts" "(\x7bprometheusLabels: \x7bquery\x7d\x7d)"
    (some (exampleConfig exampleShorthand))
  let method := FileContext.single "a.ts" "(\x7bprometheusLabels: \x7bquery() \x7b\x7d\x7d\x7d)"
    (some (exampleConfig exampleMethod))
  let complaint (file : FileContext) (member : Node) : Diagnostic :=
    about.finding file (exampleLabels member) Complaint.noIdentifier.message
  (Names quoted.octets "query" .quoted exampleQuoted
    ∧ exampleQuoted ∈ (exampleLabels exampleQuoted).parts
    ∧ complaint quoted exampleQuoted ∈ check quoted (exampleConfig exampleQuoted))
  ∧ (Names shorthand.octets "query" .shorthand exampleShorthand
    ∧ exampleShorthand ∈ (exampleLabels exampleShorthand).parts
    ∧ complaint shorthand exampleShorthand ∈ check shorthand (exampleConfig exampleShorthand))
  ∧ Names method.octets "query" .method exampleMethod
    ∧ exampleMethod ∈ (exampleLabels exampleMethod).parts
    ∧ complaint method exampleMethod ∈ check method (exampleConfig exampleMethod)
  := by
  intro quoted shorthand method complaint
  refine ⟨⟨?_, List.mem_cons_self, by decide +kernel⟩, ⟨?_, List.mem_cons_self, by decide +kernel⟩,
    ?_, List.mem_cons_self, by decide +kernel⟩
  · exact .quoted rfl rfl ⟨rfl, .inl (by decide +kernel)⟩
  · exact .shorthand rfl (by decide +kernel)
  · exact .method rfl List.mem_cons_self (.inl ⟨rfl, by decide +kernel⟩)

end SourceAudit.PrometheusLabels
