import SourceAudit.Proofs.Audit.Findings
import SourceAudit.Proofs.Audit.Order
import SourceAudit.Proofs.Rule.Registry

/-!
# The history of a registry

A registry changes by calls: rules of plugins are registered, or the rules of a project are
loaded. A call that fails over a plugin or over a name leaves the registry as it was; one
that fails later, over the options of a rule, does not. So at any time a registry holds the
built-in rules and those of the last call whose names were let in, ordered by name, and a
name leads to one rule only.
-/

namespace SourceAudit

open Text

/-! ### Names that are let in -/

/-- The names of rules of plugins are let in: they are rule names that no built-in rule has,
and no two of them are the same. -/
structure ProperlyNamed (rules : List Rule) : Prop where
  named : ∀ r ∈ rules, isRuleName r.id = true
  apart : ∀ r ∈ rules, r.id ∉ Rule.builtin.map Rule.id
  nodup : (rules.map Rule.id).Nodup

/-- What is at fault with the name of a rule, given the names that came before. -/
def Rule.HasNameFault (r : Rule) (before : List String) : RegistryFault → Prop
  | .badName id => id = r.id ∧ isRuleName r.id = false
  | .builtinName id => id = r.id ∧ isRuleName r.id = true ∧ r.id ∈ Rule.builtin.map Rule.id
  | .duplicate id =>
    id = r.id ∧ isRuleName r.id = true ∧ r.id ∉ Rule.builtin.map Rule.id ∧ r.id ∈ before

/-- The fault of the first name that is not let in. -/
def IsFirstNameFault (rules : List Rule) (fault : RegistryFault) : Prop :=
  ∃ before r after, rules = before ++ r :: after ∧ ProperlyNamed before
    ∧ r.HasNameFault (before.map Rule.id) fault

theorem register_eq_ok_iff_properlyNamed (rules : List Rule) (reg : Registry) :
  Registry.register rules = .ok reg ↔ reg = ⟨rules⟩ ∧ ProperlyNamed rules
  := by
  rw [register_eq_ok_iff]
  constructor
  · rintro ⟨hreg, hnames, hnodup⟩
    exact ⟨hreg, fun r hr => (hnames r hr).1, fun r hr => (hnames r hr).2, hnodup⟩
  · rintro ⟨hreg, hnames⟩
    exact ⟨hreg, fun r hr => ⟨hnames.named r hr, hnames.apart r hr⟩, hnames.nodup⟩

theorem firstFault?_eq_none_iff_properlyNamed (rules : List Rule) :
  Registry.firstFault? [] rules = none ↔ ProperlyNamed rules
  := by
  have hregister := register_eq_ok_iff_properlyNamed rules ⟨rules⟩
  rw [Registry.register] at hregister
  cases hfault : Registry.firstFault? [] rules with
  | none => simpa [hfault] using hregister
  | some fault => simpa [hfault] using hregister

theorem firstFault?_cons_of_hasNameFault {r : Rule} {before : List String} {fault : RegistryFault}
    (h : r.HasNameFault before fault) (rest : List Rule) :
  Registry.firstFault? before (r :: rest) = some fault
  := by
  cases fault with
  | badName id =>
      obtain ⟨rfl, hname⟩ := h
      simp [Registry.firstFault?, hname]
  | builtinName id =>
      obtain ⟨rfl, hname, hbuiltin⟩ := h
      rw [Registry.firstFault?, if_neg (by simp [hname]), if_pos (by simpa using hbuiltin)]
  | duplicate id =>
      obtain ⟨rfl, hname, hbuiltin, hbefore⟩ := h
      rw [Registry.firstFault?, if_neg (by simp [hname]), if_neg (by simpa using hbuiltin),
        if_pos (by simpa using hbefore)]

theorem firstFault?_cons_of_not_hasNameFault {r : Rule} {before : List String}
    (h : ∀ fault, ¬ r.HasNameFault before fault) (rest : List Rule) :
  Registry.firstFault? before (r :: rest) = Registry.firstFault? (r.id :: before) rest
  := by
  have hname : isRuleName r.id = true := by
    by_contra hno
    exact h (.badName r.id) ⟨rfl, by simpa using hno⟩
  have hbuiltin : r.id ∉ Rule.builtin.map Rule.id :=
    fun hmem => h (.builtinName r.id) ⟨rfl, hname, hmem⟩
  have hbefore : r.id ∉ before :=
    fun hmem => h (.duplicate r.id) ⟨rfl, hname, hbuiltin, hmem⟩
  rw [Registry.firstFault?, if_neg (by simp [hname]), if_neg (by simpa using hbuiltin),
    if_neg (by simpa using hbefore)]

/-- The order of the names before is of no concern. -/
theorem Rule.HasNameFault.of_subset {r : Rule} {before before' : List String}
    {fault : RegistryFault} (h : r.HasNameFault before fault) (hsub : before ⊆ before') :
  r.HasNameFault before' fault
  := by
  cases fault with
  | badName id => exact h
  | builtinName id => exact h
  | duplicate id => exact ⟨h.1, h.2.1, h.2.2.1, hsub h.2.2.2⟩

theorem firstFault?_eq_some_iff (before : List String) (rules : List Rule)
    (fault : RegistryFault) :
  Registry.firstFault? before rules = some fault
    ↔ ∃ earlier r later, rules = earlier ++ r :: later
      ∧ Registry.firstFault? before earlier = none
      ∧ r.HasNameFault (earlier.map Rule.id ++ before) fault
  := by
  induction rules generalizing before with
  | nil => simp [Registry.firstFault?]
  | cons s rest ih =>
      by_cases hs : ∃ fault, s.HasNameFault before fault
      · obtain ⟨found, hfound⟩ := hs
        rw [firstFault?_cons_of_hasNameFault hfound]
        constructor
        · intro h
          rw [← Option.some.inj h]
          exact ⟨[], s, rest, rfl, rfl, hfound⟩
        · rintro ⟨earlier, r, later, hsplit, hnone, hfault⟩
          cases earlier with
          | nil =>
              obtain ⟨rfl, -⟩ := List.cons.inj hsplit
              exact (firstFault?_cons_of_hasNameFault hfound []).symm.trans
                (firstFault?_cons_of_hasNameFault hfault [])
          | cons e earlier =>
              obtain ⟨rfl, -⟩ := List.cons.inj hsplit
              rw [firstFault?_cons_of_hasNameFault hfound] at hnone
              cases hnone
      · have hfine : ∀ fault, ¬ s.HasNameFault before fault := not_exists.mp hs
        rw [firstFault?_cons_of_not_hasNameFault hfine, ih]
        constructor
        · rintro ⟨earlier, r, later, rfl, hnone, hfault⟩
          use s :: earlier, r, later, rfl
          rw [firstFault?_cons_of_not_hasNameFault hfine]
          exact ⟨hnone, hfault.of_subset List.perm_middle.subset⟩
        · rintro ⟨earlier, r, later, hsplit, hnone, hfault⟩
          cases earlier with
          | nil =>
              obtain ⟨rfl, -⟩ := List.cons.inj hsplit
              exact absurd hfault (hfine fault)
          | cons e earlier =>
              obtain ⟨rfl, rfl⟩ := List.cons.inj hsplit
              rw [firstFault?_cons_of_not_hasNameFault hfine] at hnone
              use earlier, r, later, rfl, hnone
              exact hfault.of_subset List.perm_middle.symm.subset

/-- Rules are refused with the fault of the first name that is not let in. -/
theorem register_eq_error_iff (rules : List Rule) (fault : RegistryFault) :
  Registry.register rules = .error fault ↔ IsFirstNameFault rules fault
  := by
  have hregister : Registry.register rules = .error fault
      ↔ Registry.firstFault? [] rules = some fault := by
    rw [Registry.register]
    cases Registry.firstFault? [] rules with
    | none => simp
    | some found => simp
  rw [hregister, firstFault?_eq_some_iff, IsFirstNameFault]
  simp only [List.append_nil, firstFault?_eq_none_iff_properlyNamed]

/-! ### Plugins that cannot be loaded -/

/-- The fault of the first plugin that cannot be loaded. -/
def IsFirstPluginFault (modules : Modules) (specs : List String) (fault : PluginFault) : Prop :=
  ∃ before spec after, (specs.map trimmed).filter (· ≠ "") = before ++ spec :: after
    ∧ (∀ s ∈ before, ∃ rules, loadPlugin modules s = .ok rules)
    ∧ loadPlugin modules spec = .error fault

theorem loadPlugins_cons_of_error {modules : Modules} {spec : String} {fault : PluginFault}
    (h : loadPlugin modules spec = .error fault) (rest : List String) :
  (loadPlugins modules (spec :: rest)).2 = .error fault
  := by
  rw [loadPlugins, h]

theorem loadPlugins_cons_of_ok {modules : Modules} {spec : String} {rules : List Rule}
    (h : loadPlugin modules spec = .ok rules) (rest : List String) :
  (loadPlugins modules (spec :: rest)).2 = (loadPlugins modules rest).2.map (rules ++ ·)
  := by
  rw [loadPlugins, h]

theorem loadPlugins_eq_error_iff (modules : Modules) (specs : List String) (fault : PluginFault) :
  (loadPlugins modules specs).2 = .error fault
    ↔ ∃ before spec after, specs = before ++ spec :: after
      ∧ (∀ s ∈ before, ∃ rules, loadPlugin modules s = .ok rules)
      ∧ loadPlugin modules spec = .error fault
  := by
  induction specs with
  | nil => simp [loadPlugins]
  | cons spec rest ih =>
      cases hload : loadPlugin modules spec with
      | error found =>
          rw [loadPlugins_cons_of_error hload]
          constructor
          · rintro ⟨⟩
            exact ⟨[], spec, rest, rfl, List.forall_mem_nil _, hload⟩
          · rintro ⟨before, s, after, hsplit, hbefore, hs⟩
            cases before with
            | nil =>
                obtain ⟨rfl, -⟩ := List.cons.inj hsplit
                rw [← hload, ← hs]
            | cons b before =>
                obtain ⟨rfl, -⟩ := List.cons.inj hsplit
                obtain ⟨rules, hrules⟩ := hbefore spec List.mem_cons_self
                rw [hload] at hrules
                cases hrules
      | ok rules =>
          have hmap : ((loadPlugins modules rest).2.map (rules ++ ·) = .error fault)
              ↔ (loadPlugins modules rest).2 = .error fault := by
            cases (loadPlugins modules rest).2 with
            | error found => simp [Except.map]
            | ok found => simp [Except.map]
          rw [loadPlugins_cons_of_ok hload, hmap, ih]
          constructor
          · rintro ⟨before, s, after, rfl, hbefore, hs⟩
            use spec :: before, s, after, rfl
            rw [List.forall_mem_cons]
            exact ⟨⟨⟨rules, hload⟩, hbefore⟩, hs⟩
          · rintro ⟨before, s, after, hsplit, hbefore, hs⟩
            cases before with
            | nil =>
                obtain ⟨rfl, -⟩ := List.cons.inj hsplit
                rw [hload] at hs
                cases hs
            | cons b before =>
                obtain ⟨rfl, rfl⟩ := List.cons.inj hsplit
                rw [List.forall_mem_cons] at hbefore
                exact ⟨before, s, after, rfl, hbefore.2, hs⟩

/-! ### Calls -/

/-- A call that may replace the rules of plugins. -/
inductive RegistryCall where
  /-- Rules are registered. -/
  | register (rules : List Rule)
  /-- The rules of a project are loaded. -/
  | load (modules : Modules) (config : Config)

namespace RegistryCall

/-- The rules that a call puts forward, unless a plugin cannot be loaded. -/
def offer : RegistryCall → Except PluginFault (List Rule)
  | register rules => .ok rules
  | load modules config => (loadPluginSpecs modules config.plugins).2

/-- The call puts these rules forward, and their names are let in. -/
def Accepts (c : RegistryCall) (rules : List Rule) : Prop :=
  c.offer = .ok rules ∧ ProperlyNamed rules

/-- The registry after a call, and how the call ends. -/
def run (before : Registry) : RegistryCall → Registry × Except RulesFault Unit
  | register rules =>
    match Registry.register rules with
    | .error fault => (before, .error (.registry fault))
    | .ok reg => (reg, .ok ())
  | load modules config =>
    let loaded := loadRules modules before config
    (loaded.registry, loaded.result)

end RegistryCall

/-- The registry after calls in a row. -/
def Registry.after (calls : List RegistryCall) : Registry :=
  calls.foldl (fun reg c => (c.run reg).1) .initial

/-- The rules are those of the last of the calls whose rules were let in; there are none when
there is no such call. -/
def IsLastAccepted (calls : List RegistryCall) (rules : List Rule) : Prop :=
  (∃ before c after, calls = before ++ c :: after ∧ c.Accepts rules
      ∧ ∀ c' ∈ after, ∀ rules', ¬ c'.Accepts rules')
  ∨ (∀ c ∈ calls, ∀ rules', ¬ c.Accepts rules') ∧ rules = []

/-- The registry holds the built-in rules and these of plugins, ordered by name. A name leads
to one rule at most, and that of a built-in rule to this rule. -/
structure Registry.Holds (reg : Registry) (rules : List Rule) : Prop where
  ascending : reg.rules.Pairwise fun r s => r.id < s.id
  members : reg.rules.Perm (Rule.builtin ++ rules)
  mem_ids_iff : ∀ id, id ∈ reg.ids ↔ ∃ r ∈ reg.rules, r.id = id
  find?_eq_some_iff : ∀ id r, reg.find? id = some r ↔ r ∈ reg.rules ∧ r.id = id
  find?_builtin : ∀ r ∈ Rule.builtin, reg.find? r.id = some r

/-- How a call ends, and what registry it leaves. -/
def RegistryCall.Ends (c : RegistryCall) (before after : Registry) :
    Except RulesFault Unit → Prop
  | .ok () => ∃ rules, c.Accepts rules ∧ after.Holds rules
  | .error (.plugin fault) =>
    (∃ modules config, c = .load modules config
      ∧ IsFirstPluginFault modules config.plugins fault)
    ∧ after = before
  | .error (.registry fault) =>
    (∃ rules, c.offer = .ok rules ∧ IsFirstNameFault rules fault) ∧ after = before
  | .error (.config fault) =>
    ∃ modules config rules, c = .load modules config ∧ c.Accepts rules ∧ after.Holds rules
      ∧ ∃ r ∈ after.enabled config, r.options config = .error fault

/-! ### Registries with names that were let in -/

theorem idLe_iff (r s : Rule) :
  Registry.idLe r s = true ↔ r.id ≤ s.id
  := textLe_iff r.id s.id

theorem pairwise_id_le (reg : Registry) :
  reg.rules.Pairwise fun r s => r.id ≤ s.id
  := by
  simp only [← idLe_iff]
  apply List.pairwise_mergeSort
  · intro r s t
    rw [idLe_iff, idLe_iff, idLe_iff]
    apply le_trans
  · intro r s
    rw [Bool.or_eq_true, idLe_iff, idLe_iff]
    apply le_total

theorem pairwise_id_lt {rules : List Rule} (h : ProperlyNamed rules) :
  (Registry.rules ⟨rules⟩).Pairwise fun r s => r.id < s.id
  := by
  have hnodup : (Registry.rules ⟨rules⟩).Pairwise fun r s => r.id ≠ s.id := by
    rw [← List.pairwise_map]
    exact nodup_ids_of_register ((register_eq_ok_iff_properlyNamed rules ⟨rules⟩).mpr ⟨rfl, h⟩)
  apply ((pairwise_id_le ⟨rules⟩).and hnodup).imp
  rintro r s ⟨hrs, hne⟩
  exact lt_of_le_of_ne hrs hne

theorem holds_of_properlyNamed {rules : List Rule} (h : ProperlyNamed rules) :
  Registry.Holds ⟨rules⟩ rules
  := by
  have hregister := (register_eq_ok_iff_properlyNamed rules ⟨rules⟩).mpr ⟨rfl, h⟩
  have hfind : ∀ id r, Registry.find? ⟨rules⟩ id = some r
      ↔ r ∈ Registry.rules ⟨rules⟩ ∧ r.id = id := by
    intro id r
    constructor
    · intro hr
      exact ⟨List.mem_of_find?_eq_some hr, by simpa using List.find?_some hr⟩
    · rintro ⟨hr, rfl⟩
      have hfound := find?_of_nodup_map (nodup_ids_of_register hregister) hr
      rw [Registry.find?, ← hfound]
      rfl
  constructor
  · exact pairwise_id_lt h
  · exact List.mergeSort_perm _ _
  · intro id
    exact List.mem_map
  · exact hfind
  · intro r hr
    apply (hfind r.id r).mpr
    exact ⟨(mem_rules_iff _ r).mpr (Or.inl hr), rfl⟩

/-! ### Runs of calls -/

theorem exists_options_of_checkOptions {config : Config} {rules : List Rule}
    {fault : ConfigFault} (h : checkOptions config rules = .error fault) :
  ∃ r ∈ rules, r.options config = .error fault
  := by
  induction rules with
  | nil => cases h
  | cons r rest ih =>
      rw [checkOptions] at h
      cases hoptions : r.options config with
      | error found =>
          rw [hoptions] at h
          cases h
          exact ⟨r, List.mem_cons_self, hoptions⟩
      | ok values =>
          rw [hoptions] at h
          obtain ⟨s, hs, hfault⟩ := ih h
          exact ⟨s, List.mem_cons_of_mem r hs, hfault⟩

theorem loadRules_of_plugin_fault {modules : Modules} {config : Config} {fault : PluginFault}
    (h : (loadPluginSpecs modules config.plugins).2 = .error fault) (before : Registry) :
  (loadRules modules before config).registry = before
    ∧ (loadRules modules before config).result = .error (.plugin fault)
  := by
  rw [loadRules]
  split
  · rename_i found heq
    rw [heq] at h
    cases h
    exact ⟨rfl, rfl⟩
  · rename_i rules heq
    rw [heq] at h
    cases h

theorem loadRules_of_name_fault {modules : Modules} {config : Config} {rules : List Rule}
    {fault : RegistryFault} (hplugins : (loadPluginSpecs modules config.plugins).2 = .ok rules)
    (hregister : Registry.register rules = .error fault) (before : Registry) :
  (loadRules modules before config).registry = before
    ∧ (loadRules modules before config).result = .error (.registry fault)
  := by
  rw [loadRules]
  split
  · rename_i found heq
    rw [heq] at hplugins
    cases hplugins
  · rename_i found heq
    rw [heq] at hplugins
    cases hplugins
    rw [hregister]
    exact ⟨rfl, rfl⟩

namespace RegistryCall

/-- All that a call can do: it fails over a plugin or over a name and leaves the registry, or
its rules are let in, and then only the options of an enabled rule can be at fault. -/
theorem run_cases (c : RegistryCall) (before : Registry) :
  (∃ modules config fault, c = .load modules config
      ∧ c.offer = .error fault ∧ c.run before = (before, .error (.plugin fault)))
    ∨ (∃ rules fault, c.offer = .ok rules ∧ Registry.register rules = .error fault
      ∧ c.run before = (before, .error (.registry fault)))
    ∨ ∃ rules, c.Accepts rules ∧ (c.run before = (⟨rules⟩, .ok ())
      ∨ ∃ modules config fault, c = .load modules config
        ∧ c.run before = (⟨rules⟩, .error (.config fault))
        ∧ ∃ r ∈ Registry.enabled ⟨rules⟩ config, r.options config = .error fault)
  := by
  cases c with
  | register rules =>
      right
      rw [run]
      cases hregister : Registry.register rules with
      | error fault => exact Or.inl ⟨rules, fault, rfl, hregister, rfl⟩
      | ok reg =>
          obtain ⟨rfl, hnames⟩ := (register_eq_ok_iff_properlyNamed rules reg).mp hregister
          exact Or.inr ⟨rules, ⟨rfl, hnames⟩, Or.inl rfl⟩
  | load modules config =>
      rw [run]
      cases hplugins : (loadPluginSpecs modules config.plugins).2 with
      | error fault =>
          left
          obtain ⟨hreg, hresult⟩ := loadRules_of_plugin_fault hplugins before
          use modules, config, fault, rfl, hplugins
          rw [hreg, hresult]
      | ok rules =>
          right
          cases hregister : Registry.register rules with
          | error fault =>
              left
              obtain ⟨hreg, hresult⟩ := loadRules_of_name_fault hplugins hregister before
              use rules, fault, hplugins, hregister
              rw [hreg, hresult]
          | ok reg =>
              right
              obtain ⟨hreg, hresult⟩ := loadRules_of_register hplugins hregister before
              obtain ⟨rfl, hnames⟩ := (register_eq_ok_iff_properlyNamed rules reg).mp hregister
              use rules, ⟨hplugins, hnames⟩
              rw [hreg, hresult]
              cases hcheck : checkOptions config (Registry.enabled ⟨rules⟩ config) with
              | ok _ => exact Or.inl rfl
              | error fault =>
                  right
                  exact ⟨modules, config, fault, rfl, rfl, exists_options_of_checkOptions hcheck⟩

theorem Accepts.unique {c : RegistryCall} {rules rules' : List Rule} (h : c.Accepts rules)
    (h' : c.Accepts rules') :
  rules = rules'
  := by
  have hoffer := h.1.symm.trans h'.1
  exact Except.ok.inj hoffer

/-- A call whose rules are let in leaves a registry with these rules. -/
theorem fst_run_of_accepts {c : RegistryCall} {rules : List Rule} (h : c.Accepts rules)
    (before : Registry) :
  (c.run before).1 = ⟨rules⟩
  := by
  rcases c.run_cases before with ⟨_, _, fault, -, hoffer, -⟩ | ⟨rules', fault, hoffer, hregister, -⟩
    | ⟨rules', haccepts, hrun | ⟨_, _, fault, -, hrun, -⟩⟩
  · cases h.1.symm.trans hoffer
  · cases h.1.symm.trans hoffer
    rw [(register_eq_ok_iff_properlyNamed rules ⟨rules⟩).mpr ⟨rfl, h.2⟩] at hregister
    cases hregister
  · rw [hrun, h.unique haccepts]
  · rw [hrun, h.unique haccepts]

/-- Any other call leaves the registry as it was. -/
theorem fst_run_of_not_accepts {c : RegistryCall} (h : ∀ rules, ¬ c.Accepts rules)
    (before : Registry) :
  (c.run before).1 = before
  := by
  rcases c.run_cases before with ⟨_, _, fault, -, -, hrun⟩ | ⟨rules, fault, -, -, hrun⟩
    | ⟨rules, haccepts, -⟩
  · rw [hrun]
  · rw [hrun]
  · exact absurd haccepts (h rules)

theorem ends_run (c : RegistryCall) (before : Registry) :
  c.Ends before (c.run before).1 (c.run before).2
  := by
  rcases c.run_cases before with ⟨modules, config, fault, rfl, hoffer, hrun⟩
    | ⟨rules, fault, hoffer, hregister, hrun⟩
    | ⟨rules, haccepts, hrun | ⟨modules, config, fault, rfl, hrun, hoptions⟩⟩
  · rw [hrun]
    refine ⟨⟨modules, config, rfl, ?_⟩, rfl⟩
    exact (loadPlugins_eq_error_iff modules _ fault).mp hoffer
  · rw [hrun]
    exact ⟨⟨rules, hoffer, (register_eq_error_iff rules fault).mp hregister⟩, rfl⟩
  · rw [hrun]
    exact ⟨rules, haccepts, holds_of_properlyNamed haccepts.2⟩
  · rw [hrun]
    exact ⟨modules, config, rules, rfl, haccepts, holds_of_properlyNamed haccepts.2, hoptions⟩

end RegistryCall

theorem Registry.after_append_singleton (calls : List RegistryCall) (c : RegistryCall) :
  after (calls ++ [c]) = (c.run (after calls)).1
  := by
  rw [after, List.foldl_append]
  rfl

/-- A call whose rules are let in is the last such call. -/
theorem isLastAccepted_of_accepts (calls : List RegistryCall) {c : RegistryCall}
    {rules : List Rule} (h : c.Accepts rules) :
  IsLastAccepted (calls ++ [c]) rules
  := by
  left
  exact ⟨calls, c, [], rfl, h, List.forall_mem_nil _⟩

/-- Any other call leaves the last such call as it was. -/
theorem IsLastAccepted.append_of_not_accepts {calls : List RegistryCall} {rules : List Rule}
    (h : IsLastAccepted calls rules) {c : RegistryCall} (hc : ∀ rules', ¬ c.Accepts rules') :
  IsLastAccepted (calls ++ [c]) rules
  := by
  rcases h with ⟨before, c', after, rfl, hc', hafter⟩ | ⟨hnone, hrules⟩
  · left
    use before, c', after ++ [c], by simp, hc'
    rw [List.forall_mem_append, List.forall_mem_singleton]
    exact ⟨hafter, hc⟩
  · right
    rw [List.forall_mem_append, List.forall_mem_singleton]
    exact ⟨⟨hnone, hc⟩, hrules⟩

/-- After calls in a row a registry has the rules of the last call whose rules were let in. -/
theorem exists_isLastAccepted (calls : List RegistryCall) :
  ∃ rules, IsLastAccepted calls rules ∧ Registry.after calls = ⟨rules⟩ ∧ ProperlyNamed rules
  := by
  induction calls using List.reverseRecOn with
  | nil =>
      refine ⟨[], Or.inr ⟨List.forall_mem_nil _, rfl⟩, rfl, ?_⟩
      exact ⟨List.forall_mem_nil _, List.forall_mem_nil _, List.nodup_nil⟩
  | append_singleton calls c ih =>
      rw [Registry.after_append_singleton]
      by_cases hc : ∃ rules, c.Accepts rules
      · obtain ⟨rules, hrules⟩ := hc
        use rules, isLastAccepted_of_accepts calls hrules
        exact ⟨RegistryCall.fst_run_of_accepts hrules _, hrules.2⟩
      · obtain ⟨rules, hlast, hafter, hnames⟩ := ih
        have hnone : ∀ rules, ¬ c.Accepts rules := not_exists.mp hc
        use rules, hlast.append_of_not_accepts hnone
        rw [RegistryCall.fst_run_of_not_accepts hnone]
        exact ⟨hafter, hnames⟩

/-- A registry after any calls in a row, of which some may have failed, holds the built-in
rules and those of the last call whose rules were let in, ordered by name. The next call
fails over the first plugin that cannot be loaded, or over the first name that is not let
in, and then leaves the registry as it is; or it leaves one that holds its own rules, also
when the options of an enabled rule are at fault. -/
theorem registry_after_calls (calls : List RegistryCall) :
  (∃ rules, IsLastAccepted calls rules ∧ (Registry.after calls).Holds rules)
  ∧ ∀ c : RegistryCall, ∃ result,
    c.run (Registry.after calls) = (Registry.after (calls ++ [c]), result)
    ∧ c.Ends (Registry.after calls) (Registry.after (calls ++ [c])) result
  := by
  constructor
  · obtain ⟨rules, hlast, hafter, hnames⟩ := exists_isLastAccepted calls
    use rules, hlast
    rw [hafter]
    exact holds_of_properlyNamed hnames
  · intro c
    rw [Registry.after_append_singleton]
    exact ⟨(c.run (Registry.after calls)).2, rfl, c.ends_run (Registry.after calls)⟩

end SourceAudit
