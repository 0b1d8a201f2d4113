import SourceAudit.Rule.Registry
import SourceAudit.Proofs.Directive.RuleList
import Mathlib.Data.List.Nodup

/-!
# Registered rules

Rules of plugins are registered when each is called by a rule name that no built-in rule
has, and no two of them have the same. So a name leads to one rule of a registry at most,
and looking a rule up by its name finds it.
-/

namespace SourceAudit

open Text

/-! ### Names that are let in -/

theorem firstFault?_eq_none_iff (before : List String) (rules : List Rule) :
  Registry.firstFault? before rules = none
    ↔ (∀ r ∈ rules, isRuleName r.id = true ∧ r.id ∉ Rule.builtin.map Rule.id ∧ r.id ∉ before)
      ∧ (rules.map Rule.id).Nodup
  := by
  induction rules generalizing before with
  | nil => simp [Registry.firstFault?]
  | cons r rest ih =>
      rw [Registry.firstFault?, List.forall_mem_cons, List.map_cons, List.nodup_cons]
      by_cases hname : isRuleName r.id = true
      · by_cases hbuiltin : r.id ∈ Rule.builtin.map Rule.id
        · simp [hname, hbuiltin]
        · by_cases hbefore : r.id ∈ before
          · simp [hname, hbuiltin, hbefore]
          · rw [if_neg (by simp [hname]), if_neg (by simpa using hbuiltin),
              if_neg (by simpa using hbefore), ih]
            constructor
            · rintro ⟨hrest, hnodup⟩
              refine ⟨⟨⟨hname, hbuiltin, hbefore⟩, ?_⟩, ?_, hnodup⟩
              · intro s hs
                obtain ⟨hsname, hsbuiltin, hsbefore⟩ := hrest s hs
                exact ⟨hsname, hsbuiltin, fun h => hsbefore (List.mem_cons_of_mem _ h)⟩
              · intro hmem
                obtain ⟨s, hs, hsid⟩ := List.mem_map.mp hmem
                apply (hrest s hs).2.2
                rw [hsid]
                exact List.mem_cons_self
            · rintro ⟨⟨-, hrest⟩, hnew, hnodup⟩
              refine ⟨?_, hnodup⟩
              intro s hs
              obtain ⟨hsname, hsbuiltin, hsbefore⟩ := hrest s hs
              refine ⟨hsname, hsbuiltin, ?_⟩
              intro hmem
              rcases List.mem_cons.mp hmem with hsid | hmem
              · apply hnew
                rw [← hsid]
                exact List.mem_map_of_mem hs
              · exact hsbefore hmem
      · simp [hname]

/-- Rules are registered as they are, when their names are let in. -/
theorem register_eq_ok_iff (rules : List Rule) (reg : Registry) :
  Registry.register rules = .ok reg
    ↔ reg = ⟨rules⟩
      ∧ (∀ r ∈ rules, isRuleName r.id = true ∧ r.id ∉ Rule.builtin.map Rule.id)
      ∧ (rules.map Rule.id).Nodup
  := by
  have hnone := firstFault?_eq_none_iff [] rules
  simp only [List.not_mem_nil, not_false_eq_true, and_true] at hnone
  rw [← hnone, Registry.register]
  cases Registry.firstFault? [] rules with
  | none => simp [eq_comm]
  | some fault => simp

/-! ### Rules of a registry -/

theorem mem_rules_iff (reg : Registry) (r : Rule) :
  r ∈ reg.rules ↔ r ∈ Rule.builtin ∨ r ∈ reg.extra
  := by
  rw [Registry.rules, List.mem_mergeSort, List.mem_append]

/-- No two rules of a registry have the same name. -/
theorem nodup_ids_of_register {rules : List Rule} {reg : Registry}
    (h : Registry.register rules = .ok reg) :
  reg.ids.Nodup
  := by
  obtain ⟨rfl, hnames, hnodup⟩ := (register_eq_ok_iff rules reg).mp h
  have hperm : (Registry.ids ⟨rules⟩).Perm ((Rule.builtin ++ rules).map Rule.id) :=
    (List.mergeSort_perm _ _).map Rule.id
  rw [hperm.nodup_iff, List.map_append, List.nodup_append]
  refine ⟨by decide, hnodup, ?_⟩
  intro id hbuiltin id' hid heq
  subst heq
  obtain ⟨r, hr, rfl⟩ := List.mem_map.mp hid
  exact (hnames r hr).2 hbuiltin

/-- Every rule of a registry is called by a rule name. -/
theorem isRuleName_of_mem_rules {rules : List Rule} {reg : Registry}
    (h : Registry.register rules = .ok reg) {r : Rule} (hr : r ∈ reg.rules) :
  isRuleName r.id = true
  := by
  obtain ⟨rfl, hnames, -⟩ := (register_eq_ok_iff rules reg).mp h
  rcases (mem_rules_iff _ r).mp hr with hbuiltin | hextra
  · have hall : ∀ id ∈ Rule.builtin.map Rule.id, isRuleName id = true := by decide
    exact hall r.id (List.mem_map_of_mem hbuiltin)
  · exact (hnames r hextra).1

/-! ### Looking rules up -/

theorem find?_of_nodup_map {α β : Type} [DecidableEq β] {key : α → β} {l : List α}
    (h : (l.map key).Nodup) {a : α} (ha : a ∈ l) :
  l.find? (fun b => key b = key a) = some a
  := by
  induction l with
  | nil => cases ha
  | cons b l ih =>
      obtain ⟨hb, hl⟩ := List.nodup_cons.mp h
      rcases List.mem_cons.mp ha with rfl | ha
      · rw [List.find?_cons_of_pos (by simp)]
      · have hne : key b ≠ key a := by
          intro heq
          apply hb
          rw [heq]
          exact List.mem_map_of_mem ha
        rw [List.find?_cons_of_neg (by simpa using hne), ih hl ha]

/-- A rule as a project sees it. -/
def Rule.summary (r : Rule) (config : Config) : RuleSummary where
  about := r.about
  enabled := config.enables r.id
  severity := (config.ruleSettings r.id).severity.getD r.about.severity

theorem describe_eq_map (reg : Registry) (config : Config) :
  reg.describe config = reg.rules.map (·.summary config)
  := rfl

/-- A project finds every rule of a registry by its name. -/
theorem find?_describe_of_register {rules : List Rule} {reg : Registry}
    (h : Registry.register rules = .ok reg) {r : Rule} (hr : r ∈ reg.rules)
    (config : Config) :
  (reg.describe config).find? (fun s => s.about.id = r.id) = some (r.summary config)
  := by
  have hids : (reg.describe config).map (·.about.id) = reg.ids := by
    rw [describe_eq_map, List.map_map]
    rfl
  have hnodup : ((reg.describe config).map (·.about.id)).Nodup := by
    rw [hids]
    exact nodup_ids_of_register h
  exact find?_of_nodup_map (a := r.summary config) hnodup (List.mem_map_of_mem hr)

end SourceAudit
