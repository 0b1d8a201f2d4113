import SourceAudit.Config.Options
import SourceAudit.Proofs.Config.Writing

/-!
# Options that are accepted

The options of a rule are accepted exactly when each entry is an option the rule takes, with a
value of its kind, and otherwise the first entry that is not decides the fault. Of the entries
of one option the last counts.

* `isReadAs_or_isValueFault`: a value is read, or there is a fault of it.
* `exists_areReadOver`, `readOptionsInto_of_isFirstOptionFault`: what becomes of a table whose
  entries all fit, and of one with an entry that does not.
* `exists_readOptions_iff`, `readOptions_eq_error_iff`: when options are accepted, and what is
  at fault otherwise.
-/

namespace SourceAudit

open Text

/-! ### The options a rule takes -/

/-- A value that tells a kind of options: truth values, whole numbers or lists. -/
def Value.IsOptionDefault : Value → Prop
  | .bool _ => True
  | .int _ => True
  | .list _ => True
  | _ => False

/-- The options a rule takes differ in name, and each is of a kind that can be checked. -/
structure IsOptionClass (fields : Entries) : Prop where
  nodup : (fields.map (·.1)).Nodup
  kinds : ∀ field ∈ fields, field.2.IsOptionDefault

/-- The value is read as `w` where an option has the default given first. -/
inductive IsReadAs : Value → Value → Value → Prop where
  | bool (default b : Bool) :
      IsReadAs (.bool default) (.bool b) (.bool b)
  | int (default : Int) {n : Int} (h : 0 ≤ n) :
      IsReadAs (.int default) (.int n) (.int n)
  | texts (default : List Value) (written : List String) :
      IsReadAs (.list default) (.ofTexts written) (.ofTexts (written.map trimmed))
  | null (default : List Value) :
      IsReadAs (.list default) .null (.ofTexts [])

/-- The fault of a value that is not of the kind of its option. -/
inductive IsValueFault (setting : String) : Value → Value → ConfigFault → Prop where
  | notBoolean (default : Bool) {v : Value} (h : ∀ b, v ≠ .bool b) :
      IsValueFault setting (.bool default) v (.notBoolean setting)
  | notInteger (default : Int) {v : Value} (h : ∀ n, v ≠ .int n) :
      IsValueFault setting (.int default) v (.notInteger setting)
  | negative (default : Int) {n : Int} (h : n < 0) :
      IsValueFault setting (.int default) (.int n) (.negative setting)
  | notTexts (default : List Value) {v : Value} (hnull : v ≠ .null)
      (h : ∀ written, v ≠ .ofTexts written) :
      IsValueFault setting (.list default) v (.notTexts setting)

/-! ### Single values -/

theorem trimmedTexts_ofTexts (setting : String) (written : List String) :
  Section.trimmedTexts setting (.ofTexts written) = .ok (written.map trimmed)
  := (trimmedTexts_eq_ok_iff _ _ _).mpr ⟨written, rfl, .inl rfl⟩

theorem trimmedTexts_of_not_ofTexts {v : Value} (hnull : v ≠ .null)
    (h : ∀ written, v ≠ .ofTexts written) (setting : String) :
  Section.trimmedTexts setting v = .error (.notTexts setting)
  := by
  have hnone : v.texts? = none := by
    rw [Option.eq_none_iff_forall_ne_some]
    intro written hwritten
    exact h written ((texts?_eq_some_iff _ _).mp hwritten)
  rw [Section.trimmedTexts.eq_def]
  split
  · exact absurd rfl hnull
  · rw [hnone]

section

variable {default v w : Value} {fault : ConfigFault} {setting : String}

theorem readOption_of_isReadAs (h : IsReadAs default v w) (setting : String) :
  readOption setting default v = .ok w
  := by
  cases h with
  | bool default b => rfl
  | int default hn => exact if_neg (Int.not_lt.mpr hn)
  | texts default written =>
      rw [readOption, trimmedTexts_ofTexts]
      rfl
  | null default => rfl

theorem readOption_of_isValueFault (h : IsValueFault setting default v fault) :
  readOption setting default v = .error fault
  := by
  cases h with
  | notBoolean default h =>
      cases v with
      | bool b => exact absurd rfl (h b)
      | _ => rfl
  | notInteger default h =>
      cases v with
      | int n => exact absurd rfl (h n)
      | _ => rfl
  | negative default hn => exact if_pos hn
  | notTexts default hnull h =>
      rw [readOption, trimmedTexts_of_not_ofTexts hnull h]
      rfl

/-- A value is of the kind of its option, or else there is a fault. -/
theorem isReadAs_or_isValueFault (hdefault : default.IsOptionDefault) (setting : String)
    (v : Value) :
  (∃ w, IsReadAs default v w) ∨ ∃ fault, IsValueFault setting default v fault
  := by
  cases default with
  | bool default =>
      by_cases h : ∃ b, v = .bool b
      · obtain ⟨b, rfl⟩ := h
        exact .inl ⟨_, .bool default b⟩
      · exact .inr ⟨_, .notBoolean default fun b hb => h ⟨b, hb⟩⟩
  | int default =>
      by_cases h : ∃ n, v = .int n
      · obtain ⟨n, rfl⟩ := h
        rcases lt_or_ge n 0 with hn | hn
        · exact .inr ⟨_, .negative default hn⟩
        · exact .inl ⟨_, .int default hn⟩
      · exact .inr ⟨_, .notInteger default fun n hn => h ⟨n, hn⟩⟩
  | list default =>
      by_cases h : ∃ written, v = .ofTexts written
      · obtain ⟨written, rfl⟩ := h
        exact .inl ⟨_, .texts default written⟩
      · by_cases hnull : v = .null
        · rw [hnull]
          exact .inl ⟨_, .null default⟩
        · exact .inr ⟨_, .notTexts default hnull fun written hv => h ⟨written, hv⟩⟩
  | null => exact hdefault.elim
  | decimal d => exact hdefault.elim
  | time t => exact hdefault.elim
  | text t => exact hdefault.elim
  | table entries => exact hdefault.elim

end

/-! ### Tables of options -/

/-- The entry is an option that the rule takes, with a value of its kind. -/
def Fits (fields : Entries) (entry : String × Value) : Prop :=
  ∃ default w, fields.get? (optionName entry.1) = some default ∧ IsReadAs default entry.2 w

/-- The fault of an entry that is no option of the rule, or has a value of another kind. -/
inductive IsOptionFault (fields : Entries) (setting : String) :
    String × Value → ConfigFault → Prop where
  | unknown {key : String} {v : Value} (h : fields.get? (optionName key) = none) :
      IsOptionFault fields setting (key, v) (.unknownOption setting key (shownOptions fields))
  | value {key : String} {v default : Value} {fault : ConfigFault}
      (hget : fields.get? (optionName key) = some default)
      (h : IsValueFault (setting ++ "." ++ key) default v fault) :
      IsOptionFault fields setting (key, v) fault

/-- The fault is that of the first entry that does not fit. -/
def IsFirstOptionFault (fields : Entries) (setting : String) (raw : Entries)
    (fault : ConfigFault) : Prop :=
  ∃ before entry after, raw = before ++ entry :: after ∧ (∀ e ∈ before, Fits fields e)
    ∧ IsOptionFault fields setting entry fault

/-- The last entry of an option, under any spelling of its name. -/
def lastGiven? (raw : Entries) (name : String) : Option (String × Value) :=
  raw.reverse.find? fun entry => optionName entry.1 = name

/-- The values of options are what a table says on top of other values: the last entry of an
option counts, and an option without one keeps its value. -/
structure AreReadOver (fields before raw values : Entries) : Prop where
  keys : values.map (·.1) = before.map (·.1)
  absent : ∀ name ∈ fields.map (·.1), lastGiven? raw name = none →
    values.get? name = before.get? name
  present : ∀ name default entry, fields.get? name = some default →
    lastGiven? raw name = some entry →
    ∃ w, IsReadAs default entry.2 w ∧ values.get? name = some w

theorem lastGiven?_cons (entry : String × Value) (raw : Entries) (name : String) :
  lastGiven? (entry :: raw) name
    = (lastGiven? raw name).or (if optionName entry.1 = name then some entry else none)
  := by
  rw [lastGiven?, List.reverse_cons, List.find?_append, List.find?_singleton, lastGiven?]
  simp

theorem mem_keys_of_get? {entries : Entries} {key : String} {v : Value}
    (h : entries.get? key = some v) :
  key ∈ entries.map (·.1)
  := by
  obtain ⟨before, after, hsplit, -⟩ := List.lookup_eq_some_iff.mp h
  rw [hsplit]
  simp

section

variable {fields raw : Entries} {setting : String}

theorem fits_or_isOptionFault (h : IsOptionClass fields) (setting : String)
    (entry : String × Value) :
  Fits fields entry ∨ ∃ fault, IsOptionFault fields setting entry fault
  := by
  obtain ⟨key, v⟩ := entry
  cases hget : fields.get? (optionName key) with
  | none => exact .inr ⟨_, .unknown hget⟩
  | some default =>
      have hkind : default.IsOptionDefault := by
        obtain ⟨before, after, hsplit, -⟩ := List.lookup_eq_some_iff.mp hget
        apply h.kinds (optionName key, default)
        rw [hsplit]
        simp
      rcases isReadAs_or_isValueFault hkind (setting ++ "." ++ key) v with ⟨w, hw⟩ | ⟨fault, hfault⟩
      · exact .inl ⟨default, w, hget, hw⟩
      · exact .inr ⟨fault, .value hget hfault⟩

/-! ### Reading entry by entry -/

theorem readOptionsInto_cons_of_isReadAs {key : String} {v default w : Value}
    (hget : fields.get? (optionName key) = some default) (h : IsReadAs default v w)
    (values rest : Entries) :
  readOptionsInto fields setting values ((key, v) :: rest)
    = readOptionsInto fields setting (values.put (optionName key) w) rest
  := by
  rw [readOptionsInto, hget]
  dsimp only
  rw [readOption_of_isReadAs h]

theorem readOptionsInto_cons_of_isOptionFault {entry : String × Value} {fault : ConfigFault}
    (h : IsOptionFault fields setting entry fault) (values rest : Entries) :
  readOptionsInto fields setting values (entry :: rest) = .error fault
  := by
  cases h with
  | unknown h => rw [readOptionsInto, h]
  | value hget h =>
      rw [readOptionsInto, hget]
      dsimp only
      rw [readOption_of_isValueFault h]

/-- The first entry that does not fit decides the fault. -/
theorem readOptionsInto_of_isFirstOptionFault {raw : Entries} {fault : ConfigFault}
    (h : IsFirstOptionFault fields setting raw fault) (values : Entries) :
  readOptionsInto fields setting values raw = .error fault
  := by
  obtain ⟨before, entry, after, rfl, hbefore, hfault⟩ := h
  induction before generalizing values with
  | nil => exact readOptionsInto_cons_of_isOptionFault hfault values after
  | cons first before ih =>
      obtain ⟨⟨default, w, hget, hw⟩, hrest⟩ := List.forall_mem_cons.mp hbefore
      rw [List.cons_append, readOptionsInto_cons_of_isReadAs hget hw]
      exact ih _ hrest

/-- Entries that all fit are read. -/
theorem exists_areReadOver {raw : Entries} (h : ∀ entry ∈ raw, Fits fields entry)
    (setting : String) (before : Entries)
    (hkeys : ∀ name ∈ fields.map (·.1), name ∈ before.map (·.1)) :
  ∃ values, readOptionsInto fields setting before raw = .ok values
    ∧ AreReadOver fields before raw values
  := by
  induction raw generalizing before with
  | nil =>
      use before, rfl
      exact ⟨rfl, fun _ _ _ => rfl, fun _ _ _ _ hlast => nomatch hlast⟩
  | cons entry raw ih =>
      obtain ⟨⟨default, w, hget, hw⟩, hrest⟩ := List.forall_mem_cons.mp h
      have hname : optionName entry.1 ∈ before.map (·.1) := hkeys _ (mem_keys_of_get? hget)
      have hput : (before.put (optionName entry.1) w).map (·.1) = before.map (·.1) := by
        rw [keys_put, if_pos hname]
      obtain ⟨values, hread, hover⟩ := ih hrest (before.put (optionName entry.1) w)
        (by rw [hput]; exact hkeys)
      use values
      rw [readOptionsInto_cons_of_isReadAs hget hw]
      use hread
      constructor
      · rw [hover.keys, hput]
      · intro name hmem hlast
        rw [lastGiven?_cons, Option.or_eq_none_iff] at hlast
        obtain ⟨hlast, hother⟩ := hlast
        rw [hover.absent name hmem hlast, Entries.get?_put_of_ne]
        rintro rfl
        rw [if_pos rfl] at hother
        cases hother
      · intro name default' entry' hget' hlast
        rw [lastGiven?_cons, Option.or_eq_some_iff] at hlast
        rcases hlast with hlast | ⟨hlast, hown⟩
        · exact hover.present name default' entry' hget' hlast
        · split at hown
          · rename_i hname
            cases hown
            subst hname
            rw [hget, Option.some_inj] at hget'
            subst hget'
            use w, hw
            rw [hover.absent _ (mem_keys_of_get? hget) hlast, Entries.get?_put_self]
          · cases hown

/-- Either all entries fit, or there is a first one that does not. -/
theorem forall_fits_or_isFirstOptionFault (h : IsOptionClass fields) (setting : String)
    (raw : Entries) :
  (∀ entry ∈ raw, Fits fields entry) ∨ ∃ fault, IsFirstOptionFault fields setting raw fault
  := by
  induction raw with
  | nil => exact .inl fun entry hentry => nomatch hentry
  | cons entry raw ih =>
      rcases fits_or_isOptionFault h setting entry with hfits | ⟨fault, hfault⟩
      · rcases ih with hall | ⟨fault, before, later, after, rfl, hbefore, hfault⟩
        · exact .inl (List.forall_mem_cons.mpr ⟨hfits, hall⟩)
        · right
          use fault, entry :: before, later, after, rfl
          exact ⟨List.forall_mem_cons.mpr ⟨hfits, hbefore⟩, hfault⟩
      · right
        use fault, [], entry, raw, rfl
        exact ⟨List.forall_mem_nil _, hfault⟩

theorem exists_readOptions (h : ∀ entry ∈ raw, Fits fields entry) (setting : String) :
  ∃ values, readOptions fields setting raw = .ok values
    ∧ AreReadOver fields fields raw values
  := exists_areReadOver h setting fields fun _ hname => hname

theorem readOptions_eq_error_iff (h : IsOptionClass fields) (raw : Entries)
    (fault : ConfigFault) :
  readOptions fields setting raw = .error fault ↔ IsFirstOptionFault fields setting raw fault
  := by
  constructor
  · intro hread
    rcases forall_fits_or_isFirstOptionFault h setting raw with hall | ⟨fault', hfirst⟩
    · obtain ⟨values, hvalues, -⟩ := exists_readOptions hall setting
      rw [hvalues] at hread
      cases hread
    · rw [readOptions, readOptionsInto_of_isFirstOptionFault hfirst] at hread
      cases hread
      exact hfirst
  · exact fun hfirst => readOptionsInto_of_isFirstOptionFault hfirst fields

theorem exists_readOptions_iff (h : IsOptionClass fields) (raw : Entries) :
  (∃ values, readOptions fields setting raw = .ok values) ↔ ∀ entry ∈ raw, Fits fields entry
  := by
  constructor
  · rintro ⟨values, hread⟩
    rcases forall_fits_or_isFirstOptionFault h setting raw with hall | ⟨fault, hfirst⟩
    · exact hall
    · rw [(readOptions_eq_error_iff h raw fault).mpr hfirst] at hread
      cases hread
  · intro hall
    obtain ⟨values, hread, -⟩ := exists_readOptions hall setting
    exact ⟨values, hread⟩

theorem areReadOver_of_readOptions (h : IsOptionClass fields) {raw values : Entries}
    (hread : readOptions fields setting raw = .ok values) :
  AreReadOver fields fields raw values
  := by
  have hall := (exists_readOptions_iff h raw).mp ⟨values, hread⟩
  obtain ⟨values', hread', hover⟩ := exists_readOptions hall setting
  rw [hread] at hread'
  cases hread'
  exact hover

end

end SourceAudit
