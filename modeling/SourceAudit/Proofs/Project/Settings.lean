import SourceAudit.Project.Target
import SourceAudit.Proofs.Text.Utf8

/-!
# Settings that are loaded

How loading the settings of a project ends, for every content of the settings file.

* `configOfDocument_of_isSettingsTable`, `configOfDocument_of_not_isSettingsTable`: the table of
  the tool decides what a document sets, and without it nothing is set.
* `configOfOctets_eq`: octets of a text are read as the text, and octets of no text are
  undecodable.
* `loadConfig_of_settings_file`: a settings file that is a text ends in settings or in a fault
  of the settings, unless the reader of the format gives up.
* `loadConfig_of_undecodable_file`: a settings file that is no text ends in neither.
-/

namespace SourceAudit

open Text

/-! ### The table of the tool -/

/-- The table is what a document holds for the tool, and it is not empty. -/
def IsSettingsTable (document table : Entries) : Prop :=
  table ≠ [] ∧ ∃ tool : Entries, document.get? "tool" = some (.table tool)
    ∧ tool.get? "avesta" = some (.table table)

section

variable {document table : Entries}

theorem configOfDocument_of_isSettingsTable (h : IsSettingsTable document table) :
  configOfDocument document = Config.ofTable table
  := by
  obtain ⟨hne, tool, htool, htable⟩ := h
  rw [configOfDocument, htool]
  dsimp only
  rw [htable]
  cases table with
  | nil => exact absurd rfl hne
  | cons entry entries => rfl

theorem configOfDocument_of_not_isSettingsTable (h : ∀ table, ¬ IsSettingsTable document table) :
  configOfDocument document = .ok {}
  := by
  rw [configOfDocument]
  split
  · rename_i tool htool
    split
    · rfl
    · rename_i table hne htable
      apply absurd _ (h table)
      use hne, tool, htool
    · rfl
  · rfl

end

/-! ### The settings file -/

/-- What loading settings ends in when the reader of the format stops. -/
def ConfigLoadFault.ofReader (file : Path) : Toml.Fault → ConfigLoadFault
  | .malformed => .config (.malformedFile file.toText)
  | .tooManyDigits => .tooManyDigits
  | .tooDeep => .tooDeep

section

variable {d : Disk} {directory : Path} {octets : Octets}

theorem loadConfig_of_read (h : d.read (directory ++ settingsFile) = .ok octets) :
  loadConfig d directory = configOfOctets (directory ++ settingsFile) octets
  := by
  rw [loadConfig, h]

theorem configOfOctets_encode (file : Path) (text : List Char) :
  configOfOctets file (encode text)
    = match Toml.read (unifyBreaks text) with
      | .error fault => .error (.ofReader file fault)
      | .ok document => (configOfDocument document).mapError .config
  := by
  rw [configOfOctets, decodeStrict_eq_ok_iff.mpr rfl]
  dsimp only
  cases Toml.read (unifyBreaks text) with
  | error fault => cases fault <;> rfl
  | ok document => rfl

/-- Octets of no text are refused as undecodable. -/
theorem configOfOctets_of_ne_encode (file : Path) (h : ∀ text, octets ≠ encode text) :
  ∃ fault, configOfOctets file octets = .error (.undecodable fault)
  := by
  rw [configOfOctets]
  cases hdecoded : decodeStrict octets with
  | error fault => exact ⟨fault, rfl⟩
  | ok text => exact absurd (decodeStrict_eq_ok_iff.mp hdecoded) (h text)

end

/-- A fault of the settings or settings: nothing else comes of a document that is read. -/
theorem mapError_config_eq (result : Except ConfigFault Config) :
  (∃ config, result.mapError ConfigLoadFault.config = .ok config)
    ∨ ∃ fault, result.mapError ConfigLoadFault.config = .error (.config fault)
  := by
  cases result with
  | ok config => exact Or.inl ⟨config, rfl⟩
  | error fault => exact Or.inr ⟨fault, rfl⟩

/-- Without a settings file that can be read the standard settings are loaded. A settings file
that is a text, and that the reader of the format takes or finds malformed, ends in settings or
in a fault of the settings: in the standard settings when it holds no table of the tool, and in
what comes of that table when it does. Only a settings file that is no text ends as
undecodable. -/
theorem loadConfig_of_settings_file (d : Disk) (directory : Path) :
  (∀ fault, d.read (directory ++ settingsFile) = .error fault → loadConfig d directory = .ok {})
  ∧ (∀ octets, d.read (directory ++ settingsFile) = .ok octets → (∀ text, octets ≠ encode text) →
    ∃ fault, loadConfig d directory = .error (.undecodable fault))
  ∧ ∀ text, d.read (directory ++ settingsFile) = .ok (encode text) →
    ((∀ fault, Toml.read (unifyBreaks text) = .error fault → fault = .malformed) →
      (∃ config, loadConfig d directory = .ok config)
        ∨ ∃ fault, loadConfig d directory = .error (.config fault))
    ∧ (∀ fault, Toml.read (unifyBreaks text) = .error fault →
      loadConfig d directory = .error (.ofReader (directory ++ settingsFile) fault))
    ∧ ∀ document, Toml.read (unifyBreaks text) = .ok document →
      ((∀ table, ¬ IsSettingsTable document table) → loadConfig d directory = .ok {})
      ∧ ∀ table, IsSettingsTable document table →
        loadConfig d directory = (Config.ofTable table).mapError .config
  := by
  refine ⟨?_, ?_, ?_⟩
  · intro fault h
    rw [loadConfig, h]
  · intro octets h hnone
    rw [loadConfig_of_read h]
    exact configOfOctets_of_ne_encode _ hnone
  · intro text h
    rw [loadConfig_of_read h, configOfOctets_encode]
    refine ⟨?_, ?_, ?_⟩
    · intro hmalformed
      cases hread : Toml.read (unifyBreaks text) with
      | error fault =>
          rw [hmalformed fault hread]
          exact Or.inr ⟨_, rfl⟩
      | ok document => exact mapError_config_eq _
    · intro fault hread
      rw [hread]
    · intro document hread
      rw [hread]
      constructor
      · intro hnone
        dsimp only
        rw [configOfDocument_of_not_isSettingsTable hnone]
        rfl
      · intro table htable
        dsimp only
        rw [configOfDocument_of_isSettingsTable htable]

/-- One octet that begins no character ends neither in settings nor in a fault of the
settings. -/
theorem loadConfig_of_undecodable_file :
  let d : Disk := { files := [(["p", "pyproject.toml"], [0xFF])] }
  d.read (.absolute ["p"] ++ settingsFile) = .ok [0xFF]
  ∧ loadConfig d (.absolute ["p"]) = .error (.undecodable ⟨0xFF, 0, 1, "invalid start byte"⟩)
  ∧ ¬ ((∃ config, loadConfig d (.absolute ["p"]) = .ok config)
    ∨ ∃ fault, loadConfig d (.absolute ["p"]) = .error (.config fault))
  := by
  intro d
  have hread : d.read (.absolute ["p"] ++ settingsFile) = .ok [0xFF] := by decide +kernel
  have hload : loadConfig d (.absolute ["p"])
      = .error (.undecodable ⟨0xFF, 0, 1, "invalid start byte"⟩) := by
    rw [loadConfig_of_read hread]
    rfl
  refine ⟨hread, hload, ?_⟩
  rintro (⟨config, h⟩ | ⟨fault, h⟩)
  · rw [hload] at h
    cases h
  · rw [hload] at h
    cases h

end SourceAudit
