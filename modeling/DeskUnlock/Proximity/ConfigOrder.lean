import DeskUnlock.Proximity.Engine

/-!
# The order of the configuration lines

A line with another algorithm version empties the baseline that was read so
far.  `save_config` writes the version before the baseline, so the baseline of
another version is read back after all.
-/

namespace DeskUnlock.Proximity

open Texts

section

variable (line : Text)

/-- The line gives a baseline that the loader accepts. -/
def SetsBaseline : Prop :=
  (readPair line).1 = "baseline".toList ∧ isDecimal (readPair line).2 = true

def OtherVersion : Prop :=
  (readPair line).1 = "algorithm_version".toList ∧ (readPair line).2 ≠ ALGORITHM_VERSION

def NamesPeer : Prop := (readPair line).1 = "baseline_peer".toList

end

/-- Each baseline stands before a line with another version. -/
def Voided : List Text → Prop
  | [] => True
  | line :: rest => (SetsBaseline line → ∃ later ∈ rest, OtherVersion later) ∧ Voided rest

variable (loaded : LoadedConfig) (line : Text)

/-- What one line does to the baseline and to the mark of the first layout. -/
theorem readLine_cases :
    let after := loaded.readLine (readPair line).1 (readPair line).2
    (SetsBaseline line ∧ ¬ OtherVersion line ∧ after.config.baseline ≠ [] ∨
      OtherVersion line ∧ ¬ SetsBaseline line ∧ after.config.baseline = [] ∨
      ¬ SetsBaseline line ∧ ¬ OtherVersion line ∧ after.config.baseline = loaded.config.baseline) ∧
      (after.legacyPeer = true ↔ loaded.legacyPeer = true ∨ NamesPeer line) := by
  unfold SetsBaseline OtherVersion NamesPeer LoadedConfig.readLine
  generalize (readPair line).1 = key
  generalize (readPair line).2 = value
  have set : isDecimal value = true → value ≠ [] := by
    rintro decimal rfl
    cases decimal
  split_ifs <;> simp_all
  cases profileValid value <;> exact ⟨rfl, rfl⟩

/-- What the loop of `load_config` does to the baseline and to the mark. -/
theorem foldl_readLine (lines : List Text) :
    let after := lines.foldl
      (fun loaded line => loaded.readLine (readPair line).1 (readPair line).2) loaded
    (after.config.baseline = [] ↔
        Voided lines ∧ (loaded.config.baseline = [] ∨ ∃ line ∈ lines, OtherVersion line)) ∧
      (after.legacyPeer = true ↔ loaded.legacyPeer = true ∨ ∃ line ∈ lines, NamesPeer line) := by
  induction lines generalizing loaded with
  | nil => simp [Voided]
  | cons line rest induction =>
    obtain ⟨baseline, mark⟩ := induction (loaded.readLine (readPair line).1 (readPair line).2)
    obtain ⟨effect, marked⟩ := readLine_cases loaded line
    refine ⟨baseline.trans ?_, mark.trans ?_⟩
    · simp only [Voided, List.exists_mem_cons_iff]
      rcases effect with ⟨sets, other, after⟩ | ⟨other, sets, after⟩ | ⟨sets, other, after⟩
      · simp only [sets, other, after, false_or, true_imp_iff]
        exact ⟨fun ⟨voided, later⟩ => ⟨⟨later, voided⟩, .inr later⟩, fun ⟨⟨later, voided⟩, _⟩ =>
          ⟨voided, later⟩⟩
      · simp [sets, other, after]
      · simp [sets, other, after]
    · simp only [marked, List.exists_mem_cons_iff, or_assoc]

variable {engine : Engine} {text : Text}

/--
The loader leaves the baseline empty if and only if the file is of the first
layout or each baseline in it stands before a line with another version.
-/
theorem loadConfig_baseline_eq_nil_iff (saved : Bool) (file : engine.configFile = some text) :
    (engine.loadConfig saved).config.baseline = [] ↔
      (∃ line ∈ (segments text).1, NamesPeer line) ∨ Voided (segments text).1 := by
  obtain ⟨baseline, mark⟩ := foldl_readLine {} (segments text).1
  have voided : (readConfig (some text)).config.baseline = [] ↔ Voided (segments text).1 :=
    baseline.trans (and_iff_left (.inl rfl))
  have marked : (readConfig (some text)).legacyPeer = true ↔
      ∃ line ∈ (segments text).1, NamesPeer line :=
    mark.trans (or_iff_right nofun)
  unfold Engine.loadConfig Engine.saveConfig
  rw [file, ← marked, ← voided]
  split_ifs with legacy <;> simp [legacy]

/-- The version behind the baseline takes it back. -/
theorem version_last_voids :
    (Engine.loadConfig true
      { configFile := some "baseline=-60\nalgorithm_version=2\n".toList
        runtimeFile := none }).config.baseline = [] := by
  refine (loadConfig_baseline_eq_nil_iff true rfl).mpr (.inr ?_)
  change Voided ["baseline=-60".toList, "algorithm_version=2".toList]
  exact ⟨fun _ => ⟨_, List.mem_cons_self, by decide, by decide⟩,
    fun sets => absurd sets.1 (by decide), trivial⟩

/-- A baseline of version 2, in a file as `save_config` writes it, is used. -/
theorem other_version_loaded :
    OtherVersion "algorithm_version=2".toList ∧
      (Engine.loadConfig true
        { configFile := some
            "algorithm_version=2\nenabled=1\nprofile=balanced\nbaseline=-60.00\n".toList
          runtimeFile := none }).config.baseline = "-60.00".toList :=
  ⟨⟨by decide, by decide⟩, by decide +kernel⟩

end DeskUnlock.Proximity
