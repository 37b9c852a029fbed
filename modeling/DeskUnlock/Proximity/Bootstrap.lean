import DeskUnlock.Foundation.Runs
import DeskUnlock.Proximity.Arithmetic
import DeskUnlock.Proximity.Engine

/-!
# The first baseline

Without a baseline the engine gathers samples until there are three, and takes
their average if they lie within eight decibels.  The range it compares with
eight is the minimum less the maximum, so it is never above zero: any three
samples make a baseline, and the bootstrap never restarts.
-/

namespace DeskUnlock.Proximity

open Texts Rounding Runs List

/-- A mean of readings of 32 bits with two decimals, as `write_rssi_state` writes it. -/
structure Signal (text : Text) : Prop where
  twoDecimals : TwoDecimals text
  bounded : |cents text| ≤ 214748364800

theorem Signal.fits {text : Text} (signal : Signal text) : Fits (cents text) :=
  signal.bounded.trans_lt (by decide)

/-- The engine, and the samples it has gathered since the bootstrap last restarted. -/
structure Bootstrap where
  engine : Engine
  samples : List Text

namespace Bootstrap

/-- The filtered value of a sample that is newer than the last one. -/
def newSample? (last : Nat) (reading : Reading) : Option (Text × Nat) :=
  reading.readRssiSample.filter fun sample => decide (last < sample.2)

/-- While there is no baseline, `process_rssi` is called with each reading. -/
def step (boot : Bootstrap) (reading : Reading) : Bootstrap :=
  if boot.engine.config.baseline = [] then
    { engine := boot.engine.processRssi reading
      samples :=
        match newSample? boot.engine.runtime.lastSampleMs reading with
        | none => boot.samples
        | some (filtered, _) =>
          if (boot.engine.processRssi reading).runtime.bootstrapCount = 1 then [filtered]
          else boot.samples ++ [filtered] }
  else boot

/-- The new samples among the readings, after one of this time. -/
def newSamples : Nat → List Reading → List Text
  | _, [] => []
  | last, reading :: rest =>
    match newSample? last reading with
    | none => newSamples last rest
    | some (filtered, sampleMs) => filtered :: newSamples sampleMs rest

/-- No two samples are more than eight decibels apart. -/
def Close (samples : List Text) : Prop :=
  ∀ first ∈ samples, ∀ second ∈ samples, value first - value second ≤ 8

variable (boot : Bootstrap)

/-- A baseline is the rounded average of three or more samples close to each other. -/
def Justified : Prop :=
  boot.engine.config.baseline ≠ [] → 3 ≤ boot.samples.length ∧ Close boot.samples ∧
    value boot.engine.config.baseline =
      halfAway (100 * ((boot.samples.map value).sum / boot.samples.length)) / 100

/-- The accumulated values are those of the samples. -/
structure Gathers (rt : Runtime) (samples : List Text) : Prop where
  count : rt.bootstrapCount = samples.length
  sum : cents rt.bootstrapSum = (samples.map cents).sum
  extremes : samples ≠ [] → rt.bootstrapMin ∈ samples ∧ rt.bootstrapMax ∈ samples ∧
    ∀ sample ∈ samples, cents rt.bootstrapMin ≤ cents sample ∧ cents sample ≤ cents rt.bootstrapMax

/-- Without a baseline fewer than three samples are gathered; it is the average of three. -/
structure Sound : Prop where
  signals : ∀ sample ∈ boot.samples, Signal sample
  gathers : boot.engine.config.baseline = [] →
    Gathers boot.engine.runtime boot.samples ∧ boot.samples.length < 3
  average : boot.engine.config.baseline ≠ [] → boot.samples.length = 3 ∧
    value boot.engine.config.baseline =
      halfAway (100 * ((boot.samples.map value).sum / boot.samples.length)) / 100

variable {boot} {rt : Runtime} {samples : List Text} {sample : Text}

theorem abs_sum_le (signals : ∀ sample ∈ samples, Signal sample) :
    |(samples.map cents).sum| ≤ samples.length * 214748364800 := by
  induction samples with
  | nil => simp
  | cons sample rest induction =>
    have head := (signals _ mem_cons_self).bounded
    have tail := induction fun _ mem => signals _ (mem_cons_of_mem _ mem)
    have both := abs_add_le (cents sample) (rest.map cents).sum
    rw [map_cons, sum_cons, length_cons]
    push_cast
    linarith

theorem sum_cents (signals : ∀ sample ∈ samples, Signal sample) :
    ((samples.map cents).sum : ℚ) = 100 * (samples.map value).sum := by
  induction samples with
  | nil => simp
  | cons sample rest induction =>
    have head := cents_eq (signals _ mem_cons_self).twoDecimals.2.2
    have tail := induction fun _ mem => signals _ (mem_cons_of_mem _ mem)
    rw [map_cons, map_cons, sum_cons, sum_cons, Int.cast_add, head, tail, mul_add]

theorem Gathers.add (gathers : Gathers rt samples) (few : samples.length < 3)
    (signals : ∀ other ∈ samples ++ [sample], Signal other) :
    Gathers (rt.bootstrapSample sample) (samples ++ [sample]) := by
  have signal : Signal sample := signals _ (mem_append_right _ mem_cons_self)
  have earlier : ∀ other ∈ samples, Signal other := fun _ mem => signals _ (mem_append_left _ mem)
  have small := abs_sum_le earlier
  refine ⟨?_, ?_, fun _ => ?_⟩
  · simp [Runtime.bootstrapSample, gathers.count]
  · have more : |cents rt.bootstrapSum| ≤ 3 * 214748364800 := by
      rw [gathers.sum]
      refine small.trans ?_
      have : (samples.length : Int) ≤ 3 := by omega
      linarith
    have both := abs_add_le (cents rt.bootstrapSum) (cents sample)
    have own := signal.bounded
    have added : cents (floatAdd rt.bootstrapSum sample) = _ :=
      cents_floatAdd (more.trans_lt (by decide)) signal.fits (both.trans_lt (by linarith))
    simp [Runtime.bootstrapSample, added, gathers.sum]
  · by_cases empty : samples = []
    · have count : rt.bootstrapCount = 0 := by simp [gathers.count, empty]
      simp [Runtime.bootstrapSample, count, empty]
    · obtain ⟨least, most, bounds⟩ := gathers.extremes empty
      have count : rt.bootstrapCount ≠ 0 := by simp [gathers.count, empty]
      have lower := floatLe_iff signal.fits (earlier _ least).fits
      have upper := floatLe_iff (earlier _ most).fits signal.fits
      have raise : floatGe sample rt.bootstrapMax = floatLe rt.bootstrapMax sample := rfl
      simp only [Runtime.bootstrapSample, count, false_or, raise, lower, upper]
      refine ⟨by split_ifs <;> simp [least], by split_ifs <;> simp [most], fun other mem => ?_⟩
      rcases mem_append.mp mem with old | new
      · have within := bounds other old
        constructor <;> split_ifs <;> omega
      · rw [mem_singleton.mp new]
        constructor <;> split_ifs <;> omega

theorem unscale100_ne_nil {scaled : Int} : unscale100 scaled ≠ [] := by
  unfold unscale100 hundredths
  split_ifs <;> simp

/-- The minimum less the maximum is not above eight. -/
theorem Gathers.floatLe_range (gathers : Gathers rt samples) (gathered : samples ≠ [])
    (signals : ∀ sample ∈ samples, Signal sample) :
    floatLe (floatRange rt.bootstrapMin rt.bootstrapMax)
      BASELINE_BOOTSTRAP_MAX_RANGE_DB = true := by
  obtain ⟨least, most, bounds⟩ := gathers.extremes gathered
  have ordered := (bounds _ least).2
  have low := signals _ least
  have high := signals _ most
  have fits : Fits (cents rt.bootstrapMin - cents rt.bootstrapMax) :=
    (abs_sub _ _).trans_lt (by linarith [low.bounded, high.bounded])
  have eight : cents BASELINE_BOOTSTRAP_MAX_RANGE_DB = 800 := by decide
  rw [floatRange_eq low.fits high.fits fits, floatLe_iff (by rwa [cents_unscale100 fits])
    (by norm_num [Fits, eight]), cents_unscale100 fits, eight]
  omega

theorem Gathers.value_floatAverage (gathers : Gathers rt samples) (three : samples.length = 3)
    (signals : ∀ sample ∈ samples, Signal sample) :
    value (floatAverage rt.bootstrapSum rt.bootstrapCount) =
      halfAway (100 * ((samples.map value).sum / samples.length)) / 100 := by
  have small := abs_sum_le signals
  rw [← gathers.sum, three] at small
  have wide : Fits (|cents rt.bootstrapSum| + (3 / 2 : Nat)) := by
    rw [Fits, abs_of_nonneg (by positivity)]
    push_cast at small
    omega
  have scaled : scale100 rt.bootstrapSum = cents rt.bootstrapSum :=
    scale100_of_fits (fits_of_wider (by decide) wide)
  rw [floatAverage, gathers.count, three, if_neg (by decide), scaled,
    value_unscale100 (fits_roundedDiv (by decide) wide), roundedDiv_eq (by decide) wide,
    gathers.sum, sum_cents signals, mul_div_assoc]

/-- A new sample joins the others, and three of them make a baseline. -/
theorem step_sound (sound : boot.Sound) (empty : boot.engine.config.baseline = [])
    {reading : Reading} {sampleMs : Nat}
    (new : newSample? boot.engine.runtime.lastSampleMs reading = some (sample, sampleMs))
    (signal : Signal sample) :
    (boot.step reading).Sound ∧ (boot.step reading).samples = boot.samples ++ [sample] ∧
      ((boot.step reading).engine.config.baseline = [] →
        (boot.step reading).engine.runtime.lastSampleMs = sampleMs) := by
  obtain ⟨read, later⟩ := Option.filter_eq_some_iff.mp new
  have later : ¬ sampleMs ≤ boot.engine.runtime.lastSampleMs := by simpa using later
  obtain ⟨gathers, few⟩ := sound.gathers empty
  have signals : ∀ other ∈ boot.samples ++ [sample], Signal other := by
    intro other mem
    rcases mem_append.mp mem with old | new
    · exact sound.signals _ old
    · exact mem_singleton.mp new ▸ signal
  let eng := boot.engine.update fun rt => { rt with lastSampleMs := sampleMs }
  have processed : boot.engine.processRssi reading =
      (eng.bootstrapBaseline reading.configSaved sample).update (Runtime.enter .near) := by
    unfold Engine.processRssi
    simp only [read]
    rw [if_neg later]
    exact if_pos empty
  have gathered : Gathers eng.runtime boot.samples := ⟨gathers.count, gathers.sum, gathers.extremes⟩
  have added := gathered.add few signals
  have length : (boot.samples ++ [sample]).length = boot.samples.length + 1 := by simp
  have count := added.count
  unfold step
  simp only [if_pos empty, new, processed]
  by_cases enough : boot.samples.length + 1 < 3
  · have after : eng.bootstrapBaseline reading.configSaved sample =
        eng.update (Runtime.bootstrapSample sample) :=
      if_pos (by rw [Engine.update, count, length]; exact enough)
    have first : boot.samples.length + 1 = 1 → boot.samples = [] := fun one =>
      length_eq_zero_iff.mp (by omega)
    have same : (if (eng.runtime.bootstrapSample sample).bootstrapCount = 1
        then [sample] else boot.samples ++ [sample]) = boot.samples ++ [sample] := by
      split_ifs with one
      · rw [first (by rwa [count, length] at one)]
        rfl
      · rfl
    rw [after]
    refine ⟨?_, same, fun _ => rfl⟩
    change Sound ⟨_, if (eng.runtime.bootstrapSample sample).bootstrapCount = 1 then _ else _⟩
    rw [same]
    refine ⟨signals, fun _ => ⟨?_, by rwa [length]⟩, fun set => (set empty).elim⟩
    exact ⟨added.count, added.sum, added.extremes⟩
  · have three : (boot.samples ++ [sample]).length = 3 := by omega
    have after :
        (eng.bootstrapBaseline reading.configSaved sample).config.baseline =
            floatAverage (eng.runtime.bootstrapSample sample).bootstrapSum
              (eng.runtime.bootstrapSample sample).bootstrapCount ∧
          (eng.bootstrapBaseline reading.configSaved sample).runtime.bootstrapCount = 0 := by
      unfold Engine.bootstrapBaseline Engine.bootstrapFinish Engine.update
      rw [if_neg (by rw [count, three]; decide), if_pos (added.floatLe_range (by simp) signals)]
      unfold Engine.saveConfig
      split_ifs <;> exact ⟨rfl, rfl⟩
    have set : (eng.bootstrapBaseline reading.configSaved sample).config.baseline ≠ [] := by
      rw [after.1, floatAverage, count, three]
      exact unscale100_ne_nil
    have restarts :
        ((eng.bootstrapBaseline reading.configSaved sample).update
          (Runtime.enter .near)).runtime.bootstrapCount ≠ 1 := by
      change (eng.bootstrapBaseline reading.configSaved sample).runtime.bootstrapCount ≠ 1
      rw [after.2]
      decide
    rw [if_neg restarts]
    have average := added.value_floatAverage three signals
    refine ⟨⟨signals, fun none => (set none).elim, fun _ => ⟨three, ?_⟩⟩, rfl, fun none =>
      (set none).elim⟩
    change value (eng.bootstrapBaseline reading.configSaved sample).config.baseline = _
    rw [after.1, average]

theorem step_of_old (empty : boot.engine.config.baseline = []) {reading : Reading}
    (old : newSample? boot.engine.runtime.lastSampleMs reading = none) :
    boot.step reading = boot := by
  have unread : boot.engine.processRssi reading = boot.engine := by
    unfold Engine.processRssi
    cases read : reading.readRssiSample with
    | none => rfl
    | some sample =>
      have earlier := Option.filter_eq_none_iff.mp old _ read
      exact if_pos (by simpa using earlier)
  unfold step
  rw [if_pos empty, unread, old]

theorem run_of_set (set : boot.engine.config.baseline ≠ []) {readings : List Reading} :
    run step boot readings = boot := by
  induction readings with
  | nil => rfl
  | cons reading rest induction => rw [run_cons, step, if_neg set, induction]

/-- The samples of the bootstrap are the first three new ones. -/
theorem run_sound (sound : boot.Sound) (empty : boot.engine.config.baseline = [])
    {readings : List Reading}
    (signals : ∀ reading ∈ readings, ∀ filtered sampleMs,
      reading.readRssiSample = some (filtered, sampleMs) → Signal filtered) :
    (run step boot readings).Sound ∧
      (run step boot readings).samples =
        (boot.samples ++ newSamples boot.engine.runtime.lastSampleMs readings).take 3 := by
  induction readings generalizing boot with
  | nil =>
    refine ⟨sound, ?_⟩
    have few := (sound.gathers empty).2
    rw [newSamples, append_nil]
    exact (take_of_length_le few.le).symm
  | cons reading rest induction =>
    have later := fun other mem => signals other (mem_cons_of_mem _ mem)
    rw [run_cons, newSamples]
    cases new : newSample? boot.engine.runtime.lastSampleMs reading with
    | none =>
      rw [step_of_old empty new]
      exact induction sound empty later
    | some found =>
      obtain ⟨sample, sampleMs⟩ := found
      have read := (Option.filter_eq_some_iff.mp new).1
      obtain ⟨next, joined, last⟩ := step_sound sound empty new (signals _ mem_cons_self _ _ read)
      have appended (more : List Text) :
          boot.samples ++ sample :: more = (boot.step reading).samples ++ more := by
        rw [joined, append_assoc]
        rfl
      by_cases unset : (boot.step reading).engine.config.baseline = []
      · have rest := induction next unset later
        rw [last unset] at rest
        dsimp only
        rw [appended]
        exact rest
      · rw [run_of_set unset]
        refine ⟨next, ?_⟩
        have three := (next.average unset).1
        dsimp only
        rw [appended, take_append_of_le_length three.ge]
        exact (take_of_length_le three.le).symm

/--
A baseline is established as it should be if and only if there are fewer than
three new samples, or the first three are close to each other.
-/
theorem justified_iff_close (eng : Engine) (none : eng.config.baseline = [])
    (cleared : eng.runtime = eng.runtime.bootstrapClear) (readings : List Reading)
    (signals : ∀ reading ∈ readings, ∀ filtered sampleMs,
      reading.readRssiSample = some (filtered, sampleMs) → Signal filtered) :
    (run step ⟨eng, []⟩ readings).Justified ↔
      (newSamples eng.runtime.lastSampleMs readings).length < 3 ∨
        Close ((newSamples eng.runtime.lastSampleMs readings).take 3) := by
  have fresh : Sound ⟨eng, []⟩ := by
    refine ⟨nofun, fun _ => ⟨⟨?_, ?_, nofun⟩, by simp⟩, fun set => (set none).elim⟩
    · rw [cleared]
      rfl
    · rw [cleared]
      rfl
  obtain ⟨sound, samples⟩ := run_sound fresh none signals
  change _ = (newSamples eng.runtime.lastSampleMs readings).take 3 at samples
  rw [← samples]
  by_cases set : (run step ⟨eng, []⟩ readings).engine.config.baseline = []
  · refine iff_of_true (fun other => (other set).elim) (.inl ?_)
    have few := (sound.gathers set).2
    rw [samples, length_take] at few
    omega
  · obtain ⟨three, average⟩ := sound.average set
    have enough : ¬ (newSamples eng.runtime.lastSampleMs readings).length < 3 := by
      rw [samples, length_take] at three
      omega
    rw [or_iff_right enough]
    constructor
    · exact fun justified => (justified set).2.1
    · exact fun close _ => ⟨three.ge, close, average⟩

/-- An engine that has not seen a sample. -/
def unset : Engine where
  configFile := none
  runtimeFile := none

theorem signal_minus60 : Signal "-60.00".toList where
  twoDecimals := ⟨by decide, by decide, by decide⟩
  bounded := by decide

/-- A sample each second, from one second on. -/
def sampled (strengths : List Text) : List Reading :=
  strengths.zipIdx.map fun (strength, i) => .sampled (1000 * (i + 1)) strength false

/-- Three equal samples are close. -/
theorem equal_samples_justified :
    (run step ⟨unset, []⟩ (sampled (replicate 3 "-60.00".toList))).Justified := by
  have samples : newSamples 0 (sampled (replicate 3 "-60.00".toList)) =
      replicate 3 "-60.00".toList := by
    decide +kernel
  refine (justified_iff_close unset rfl rfl _ ?_).mpr (.inr ?_)
  · intro reading mem filtered sampleMs read
    have texts : ∀ reading ∈ sampled (replicate 3 "-60.00".toList),
        ∀ sample ∈ reading.readRssiSample, sample.1 = "-60.00".toList := by
      decide +kernel
    obtain rfl : filtered = "-60.00".toList := texts _ mem _ read
    exact signal_minus60
  · change Close ((newSamples 0 _).take 3)
    rw [samples]
    intro first mem second mem'
    rw [eq_of_mem_replicate (mem_of_mem_take mem), eq_of_mem_replicate (mem_of_mem_take mem'),
      sub_self]
    norm_num

/-- Samples of -40, -60 and -80 dB. -/
def scattered : List Reading := sampled ["-40.00".toList, "-60.00".toList, "-80.00".toList]

/-- They make a baseline of -60 dB. -/
theorem scattered_samples_established :
    (run step ⟨unset, []⟩ scattered).engine.config.baseline = "-60.00".toList ∧
      ¬ (run step ⟨unset, []⟩ scattered).Justified := by
  have baseline : (run step ⟨unset, []⟩ scattered).engine.config.baseline = "-60.00".toList := by
    decide +kernel
  have samples : (run step ⟨unset, []⟩ scattered).samples =
      ["-40.00".toList, "-60.00".toList, "-80.00".toList] := by
    decide +kernel
  refine ⟨baseline, fun justified => ?_⟩
  have close := (justified (by rw [baseline]; decide)).2.1
  rw [samples] at close
  have far : ¬ value "-40.00".toList - value "-80.00".toList ≤ 8 := by decide +kernel
  exact far (close _ (by simp) _ (by simp))

end Bootstrap

end DeskUnlock.Proximity
