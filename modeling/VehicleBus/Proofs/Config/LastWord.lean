import VehicleBus.Config

/-!
A configuration is what the latest word on each setting says. A word is about the bit rate, the
frequency or some of the flags; a draft keeps of the words on a setting the latest alone, and the
default of the frequency is taken from the bit rate that the draft ends with. So words on different
settings may come in any order, and the first fault of what was settled is the one that is told.
-/
namespace VehicleBus.Config

/-- What a word can be about. -/
inductive Aspect where
  | bitrate
  | frequency
  | flag (flag : Flag)
  deriving DecidableEq, Repr

namespace Setting

/-- What a word says about the bit rate. -/
def bitrate? : Setting → Option Bitrate
  | .bitrate rate => some rate
  | .frequency _ | .options _ | .flag .. => none

/-- What a word says about the frequency. -/
def frequency? : Setting → Option Nat
  | .frequency hertz => some hertz
  | .bitrate _ | .options _ | .flag .. => none

/-- What a word says about a flag. A word on all flags says something about each. -/
def flag? (flag : Flag) : Setting → Option Bool
  | .options set => some (set.has flag)
  | .flag other on => if flag = other then some on else none
  | .bitrate _ | .frequency _ => none

/-- A word is about an aspect. -/
def Concerns (setting : Setting) : Aspect → Prop
  | .bitrate => setting.bitrate?.isSome
  | .frequency => setting.frequency?.isSome
  | .flag which => (setting.flag? which).isSome

/-- Two words are about different settings. -/
def Apart (first second : Setting) : Prop :=
  ∀ aspect, ¬ (first.Concerns aspect ∧ second.Concerns aspect)

end Setting

/-- The latest thing that is said, if any. -/
def lastWord {α : Type} (word? : Setting → Option α) (settings : List Setting) : Option α :=
  (settings.filterMap word?).getLast?

section LastWord

variable {α : Type} (word? : Setting → Option α)

theorem lastWord_cons (setting : Setting) (settings : List Setting) :
    lastWord word? (setting :: settings) = (lastWord word? settings).or (word? setting) := by
  unfold lastWord
  cases said : word? setting with
  | none => rw [List.filterMap_cons_none said, Option.or_none]
  | some value =>
    rw [List.filterMap_cons_some said, List.getLast?_cons]
    cases (settings.filterMap word?).getLast? <;> rfl

/-- A word that says nothing here may change places with its neighbour. -/
theorem lastWord_swap {first second : Setting}
    (silent : word? first = none ∨ word? second = none) (before after : List Setting) :
    lastWord word? (before ++ second :: first :: after) =
      lastWord word? (before ++ first :: second :: after) := by
  unfold lastWord
  rcases silent with none | none <;> simp [List.filterMap_cons, none]

/-- A reading of a draft that every word leaves as it is or sets to what it says, is set to the
latest of what is said. -/
theorem read_foldl (read : Draft → Option α)
    (step : ∀ draft setting, read (draft.apply setting) = (word? setting).or (read draft))
    (draft : Draft) (settings : List Setting) :
    read (settings.foldl Draft.apply draft) = (lastWord word? settings).or (read draft) := by
  induction settings generalizing draft with
  | nil => rfl
  | cons setting rest ih =>
    rw [List.foldl_cons, ih, step, lastWord_cons, Option.or_assoc]

end LastWord

section Settled

variable (settings : List Setting)

/-- The bit rate that words settle. -/
def settledBitrate : Bitrate := (lastWord Setting.bitrate? settings).getD .kbps500

/-- The frequency that words settle: the default is that of the bit rate that they settle. -/
def settledFrequency : Nat :=
  (lastWord Setting.frequency? settings).getD (settledBitrate settings).defaultFrequency

/-- What words settle of a flag. -/
def settledFlag (flag : Flag) : Bool := (lastWord (Setting.flag? flag) settings).getD false

end Settled

/-- All faults of what is settled, in the order in which they are judged. -/
def faults (address : UInt8) (rate : Bitrate) (hertz : Nat) : List Error :=
  let most := 1000000000 / rate.maxFrameNanos
  (if address = 0 then [.reservedAddress] else []) ++
    (if hertz = 0 then [.zeroFrequency] else []) ++
    (if hertz < 3 then [.frequencyTooLow hertz 3] else []) ++
    (if most < hertz then [.frequencyTooHigh hertz most] else [])

namespace Draft

section Settled

variable (address : UInt8) (settings : List Setting)

theorem address_ofSettings : (ofSettings address settings).address = address := by
  suffices kept : ∀ draft : Draft, (settings.foldl apply draft).address = draft.address from
    kept { address }
  induction settings with
  | nil => exact fun _ => rfl
  | cons setting rest ih =>
    intro draft
    rw [List.foldl_cons, ih]
    cases setting <;> rfl

theorem bitrate_ofSettings : (ofSettings address settings).bitrate = settledBitrate settings := by
  have said := read_foldl Setting.bitrate? (fun draft => some draft.bitrate)
    (fun draft setting => by cases setting <;> rfl) { address } settings
  exact Option.some.inj (said.trans Option.or_some)

theorem frequency_ofSettings :
    (ofSettings address settings).frequency = lastWord Setting.frequency? settings := by
  have said := read_foldl Setting.frequency? Draft.frequency
    (fun draft setting => by cases setting <;> rfl) { address } settings
  exact said.trans Option.or_none

theorem hertz_ofSettings : (ofSettings address settings).hertz = settledFrequency settings := by
  rw [hertz, frequency_ofSettings, bitrate_ofSettings, settledFrequency]

/-- The faults of a draft are those of what the words settle. -/
theorem faults_ofSettings :
    faults (ofSettings address settings).address (ofSettings address settings).bitrate
        (ofSettings address settings).hertz =
      faults address (settledBitrate settings) (settledFrequency settings) := by
  rw [address_ofSettings, bitrate_ofSettings, hertz_ofSettings]

theorem has_ofSettings (flag : Flag) :
    (ofSettings address settings).options.has flag = settledFlag settings flag := by
  have said := read_foldl (Setting.flag? flag) (fun draft => some (draft.options.has flag))
    (fun draft setting => by cases setting with
      | flag other on =>
        by_cases same : flag = other <;> simp [apply, Setting.flag?, same]
      | _ => rfl) { address } settings
  have off : Options.none.has flag = false := by cases flag <;> rfl
  rw [Option.or_some, off] at said
  exact Option.some.inj said

end Settled

/-- Words that settle the same make the same draft. -/
theorem ofSettings_congr (address : UInt8) {settings others : List Setting}
    (bitrate : lastWord Setting.bitrate? settings = lastWord Setting.bitrate? others)
    (frequency : lastWord Setting.frequency? settings = lastWord Setting.frequency? others)
    (flag : ∀ flag,
      lastWord (Setting.flag? flag) settings = lastWord (Setting.flag? flag) others) :
    ofSettings address settings = ofSettings address others := by
  have rate : (ofSettings address settings).bitrate = (ofSettings address others).bitrate := by
    rw [bitrate_ofSettings, bitrate_ofSettings, settledBitrate, settledBitrate, bitrate]
  have hertz : (ofSettings address settings).frequency = (ofSettings address others).frequency := by
    rw [frequency_ofSettings, frequency_ofSettings, frequency]
  have options : (ofSettings address settings).options = (ofSettings address others).options := by
    apply Options.ext_has
    intro which
    rw [has_ofSettings, has_ofSettings, settledFlag, settledFlag, flag]
  have own : (ofSettings address settings).address = (ofSettings address others).address := by
    rw [address_ofSettings, address_ofSettings]
  cases made : ofSettings address settings
  cases other : ofSettings address others
  simp_all

/-- Words on different settings may change places. -/
theorem ofSettings_swap (address : UInt8) {first second : Setting} (apart : first.Apart second)
    (before after : List Setting) :
    ofSettings address (before ++ second :: first :: after) =
      ofSettings address (before ++ first :: second :: after) := by
  have silent {α : Type} {word? : Setting → Option α}
      (both : ¬ ((word? first).isSome ∧ (word? second).isSome)) :
      word? first = none ∨ word? second = none := by
    cases said : word? first <;> cases told : word? second <;> simp_all
  apply ofSettings_congr
  · exact lastWord_swap _ (silent (apart .bitrate)) before after
  · exact lastWord_swap _ (silent (apart .frequency)) before after
  · exact fun which => lastWord_swap _ (silent (apart (.flag which))) before after

end Draft

/-- The highest frequency is not bounded by its sixteen bits, but by the longest frame alone. -/
theorem maxFrequency_eq (rate : Bitrate) :
    rate.maxFrequency = 1000000000 / rate.maxFrameNanos := by
  cases rate <;> decide

section Build

variable (draft : Draft)

/-- A draft is refused for its first fault. -/
theorem build_eq_error_iff (error : Error) : draft.build = .error error ↔
    (faults draft.address draft.bitrate draft.hertz).head? = some error := by
  unfold Draft.build faults
  simp only [← maxFrequency_eq]
  unfold minFrequency
  by_cases reserved : draft.address = 0
  · simp [reserved]
  · by_cases zero : draft.hertz = 0
    · simp [reserved, zero]
    · by_cases low : draft.hertz < 3
      · simp [reserved, zero, low]
      · by_cases high : draft.bitrate.maxFrequency < draft.hertz
        · simp [reserved, zero, low, high]
        · simp [reserved, zero, low, high]

/-- A draft is taken when it has no fault. -/
theorem exists_build_iff : (∃ config, draft.build = .ok config) ↔
    faults draft.address draft.bitrate draft.hertz = [] := by
  rw [← List.head?_eq_none_iff]
  cases built : draft.build with
  | error error =>
    rw [(build_eq_error_iff draft error).mp built]
    simp
  | ok config =>
    have unrefused : ∀ error,
        (faults draft.address draft.bitrate draft.hertz).head? ≠ some error := by
      intro error told
      have refused := (build_eq_error_iff draft error).mpr told
      rw [built] at refused
      cases refused
    rw [Option.eq_none_iff_forall_ne_some]
    exact iff_of_true ⟨config, rfl⟩ unrefused

/-- A draft without faults is taken as it is. -/
theorem of_build {config : Config} (built : draft.build = .ok config) :
    config.address = draft.address ∧ config.bitrate = draft.bitrate ∧
      config.frequency = draft.hertz ∧ config.options = draft.options := by
  unfold Draft.build at built
  split at built
  · cases built
  · split at built
    · cases built
    · split at built
      · cases built
      · split at built
        · cases built
        · cases built
          exact ⟨rfl, rfl, rfl, rfl⟩

end Build

/-- What the words on the settings of an address come to. -/
structure Settled (address : UInt8) (settings : List Setting) : Prop where
  accepted : (∃ config, (Draft.ofSettings address settings).build = .ok config) ↔
    faults address (settledBitrate settings) (settledFrequency settings) = []
  built : ∀ config, (Draft.ofSettings address settings).build = .ok config →
    config.address = address ∧ config.bitrate = settledBitrate settings ∧
      config.frequency = settledFrequency settings ∧
      ∀ flag, config.options.has flag = settledFlag settings flag
  /-- Of several faults the first is told. -/
  refused : ∀ error, (Draft.ofSettings address settings).build = .error error ↔
    (faults address (settledBitrate settings) (settledFrequency settings)).head? = some error
  /-- Words on different settings may change places. -/
  commute : ∀ before first second after, settings = before ++ first :: second :: after →
    first.Apart second →
      (Draft.ofSettings address (before ++ second :: first :: after)).build =
        (Draft.ofSettings address settings).build

end VehicleBus.Config

namespace VehicleBus

open Config in
/-- A configuration is what the latest word on each setting says, whatever the order of the words
and however many there are, and only a fault of what they settle refuses it. -/
theorem last_words_settle_the_configuration (address : UInt8) (settings : List Config.Setting) :
    Config.Settled address settings where
  accepted := by
    rw [exists_build_iff, Draft.faults_ofSettings]
  built := by
    intro config built
    obtain ⟨own, rate, hertz, options⟩ := of_build _ built
    rw [Draft.address_ofSettings] at own
    rw [Draft.bitrate_ofSettings] at rate
    rw [Draft.hertz_ofSettings] at hertz
    refine ⟨own, rate, hertz, ?_⟩
    intro flag
    rw [options, Draft.has_ofSettings]
  refused := by
    intro error
    rw [build_eq_error_iff, Draft.faults_ofSettings]
  commute := by
    rintro before first second after rfl apart
    rw [Draft.ofSettings_swap address apart]

/-- The default of the frequency is that of the last bit rate, and a word on all flags takes back
what was said about one. -/
example :
    (Config.Draft.ofSettings 5 [.flag .syncMaster true, .bitrate .mbps1, .options .none,
        .bitrate .kbps250]).build.toOption.map
      (fun config => (config.frequency, config.options.has .syncMaster)) = some (512, false) := by
  decide

end VehicleBus
