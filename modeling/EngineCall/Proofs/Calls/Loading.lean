import EngineCall.Calls.Client
import EngineCall.Proofs.Chain.Configurations
import EngineCall.Proofs.Chain.Defects

/-!
# Ways of loading a schedule

A schedule is loaded from a configuration or from a text that holds one, or it is decoded from JSON
like any other type. Each way checks the configuration, so that none of them lets through what
another refuses, and each refuses it with the same words.
-/

namespace EngineCall.ForkSchedule

open Json (Codec Decoder Failure Mismatch Node Origin Value)

variable {x : ForkSchedule} {c : ForkConfig} {defect : ScheduleDefect}

/-! ## Loading configurations -/

theorem load_eq_ok_iff : load c = .ok x ↔ x.config = c :=
  mapError_eq_ok_iff.trans ofConfig_eq_ok_iff

theorem load_eq_error_iff {e : Error} :
    load c = .error e ↔ ∃ defect, c.defect? = some defect ∧ e = .invalidForkSchedule defect := by
  unfold load
  constructor
  · intro hload
    cases hmade : ofConfig c with
    | ok s =>
        rw [hmade] at hload
        cases hload
    | error defect =>
        rw [hmade] at hload
        cases hload
        exact ⟨defect, ofConfig_eq_error_iff.mp hmade, rfl⟩
  · rintro ⟨defect, hdefect, rfl⟩
    rw [ofConfig_eq_error_iff.mpr hdefect]
    rfl

/-! ## Decoding schedules -/

section

variable {origin : Origin} {node : Node}

/-- A schedule is decoded wherever its configuration is. -/
theorem decoder_eq_ok_iff :
    codec.decoder origin node = .ok x ↔ ForkConfig.codec.decoder origin node = .ok x.config := by
  simp only [codec, bind_eq_ok_iff]
  constructor
  · rintro ⟨c, hread, hmade⟩
    split at hmade
    next s hs =>
      cases hmade
      rw [ofConfig_eq_ok_iff.mp hs]
      exact hread
    next => cases hmade
  · intro hread
    have hmade : ofConfig x.config = .ok x := ofConfig_eq_ok_iff.mpr rfl
    exact ⟨x.config, hread, by rw [hmade]⟩

/-- What is no configuration is refused for the same reason as a schedule. -/
theorem decoder_of_error {f : Failure} (hread : ForkConfig.codec.decoder origin node = .error f) :
    codec.decoder origin node = .error f := by
  simp only [codec, hread, bind, Except.bind]

/-- A configuration that is not well formed is refused with the words for its defect. -/
theorem decoder_of_defect (hread : ForkConfig.codec.decoder origin node = .ok c)
    (hdefect : c.defect? = some defect) :
    codec.decoder origin node =
      .error (.mismatch (.refused ("Invalid fork schedule: " ++ defect.message))) := by
  have hmade : ofConfig c = .error defect := ofConfig_eq_error_iff.mpr hdefect
  simp only [codec, hread, hmade, bind, Except.bind]
  rfl

end

/-- A schedule is decoded from every text that its configuration is decoded from. -/
theorem decodeText_eq_ok_iff {s : String} :
    codec.decodeText s = .ok x ↔ ForkConfig.codec.decodeText s = .ok x.config := by
  -- what stands behind the document does not depend on the decoder
  simp only [Codec.decodeText, Decoder.fromText, Decoder.fromDocument_eq_ok_iff, decoder_eq_ok_iff]

theorem loadText_eq_ok_iff {s : String} :
    loadText s = .ok x ↔ ForkConfig.codec.decodeText s = .ok x.config := by
  simp only [loadText, bind_eq_ok_iff, mapError_eq_ok_iff, load_eq_ok_iff]
  simp

/-- That decoding a value as a schedule comes to the same as decoding a configuration and loading
it. -/
structure DecodedAsLoaded (v : Value) : Prop where
  schedule : ∀ x, codec.decode v = .ok x ↔ ∃ c, ForkConfig.codec.decode v = .ok c ∧ load c = .ok x
  /-- What is no configuration is refused alike. -/
  failure : ∀ f, ForkConfig.codec.decode v = .error f → codec.decode v = .error f
  /-- What is wrong with a configuration is told alike. -/
  defect : ∀ c e, ForkConfig.codec.decode v = .ok c → load c = .error e →
    ∃ defect m, e = .invalidForkSchedule defect ∧ codec.decode v = .error (.mismatch m) ∧
      m.message = "Invalid fork schedule: " ++ defect.message

theorem decodedAsLoaded (v : Value) : DecodedAsLoaded v where
  schedule x := by
    rw [Codec.decode, Decoder.fromValue, decoder_eq_ok_iff]
    simp only [load_eq_ok_iff]
    constructor
    · intro hread
      exact ⟨x.config, hread, rfl⟩
    · rintro ⟨c, hread, rfl⟩
      exact hread
  failure _ hread := decoder_of_error hread
  defect _ _ hread hload := by
    obtain ⟨defect, hdefect, rfl⟩ := load_eq_error_iff.mp hload
    exact ⟨defect, _, rfl, decoder_of_defect hread hdefect, rfl⟩

theorem codec_lossless : codec.Lossless := fun x =>
  decoder_eq_ok_iff.mpr (ForkConfig.codec_lossless x.config)

/-- All ways of loading a schedule agree. Objects are configurations by their keys and values alone,
and what is written of a schedule is read back, as a value and as a text. -/
theorem ways_of_loading_agree :
    (∀ v, DecodedAsLoaded v) ∧
    (∀ s x, loadText s = .ok x ↔ codec.decodeText s = .ok x) ∧
    (∀ members, ((∃ c, ForkConfig.codec.decode (.object members) = .ok c) ↔
        ForkConfig.Shaped members) ∧
      ∀ c, ForkConfig.codec.decode (.object members) = .ok c ↔ c.WrittenIn members) ∧
    ∀ x, codec.decode (codec.encode x) = .ok x ∧
      codec.decodeText (codec.encode x).toText = .ok x ∧
      loadText (codec.encode x).toText = .ok x := by
  have hobject (members : List (String × Value)) (c : ForkConfig) :
      ForkConfig.codec.decode (.object members) = .ok c ↔ c.WrittenIn members :=
    ForkConfig.decoder_object_eq_ok_iff
  refine ⟨decodedAsLoaded, fun s x => ?_, fun members => ⟨?_, hobject members⟩,
    fun x => ⟨?_, ?_, ?_⟩⟩
  · exact loadText_eq_ok_iff.trans decodeText_eq_ok_iff.symm
  · simp only [hobject]
    exact ForkConfig.exists_writtenIn_iff
  · exact codec_lossless x
  · exact decodeText_eq_ok_iff.mpr x.config.decodeText_encode
  · exact loadText_eq_ok_iff.mpr x.config.decodeText_encode

/-- A null epoch leaves Altair unscheduled, so that Bellatrix comes after a gap: loading the
configuration and decoding the schedule refuse it with the same words. -/
theorem ways_of_loading_agree_gap :
    let v : Value := .object [("bellatrix_fork_epoch", .ofNat 5), ("altair_fork_epoch", .null),
      ("slots_per_epoch", .ofNat 8)]
    let c : ForkConfig := ⟨8, none, some 5, none, none⟩
    ForkConfig.codec.decode v = .ok c ∧
      load c = .error (.invalidForkSchedule (.gap .bellatrix .altair)) ∧
      ∃ m, codec.decode v = .error (.mismatch m) ∧ m.message =
        "Invalid fork schedule: BELLATRIX is scheduled but the earlier fork ALTAIR is not" := by
  intro v c
  have hread : ForkConfig.codec.decode v = .ok c := rfl
  have hload : load c = .error (.invalidForkSchedule (.gap .bellatrix .altair)) := rfl
  obtain ⟨defect, m, hdefect, hrefused, hwords⟩ :=
    (ways_of_loading_agree.1 v).defect c _ hread hload
  cases hdefect
  exact ⟨hread, hload, m, hrefused, hwords.trans (by decide)⟩

end EngineCall.ForkSchedule
