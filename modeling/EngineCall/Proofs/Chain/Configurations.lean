import EngineCall.Chain.ForkSchedule
import EngineCall.Proofs.Json.WrittenRecords
import Mathlib.Data.List.Nodup

/-!
# Configurations in JSON

An object is a configuration exactly if it has the slots of an epoch, for each fork an epoch, null
or nothing, and no other key. What is written of a configuration is such an object, as a value and
in a text.
-/

namespace EngineCall.ForkConfig

open Json (Codec Decoder Origin Record Value)

variable {c : ForkConfig} {origin : Origin} {members : List (String × Value)}

/-- The keys of a configuration. -/
def keys : List String :=
  ["slots_per_epoch", "altair_fork_epoch", "bellatrix_fork_epoch", "capella_fork_epoch",
    "deneb_fork_epoch"]

/-! ## Objects that are configurations -/

/-- What members say of a fork: that it is not scheduled, by null or by nothing, or its epoch. -/
inductive EpochIn (members : List (String × Value)) (key : String) : Option UInt64 → Prop where
  | missing (hmissing : key ∉ members.map (·.1)) : EpochIn members key none
  | null (hnull : (key, .null) ∈ members) : EpochIn members key none
  | epoch {n : UInt64} (hepoch : (key, .ofNat n.toNat) ∈ members) : EpochIn members key (some n)

/-- That members, in any order, are those of a configuration. -/
structure WrittenIn (c : ForkConfig) (members : List (String × Value)) : Prop where
  distinct : (members.map (·.1)).Nodup
  known : ∀ m ∈ members, m.1 ∈ keys
  slotsPerEpoch : ("slots_per_epoch", .ofNat c.slotsPerEpoch.toNat) ∈ members
  altair : EpochIn members "altair_fork_epoch" c.altair
  bellatrix : EpochIn members "bellatrix_fork_epoch" c.bellatrix
  capella : EpochIn members "capella_fork_epoch" c.capella
  deneb : EpochIn members "deneb_fork_epoch" c.deneb

/-- That members are those of some configuration, told by their keys and values alone. -/
structure Shaped (members : List (String × Value)) : Prop where
  distinct : (members.map (·.1)).Nodup
  known : ∀ m ∈ members, m.1 ∈ keys
  slotsPerEpoch : ∃ n : UInt64, ("slots_per_epoch", .ofNat n.toNat) ∈ members
  epochs : ∀ m ∈ members, m.1 ≠ "slots_per_epoch" →
    m.2 = .null ∨ ∃ n : UInt64, m.2 = .ofNat n.toNat

theorem record_checked : record.Checked := by
  have hepoch (key : String) :
      (Record.defaulted key (Decoder.nullable Decoder.uint64) none).Checked :=
    .defaulted key _ none
  have hslots : (Record.required "slots_per_epoch" Decoder.uint64).Checked := .required _ _
  exact ((((hslots.map _).seq (hepoch _)).seq (hepoch _)).seq (hepoch _)).seq (hepoch _)

theorem build_slots_eq_ok_iff (hdistinct : (members.map (·.1)).Nodup) {key : String} {n : UInt64} :
    (Record.required key Decoder.uint64).build
        (Record.ofMembers origin (Value.toMembers members)) = .ok n ↔
      (key, .ofNat n.toNat) ∈ members := by
  simp only [Record.build_required_eq_ok_iff, Decoder.uint64_toNode_eq_ok_iff,
    Record.lookup_eq_some_iff_mem hdistinct]
  simp

theorem build_epoch_eq_ok_iff (hdistinct : (members.map (·.1)).Nodup) {key : String}
    {n : Option UInt64} :
    (Record.defaulted key (Decoder.nullable Decoder.uint64) none).build
        (Record.ofMembers origin (Value.toMembers members)) = .ok n ↔
      EpochIn members key n := by
  simp only [Record.build_defaulted_eq_ok_iff, Decoder.nullable_uint64_eq_ok_iff,
    Record.lookup_eq_some_iff_mem hdistinct]
  constructor
  · rintro (⟨hlookup, rfl⟩ | ⟨v, hmem, (⟨rfl, rfl⟩ | ⟨m, rfl, rfl⟩)⟩)
    · refine .missing fun hkey => ?_
      obtain ⟨m, hm, rfl⟩ := List.mem_map.mp hkey
      rw [Record.lookup_of_mem hdistinct hm] at hlookup
      cases hlookup
    · exact .null hmem
    · exact .epoch hmem
  · intro hepoch
    cases hepoch with
    | missing hmissing =>
        refine .inl ⟨List.lookup_eq_none_iff.mpr fun m hm => ?_, rfl⟩
        have hne : key ≠ m.1 := by
          rintro rfl
          exact hmissing (List.mem_map_of_mem hm)
        simpa using hne
    | null hnull => exact .inr ⟨.null, hnull, .inl ⟨rfl, rfl⟩⟩
    | epoch hepoch => exact .inr ⟨_, hepoch, .inr ⟨_, rfl, rfl⟩⟩

theorem build_record_eq_ok_iff (hdistinct : (members.map (·.1)).Nodup) :
    record.build (Record.ofMembers origin (Value.toMembers members)) = .ok c ↔
      ("slots_per_epoch", .ofNat c.slotsPerEpoch.toNat) ∈ members ∧
        EpochIn members "altair_fork_epoch" c.altair ∧
        EpochIn members "bellatrix_fork_epoch" c.bellatrix ∧
        EpochIn members "capella_fork_epoch" c.capella ∧
        EpochIn members "deneb_fork_epoch" c.deneb := by
  -- the record is put together from one value for each field
  rw [Record.build_eq_ok_iff, record]
  simp only [Record.yields_seq, Record.yields_map]
  simp only [Record.Yields, build_slots_eq_ok_iff hdistinct, build_epoch_eq_ok_iff hdistinct]
  constructor
  · rintro ⟨slots, hslots, altair, haltair, bellatrix, hbellatrix, capella, hcapella, deneb, hdeneb,
      rfl⟩
    exact ⟨hslots, haltair, hbellatrix, hcapella, hdeneb⟩
  · rintro ⟨hslots, haltair, hbellatrix, hcapella, hdeneb⟩
    exact ⟨_, hslots, _, haltair, _, hbellatrix, _, hcapella, _, hdeneb, rfl⟩

/-- An object is read as the configuration whose members it has. -/
theorem decoder_object_eq_ok_iff :
    codec.decoder origin (Value.object members).toNode = .ok c ↔ c.WrittenIn members := by
  have hnames : record.names = keys := rfl
  rw [codec, record_checked.closedDecoder_eq_ok_iff, hnames]
  constructor
  · rintro ⟨hdistinct, hknown, hbuild⟩
    obtain ⟨hslots, haltair, hbellatrix, hcapella, hdeneb⟩ :=
      (build_record_eq_ok_iff hdistinct).mp hbuild
    exact ⟨hdistinct, hknown, hslots, haltair, hbellatrix, hcapella, hdeneb⟩
  · intro h
    exact ⟨h.distinct, h.known, (build_record_eq_ok_iff h.distinct).mpr
      ⟨h.slotsPerEpoch, h.altair, h.bellatrix, h.capella, h.deneb⟩⟩

theorem Shaped.exists_epochIn (h : Shaped members) (key : String)
    (hkey : key ≠ "slots_per_epoch") : ∃ epoch, EpochIn members key epoch := by
  by_cases hgiven : key ∈ members.map (·.1)
  case neg => exact ⟨none, .missing hgiven⟩
  case pos =>
    obtain ⟨⟨k, v⟩, hm, rfl⟩ := List.mem_map.mp hgiven
    rcases h.epochs (k, v) hm hkey with rfl | ⟨n, rfl⟩
    · exact ⟨none, .null hm⟩
    · exact ⟨some n, .epoch hm⟩

theorem EpochIn.value (hdistinct : (members.map (·.1)).Nodup) {key : String}
    {epoch : Option UInt64} (h : EpochIn members key epoch) {v : Value}
    (hmem : (key, v) ∈ members) : v = .null ∨ ∃ n : UInt64, v = .ofNat n.toNat := by
  have hsame {w : Value} (hw : (key, w) ∈ members) : v = w :=
    congrArg Prod.snd (List.inj_on_of_nodup_map hdistinct hmem hw rfl)
  cases h with
  | missing hmissing => exact absurd (List.mem_map_of_mem hmem) hmissing
  | null hnull => exact .inl (hsame hnull)
  | epoch hepoch => exact .inr ⟨_, hsame hepoch⟩

theorem exists_writtenIn_iff : (∃ c : ForkConfig, c.WrittenIn members) ↔ Shaped members := by
  constructor
  · rintro ⟨c, h⟩
    refine ⟨h.distinct, h.known, ⟨_, h.slotsPerEpoch⟩, ?_⟩
    rintro ⟨key, v⟩ hm hkey
    have hknown := h.known _ hm
    simp only [keys, List.mem_cons, List.not_mem_nil, or_false] at hknown
    rcases hknown with rfl | rfl | rfl | rfl | rfl
    · exact absurd rfl hkey
    · exact h.altair.value h.distinct hm
    · exact h.bellatrix.value h.distinct hm
    · exact h.capella.value h.distinct hm
    · exact h.deneb.value h.distinct hm
  · intro h
    obtain ⟨slots, hslots⟩ := h.slotsPerEpoch
    obtain ⟨altair, haltair⟩ := h.exists_epochIn "altair_fork_epoch" (by decide)
    obtain ⟨bellatrix, hbellatrix⟩ := h.exists_epochIn "bellatrix_fork_epoch" (by decide)
    obtain ⟨capella, hcapella⟩ := h.exists_epochIn "capella_fork_epoch" (by decide)
    obtain ⟨deneb, hdeneb⟩ := h.exists_epochIn "deneb_fork_epoch" (by decide)
    exact ⟨⟨slots, altair, bellatrix, capella, deneb⟩,
      ⟨h.distinct, h.known, hslots, haltair, hbellatrix, hcapella, hdeneb⟩⟩

/-! ## What is written -/

theorem EpochIn.of_perm {members' : List (String × Value)} (hperm : members'.Perm members)
    {key : String} {epoch : Option UInt64} (h : EpochIn members key epoch) :
    EpochIn members' key epoch := by
  cases h with
  | missing hmissing =>
      exact .missing fun hkey => hmissing ((hperm.map (·.1)).mem_iff.mp hkey)
  | null hnull => exact .null (hperm.mem_iff.mpr hnull)
  | epoch hepoch => exact .epoch (hperm.mem_iff.mpr hepoch)

/-- The order of the members does not matter. -/
theorem WrittenIn.of_perm {members' : List (String × Value)} (hperm : members'.Perm members)
    (h : c.WrittenIn members) : c.WrittenIn members' where
  distinct := (hperm.map (·.1)).nodup_iff.mpr h.distinct
  known m hm := h.known m (hperm.mem_iff.mp hm)
  slotsPerEpoch := hperm.mem_iff.mpr h.slotsPerEpoch
  altair := h.altair.of_perm hperm
  bellatrix := h.bellatrix.of_perm hperm
  capella := h.capella.of_perm hperm
  deneb := h.deneb.of_perm hperm

theorem epochIn_of_encode {key : String} {epoch : Option UInt64}
    (hmem : (key, (Codec.nullable Codec.uint64).encode epoch) ∈ members) :
    EpochIn members key epoch := by
  cases epoch with
  | none => exact .null hmem
  | some n => exact .epoch hmem

/-- What is written of a configuration is an object that has its members. -/
theorem exists_encode_eq_object (c : ForkConfig) :
    ∃ members, codec.encode c = .object members ∧ c.WrittenIn members := by
  have hdistinct : keys.Nodup := by decide
  -- writing puts the members in the order of their keys, which changes none of them
  refine ⟨_, rfl, WrittenIn.of_perm (Value.sortMembers_perm hdistinct) ?_⟩
  exact {
    distinct := hdistinct
    known := by simp [keys]
    slotsPerEpoch := by simp [Codec.uint64]
    altair := epochIn_of_encode (by simp)
    bellatrix := epochIn_of_encode (by simp)
    capella := epochIn_of_encode (by simp)
    deneb := epochIn_of_encode (by simp) }

theorem codec_lossless : codec.Lossless := by
  intro c
  obtain ⟨members, hencode, hwritten⟩ := c.exists_encode_eq_object
  rw [hencode]
  exact decoder_object_eq_ok_iff.mpr hwritten

/-! ## Texts -/

/-- A text can carry every configuration. -/
theorem Shaped.carried (h : Shaped members) : (Value.object members).Carried Json.openLimit := by
  obtain ⟨slots, hslots⟩ := h.slotsPerEpoch
  have hnumber (n : UInt64) : (Value.ofNat n.toNat).Carried 126 := by
    have hlt := n.toNat_lt
    exact .integer (by omega) (by omega)
  refine .object fun m hm => ?_
  by_cases hkey : m.1 = "slots_per_epoch"
  case pos =>
    have hsame := List.inj_on_of_nodup_map h.distinct hm hslots hkey
    rw [hsame]
    exact hnumber slots
  case neg =>
    rcases h.epochs m hm hkey with hnull | ⟨n, hn⟩
    · rw [hnull]
      exact .null
    · rw [hn]
      exact hnumber n

/-- A configuration is read from the text of every object that has its members. -/
theorem WrittenIn.decodeText (h : c.WrittenIn members) :
    codec.decodeText (Value.object members).toText = .ok c := by
  have hread : codec.decoder.Reads (.object members) c := fun _ => decoder_object_eq_ok_iff.mpr h
  exact hread.decodeText (exists_writtenIn_iff.mp ⟨c, h⟩).carried

theorem decodeText_encode (c : ForkConfig) :
    codec.decodeText (codec.encode c).toText = .ok c := by
  obtain ⟨members, hencode, hwritten⟩ := c.exists_encode_eq_object
  rw [hencode]
  exact hwritten.decodeText

end EngineCall.ForkConfig
