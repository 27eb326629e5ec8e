import EngineCall.Proofs.Json.ClosedRecords
import EngineCall.Proofs.Json.Decoders
import EngineCall.Proofs.Json.Text

/-!
# Records as they are written

Members hold a record if each of its fields is read from the member of its name, be they those of a
value or of a text. The record is then read from the object made of them and, if it is open, also
from every object that has further members. Records are written as members that hold them, which is
seen field by field.
-/

namespace EngineCall.Json

variable {α β : Type}

/-- A text is decoded if it is that of a value that is read. -/
theorem Decoder.Reads.decodeText {c : Codec α} {v : Value} {a : α} (hread : c.decoder.Reads v a)
    (hcarried : v.Carried openLimit) : c.decodeText v.toText = .ok a := by
  rw [Codec.decodeText, Decoder.fromText, Decoder.fromDocument_eq_ok_iff,
    Document.ofText_toText hcarried]
  exact ⟨hread .text, rfl⟩

/-! ## Objects with further members -/

namespace Value

/-- An object has each of some members. -/
def Includes (told members : List (String × Value)) : Prop :=
  ∀ m ∈ members, told.lookup m.1 = some m.2

theorem includes_of_subset {told members : List (String × Value)}
    (hdistinct : (told.map (·.1)).Nodup) (hmembers : ∀ m ∈ members, m ∈ told) :
    Includes told members := fun m hm => Record.lookup_of_mem hdistinct (hmembers m hm)

/-- An object with the members of another one, and further ones whose keys are none of `names`, in
any order. -/
inductive Extended (names : List String) : Value → Value → Prop where
  | object {members further told : List (String × Value)}
      (hdistinct : (further.map (·.1)).Nodup) (hforeign : ∀ m ∈ further, m.1 ∉ names)
      (htold : told.Perm (members ++ further)) : Extended names (.object members) (.object told)

end Value

namespace Record

/-- A field that is left out if it is not told is read back, told or not. -/
theorem build_optional_of_told {name : String} {d : Decoder α} {origin : Origin}
    {members : List (String × Value)} {o : Option α} {write : α → Value}
    (hread : ∀ a, d origin (write a).toNode = .ok a) (hnull : ∀ a, write a ≠ .null)
    (hlookup : members.lookup name = o.map write) :
    (optional name d).build (ofMembers origin (Value.toMembers members)) = .ok o := by
  cases o with
  | none => exact build_optional_of_missing hlookup
  | some a =>
      refine build_optional_of_lookup hlookup ?_
      rw [Decoder.nullable_toNode (hnull a), hread a]
      rfl

/-! ## Members that hold a record -/

/-- That members with the names of a record's fields hold it: it is put together from any that have
them among others, in a value as in a text. -/
structure Holds (r : Record α) (members : List (String × Value)) (a : α) : Prop where
  checked : r.Checked
  keys_eq : members.map (·.1) = r.names
  build_of_includes : ∀ (origin : Origin) (told : List (String × Value)),
    Value.Includes told members → r.build (ofMembers origin (Value.toMembers told)) = .ok a

namespace Holds

variable {name : String} {d : Decoder α} {v : Value} {a : α} {members : List (String × Value)}

theorem seq {f : Record (α → β)} {x : Record α} {first rest : List (String × Value)} {g : α → β}
    (hf : f.Holds first g) (hx : x.Holds rest a) : (f <*> x).Holds (first ++ rest) (g a) where
  checked := hf.checked.seq hx.checked
  keys_eq := by
    have hnames : (f <*> x).names = f.names ++ x.names := List.map_append
    rw [hnames, List.map_append, hf.keys_eq, hx.keys_eq]
  build_of_includes origin told htold := by
    obtain ⟨hfirst, hrest⟩ := List.forall_mem_append.mp htold
    exact build_seq (hf.build_of_includes origin told hfirst)
      (hx.build_of_includes origin told hrest)

theorem map {x : Record α} (f : α → β) (hx : x.Holds members a) :
    (f <$> x).Holds members (f a) where
  checked := hx.checked.map f
  keys_eq := hx.keys_eq
  build_of_includes origin told htold := build_map f (hx.build_of_includes origin told htold)

theorem required (name : String) (hread : d.Reads v a) :
    (Record.required name d).Holds [(name, v)] a where
  checked := .required name d
  keys_eq := rfl
  build_of_includes origin _ htold :=
    build_required_of_lookup (htold (name, v) List.mem_cons_self) (hread origin)

theorem defaulted (name : String) (absent : α) (hread : d.Reads v a) :
    (Record.defaulted name d absent).Holds [(name, v)] a where
  checked := .defaulted name d absent
  keys_eq := rfl
  build_of_includes origin _ htold :=
    build_defaulted_of_lookup absent (htold (name, v) List.mem_cons_self) (hread origin)

theorem optional {o : Option α} (name : String) (hread : (Decoder.nullable d).Reads v o) :
    (Record.optional name d).Holds [(name, v)] o where
  checked := .optional name d
  keys_eq := rfl
  build_of_includes origin _ htold :=
    build_optional_of_lookup (htold (name, v) List.mem_cons_self) (hread origin)

section

variable {r : Record α} {type : String}

theorem keys_nodup (h : r.Holds members a) (hnames : r.names.Nodup) :
    (members.map (·.1)).Nodup := h.keys_eq ▸ hnames

/-- A record is read from an object that has all its members and, if it is closed, no others. -/
theorem reads_object {told : List (String × Value)} {closed : Bool} (h : r.Holds members a)
    (hdistinct : (told.map (·.1)).Nodup) (hincludes : Value.Includes told members)
    (hknown : closed → ∀ m ∈ told, m.1 ∈ r.names) :
    (r.decoder type closed).Reads (.object told) a := by
  intro origin
  have hbuild := h.build_of_includes origin told hincludes
  cases closed with
  | false => exact (h.checked.openDecoder_eq_ok_iff hdistinct).mpr hbuild
  | true => exact h.checked.closedDecoder_eq_ok_iff.mpr ⟨hdistinct, hknown rfl, hbuild⟩

theorem reads_ofMembers (h : r.Holds members a) (hnames : r.names.Nodup) (closed : Bool) :
    (r.decoder type closed).Reads (.ofMembers members) a := by
  have hperm := Value.sortMembers_perm (h.keys_nodup hnames)
  have hsorted := (hperm.map (·.1)).nodup_iff.mpr (h.keys_nodup hnames)
  refine h.reads_object hsorted ?_ fun _ m hm => ?_
  · exact Value.includes_of_subset hsorted fun m hm => hperm.mem_iff.mpr hm
  · rw [← h.keys_eq]
    exact List.mem_map_of_mem (hperm.mem_iff.mp hm)

/-- An open record is also read if there are further members. -/
theorem reads_extended (h : r.Holds members a) (hnames : r.names.Nodup)
    (hextended : Value.Extended r.names (.ofMembers members) v) :
    (r.openDecoder type).Reads v a := by
  have hperm := Value.sortMembers_perm (h.keys_nodup hnames)
  cases hextended with
  | @object _ further told hfurther hforeign htold =>
      have htold : told.Perm (members ++ further) := htold.trans (hperm.append_right further)
      have hkeys : ((members ++ further).map (·.1)).Nodup := by
        -- the members that hold the record have its names, which no further member has
        rw [List.map_append, h.keys_eq, List.nodup_append]
        refine ⟨hnames, hfurther, fun name hname key hkey => ?_⟩
        obtain ⟨m, hm, rfl⟩ := List.mem_map.mp hkey
        rintro rfl
        exact hforeign m hm hname
      have htoldKeys := (htold.map (·.1)).nodup_iff.mpr hkeys
      refine h.reads_object htoldKeys (Value.includes_of_subset htoldKeys fun m hm => ?_) nofun
      exact htold.mem_iff.mpr (List.mem_append_left further hm)

end

end Holds

end Record

/-! ## Codecs of records -/

namespace Codec

/-- What a codec writes of something is an object of members that hold it. -/
def Writes (c : Codec α) (r : Record α) (a : α) : Prop :=
  ∃ members, c.encode a = .ofMembers members ∧ r.Holds members a

/-- That something is written as an object with the given keys, and is read from this object
whatever members with other keys are added to it. -/
structure KeptAmongOthers (c : Codec α) (names : List String) (a : α) : Prop where
  keys : ∃ members, c.encode a = .object members ∧ (members.map (·.1)).Perm names
  decode : ∀ v, Value.Extended names (c.encode a) v → c.decode v = .ok a
  decodeText : ∀ v, Value.Extended names (c.encode a) v → v.Carried openLimit →
    c.decodeText v.toText = .ok a

variable {c : Codec α} {r : Record α} {type : String} {a : α}

/-- A codec that reads a record and writes its members is faithful. -/
theorem faithful_of_writes {closed : Bool} (hdecoder : c.decoder = r.decoder type closed)
    (hnames : r.names.Nodup) (hwrites : ∀ a, c.Writes r a) : c.Faithful := by
  intro a
  obtain ⟨members, hencode, hholds⟩ := hwrites a
  rw [hdecoder, hencode]
  exact hholds.reads_ofMembers hnames closed

theorem Writes.keptAmongOthers (hdecoder : c.decoder = r.openDecoder type) (hnames : r.names.Nodup)
    (hwrites : c.Writes r a) : c.KeptAmongOthers r.names a := by
  obtain ⟨members, hencode, hholds⟩ := hwrites
  have hread (v : Value) (hextended : Value.Extended r.names (c.encode a) v) :
      c.decoder.Reads v a := by
    rw [hencode] at hextended
    rw [hdecoder]
    exact hholds.reads_extended hnames hextended
  refine ⟨⟨_, hencode, ?_⟩, fun v hextended => hread v hextended .value, fun v hextended =>
    (hread v hextended).decodeText⟩
  exact hholds.keys_eq ▸ (Value.sortMembers_perm (hholds.keys_nodup hnames)).map (·.1)

end Codec

end EngineCall.Json
