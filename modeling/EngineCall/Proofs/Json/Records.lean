import EngineCall.Json.Codec
import EngineCall.Proofs.Json.Members

/-!
# Records read from objects and arrays

A record is read from an object whose members can be told apart and from which it can be put
together. If every field must be there, it is put together from one value for each of its names, and
from nothing else. A closed record of this kind is therefore read from a value exactly if the value
lists these names: no key may be missing, added or repeated, and no item of an array.
-/

namespace EngineCall.Json

variable {α β : Type}

/-- The fields of a record when there is a value for every name. -/
def Fields.given (member : String → Value) : Fields where
  origin := .value
  positional := false
  node? name := .ok (some (member name).toNode)
  missing name := .mismatch (.missingField name)

namespace Record

/-! ## Putting records together -/

/-- The record can be put together, and is then as `P` says. -/
def Yields (r : Record α) (source : Fields) (P : α → Prop) : Prop :=
  ∃ a, r.build source = .ok a ∧ P a

theorem build_eq_ok_iff {r : Record α} {source : Fields} {a : α} :
    r.build source = .ok a ↔ r.Yields source (· = a) := by
  simp [Yields]

theorem yields_apply {f : Record (α → β)} {x : Record α} {source : Fields} {P : β → Prop} :
    (f.apply x).Yields source P ↔ f.Yields source fun g => x.Yields source fun a => P (g a) := by
  simp only [Yields, apply, bind, Except.bind]
  cases f.build source with
  | error e => simp
  | ok g =>
      cases x.build source with
      | error e => simp
      | ok a => simp [Pure.pure, Except.pure]

@[simp] theorem yields_seq {f : Record (α → β)} {x : Record α} {source : Fields} {P : β → Prop} :
    (f <*> x).Yields source P ↔ f.Yields source fun g => x.Yields source fun a => P (g a) :=
  yields_apply

@[simp] theorem yields_map {f : α → β} {x : Record α} {source : Fields} {P : β → Prop} :
    (f <$> x).Yields source P ↔ x.Yields source fun a => P (f a) := by
  change ((Record.pure f).apply x).Yields source P ↔ _
  rw [yields_apply]
  simp [Yields, Record.pure]

theorem yields_required {name : String} {d : Decoder α} {source : Fields} {P : α → Prop} :
    (required name d).Yields source P ↔
      ∃ node, source.node? name = .ok (some node) ∧ ∃ a, d source.origin node = .ok a ∧ P a := by
  simp only [Yields, required, bind, Except.bind]
  cases source.node? name with
  | error e => simp
  | ok found => cases found <;> simp

theorem yields_defaulted {name : String} {d : Decoder α} {absent : α} {source : Fields}
    {P : α → Prop} :
    (defaulted name d absent).Yields source P ↔
      (source.node? name = .ok none ∧ P absent) ∨
        ∃ node, source.node? name = .ok (some node) ∧
          ∃ a, d source.origin node = .ok a ∧ P a := by
  simp only [Yields, defaulted, bind, Except.bind]
  cases source.node? name with
  | error e => simp
  | ok found => cases found <;> simp

theorem yields_optional {name : String} {d : Decoder α} {source : Fields}
    {P : Option α → Prop} :
    (optional name d).Yields source P ↔
      (source.node? name = .ok none ∧ source.positional = false ∧ P none) ∨
        ∃ node, source.node? name = .ok (some node) ∧
          ∃ o, Decoder.nullable d source.origin node = .ok o ∧ P o := by
  simp only [Yields, optional, bind, Except.bind]
  cases source.node? name with
  | error e => simp
  | ok found =>
      cases found with
      | none => cases source.positional <;> simp
      | some node => simp

@[simp] theorem yields_required_given {name : String} {d : Decoder α} {member : String → Value}
    {P : α → Prop} :
    (required name d).Yields (.given member) P ↔ ∃ a, d.fromValue (member name) = .ok a ∧ P a :=
  Iff.rfl

/-! ## Checks -/

/-- If the record can be put together, the fields that are there pass their checks. -/
def Checked (r : Record α) : Prop :=
  ∀ source a, r.build source = .ok a → ∀ field ∈ r.fields, ∀ node,
    source.node? field.name = .ok (some node) → field.check source.origin node = .ok ()

namespace Checked

theorem pure (a : α) : (Record.pure a).Checked :=
  fun _ _ _ _ hfield => absurd hfield List.not_mem_nil

theorem apply {f : Record (α → β)} {x : Record α} (hf : f.Checked) (hx : x.Checked) :
    (f.apply x).Checked := by
  intro source b hbuild field hfield
  obtain ⟨g, hg, hrest⟩ := bind_eq_ok_iff.mp hbuild
  obtain ⟨a, ha, -⟩ := bind_eq_ok_iff.mp hrest
  rcases List.mem_append.mp hfield with hfield | hfield
  · exact hf source g hg field hfield
  · exact hx source a ha field hfield

theorem map {x : Record α} (f : α → β) (hx : x.Checked) : (f <$> x).Checked :=
  (pure f).apply hx

theorem seq {f : Record (α → β)} {x : Record α} (hf : f.Checked) (hx : x.Checked) :
    (f <*> x).Checked := hf.apply hx

theorem required (name : String) (d : Decoder α) : (Record.required name d).Checked := by
  intro source a hbuild field hfield node hnode
  rw [List.mem_singleton.mp hfield] at hnode ⊢
  obtain ⟨found, hfound, hread⟩ := bind_eq_ok_iff.mp hbuild
  cases hfound.symm.trans hnode
  exact map_eq_ok_iff.mpr ⟨a, hread, rfl⟩

theorem optional (name : String) (d : Decoder α) : (Record.optional name d).Checked := by
  intro source o hbuild field hfield node hnode
  rw [List.mem_singleton.mp hfield] at hnode ⊢
  obtain ⟨found, hfound, hread⟩ := bind_eq_ok_iff.mp hbuild
  cases hfound.symm.trans hnode
  exact map_eq_ok_iff.mpr ⟨o, hread, rfl⟩

theorem defaulted (name : String) (d : Decoder α) (absent : α) :
    (Record.defaulted name d absent).Checked := by
  intro source a hbuild field hfield node hnode
  rw [List.mem_singleton.mp hfield] at hnode ⊢
  obtain ⟨found, hfound, hread⟩ := bind_eq_ok_iff.mp hbuild
  cases hfound.symm.trans hnode
  exact map_eq_ok_iff.mpr ⟨a, hread, rfl⟩

end Checked

/-! ## Strict records -/

/-- A record all of whose fields must be there, and that is made of nothing but their nodes. -/
structure Strict (r : Record α) : Prop where
  /-- If it can be put together, every field is there and passes its check. -/
  present : ∀ {source : Fields} {a : α}, r.build source = .ok a → ∀ field ∈ r.fields,
    ∃ node, source.node? field.name = .ok (some node) ∧ field.check source.origin node = .ok ()
  /-- Sources with the same nodes for its fields give the same record. -/
  agrees : ∀ {source source' : Fields}, source.origin = source'.origin →
    (∀ name ∈ r.names, ∃ node, source.node? name = .ok (some node) ∧
      source'.node? name = .ok (some node)) → r.build source = r.build source'

namespace Strict

theorem checked {r : Record α} (hr : r.Strict) : r.Checked := by
  intro source a hbuild field hfield node hnode
  obtain ⟨node', hnode', hcheck⟩ := hr.present hbuild field hfield
  cases hnode.symm.trans hnode'
  exact hcheck

theorem pure (a : α) : (Record.pure a).Strict where
  present _ _ hfield := absurd hfield List.not_mem_nil
  agrees _ _ := rfl

theorem apply {f : Record (α → β)} {x : Record α} (hf : f.Strict) (hx : x.Strict) :
    (f.apply x).Strict where
  present := by
    intro source b hbuild field hfield
    obtain ⟨g, hg, a, ha, _⟩ := yields_apply.mp (build_eq_ok_iff.mp hbuild)
    rcases List.mem_append.mp hfield with hfield | hfield
    · exact hf.present hg field hfield
    · exact hx.present ha field hfield
  agrees := by
    intro source source' horigin hnodes
    have hnames : (f.apply x).names = f.names ++ x.names := List.map_append
    have hf' : f.build source = f.build source' := by
      refine hf.agrees horigin fun name hname => hnodes name ?_
      rw [hnames]
      exact List.mem_append_left _ hname
    have hx' : x.build source = x.build source' := by
      refine hx.agrees horigin fun name hname => hnodes name ?_
      rw [hnames]
      exact List.mem_append_right _ hname
    simp only [Record.apply, hf', hx']

theorem map {x : Record α} (f : α → β) (hx : x.Strict) : (f <$> x).Strict :=
  (Strict.pure f).apply hx

theorem seq {f : Record (α → β)} {x : Record α} (hf : f.Strict) (hx : x.Strict) :
    (f <*> x).Strict := hf.apply hx

theorem required (name : String) (d : Decoder α) : (Record.required name d).Strict where
  present := by
    intro source a hbuild field hfield
    rw [List.mem_singleton.mp hfield]
    simp only [Record.required] at hbuild
    cases hnode : source.node? name with
    | error e => simp [hnode, bind, Except.bind] at hbuild
    | ok found =>
        cases found with
        | none => simp [hnode, bind, Except.bind] at hbuild
        | some node =>
            simp only [hnode, bind, Except.bind] at hbuild
            exact ⟨node, rfl, by simp only [hbuild, Except.map]⟩
  agrees := by
    intro source source' horigin hnodes
    obtain ⟨node, hnode, hnode'⟩ := hnodes name List.mem_cons_self
    simp only [Record.required, hnode, hnode', horigin, bind, Except.bind]

end Strict

/-! ## Members of an object -/

/-- A record is read from an object exactly if its members can be told apart, a closed record knows
them all, nothing is broken behind them, and it can be put together from them. -/
theorem Checked.fromMembers_eq_ok_iff {r : Record α} (hr : r.Checked) {closed : Bool}
    {origin : Origin} {members : List (Key × Node)} {tail : Option Fault} {a : α} :
    r.fromMembers closed origin members tail = .ok a ↔
      (Legible r.names members ∧
        (closed = true → ∀ name, .name name ∈ members.map (·.1) → name ∈ r.names) ∧ tail = none) ∧
        r.build (ofMembers origin members) = .ok a := by
  constructor
  · intro hread
    obtain ⟨_, hvisit, hbuild⟩ := bind_eq_ok_iff.mp hread
    obtain ⟨htail, hlegible, hknown, -⟩ := legible_of_visit (List.forall_mem_nil _) hvisit
    exact ⟨⟨hlegible, hknown, htail⟩, hbuild⟩
  · rintro ⟨⟨hlegible, hknown, rfl⟩, hbuild⟩
    refine bind_eq_ok_iff.mpr
      ⟨(), visit_of_legible hlegible hknown (List.forall_mem_nil _) ?_, hbuild⟩
    intro name node hm field hfind
    obtain ⟨hfield, rfl⟩ := name_of_find? hfind
    -- the node that the field is put together from is the one that is visited
    have hnode := hlegible.member?_of_mem (List.mem_map_of_mem hfield) hm
    exact hr _ a hbuild field hfield node (congrArg Except.ok hnode)

/-- The node of a key that comes once. -/
theorem node?_ofMembers {origin : Origin} {members : List (String × Value)}
    (hnodup : (members.map (·.1)).Nodup) {k : String} {v : Value} (hmem : (k, v) ∈ members) :
    (ofMembers origin (Value.toMembers members)).node? k = .ok (some v.toNode) := by
  refine congrArg Except.ok ?_
  refine (legible_toMembers [k] hnodup).member?_of_mem (List.mem_singleton_self k) ?_
  rw [Value.toMembers_eq_map]
  exact List.mem_map.mpr ⟨_, hmem, rfl⟩

section Strict

variable {r : Record α} {type : String} {member : String → Value} {a : α}

/-- A record is read from an object that has one member for each of its names. -/
theorem Strict.fromMembers_of_perm (hstrict : r.Strict) (hnames : r.names.Nodup) (closed : Bool)
    {members : List (String × Value)}
    (hmembers : members.Perm (r.names.map fun name => (name, member name)))
    (hbuild : r.build (.given member) = .ok a) :
    r.fromMembers closed .value (Value.toMembers members) none = .ok a := by
  have hkeys : (members.map (·.1)).Perm r.names := by
    simpa [Function.comp_def] using hmembers.map (·.1)
  have hnodup : (members.map (·.1)).Nodup := hkeys.nodup_iff.mpr hnames
  have hlisted : ∀ name ∈ r.names, (name, member name) ∈ members :=
    fun name hname => hmembers.mem_iff.mpr (List.mem_map_of_mem hname)
  have hlegible := legible_toMembers r.names hnodup
  refine hstrict.checked.fromMembers_eq_ok_iff.mpr ⟨⟨hlegible, fun _ name hm => ?_, rfl⟩, ?_⟩
  · exact hkeys.mem_iff.mp (name_mem_keys_toMembers.mp hm)
  · rw [← hbuild]
    refine hstrict.agrees rfl fun name hname => ?_
    exact ⟨_, node?_ofMembers hnodup (hlisted name hname), rfl⟩

/-- A closed record is read from no other object. -/
theorem Strict.perm_of_fromMembers (hstrict : r.Strict) (hnames : r.names.Nodup)
    {members : List (String × Value)}
    (hread : r.fromMembers true .value (Value.toMembers members) none = .ok a) :
    ∃ member, members.Perm (r.names.map fun name => (name, member name)) ∧
      r.build (.given member) = .ok a := by
  obtain ⟨⟨hlegible, hknown, -⟩, hbuild⟩ := hstrict.checked.fromMembers_eq_ok_iff.mp hread
  have hknown (name : String) (hname : name ∈ members.map (·.1)) : name ∈ r.names :=
    hknown rfl name (name_mem_keys_toMembers.mpr hname)
  have hnodup := hlegible.nodup fun m hm => hknown m.1 (List.mem_map_of_mem hm)
  have hkeys : (members.map (·.1)).Perm r.names := by
    refine (List.perm_ext_iff_of_nodup hnodup hnames).mpr fun name => ⟨hknown name, ?_⟩
    intro hname
    obtain ⟨field, hfield, rfl⟩ := List.mem_map.mp hname
    obtain ⟨node, hnode, _⟩ := hstrict.present hbuild field hfield
    have hmem := mem_of_member?_eq_some (Except.ok.inj hnode)
    exact name_mem_keys_toMembers.mp (List.mem_map_of_mem hmem)
  refine ⟨(Value.object members).get, ?_, ?_⟩
  · have hperm := hkeys.map fun name => (name, (Value.object members).get name)
    rwa [← Value.members_eq_map_get hnodup] at hperm
  · rw [← hbuild]
    refine hstrict.agrees rfl fun name hname => ?_
    obtain ⟨⟨k, v⟩, hm, rfl⟩ := List.mem_map.mp (hkeys.mem_iff.mpr hname)
    refine ⟨v.toNode, ?_, node?_ofMembers hnodup hm⟩
    simp only [Fields.given, Value.get_of_mem hnodup hm]

/-! ## Items of an array -/

theorem node?_ofItems {origin : Origin} (type : String) (names : List String) (items : List Node)
    (name : String) :
    (ofItems type names origin items none).node? name = .ok items[names.idxOf name]? := by
  simp only [ofItems]
  cases items[names.idxOf name]? <;> rfl

/-- A record is read from an array that has no more items than it has fields, and from which it can
be put together. -/
theorem fromItems_eq_ok_iff {origin : Origin} {items : List Node} {tail : Option Fault} :
    r.fromItems type origin items tail = .ok a ↔
      r.build (ofItems type r.names origin items tail) = .ok a ∧
        items.length ≤ r.names.length ∧ tail = none := by
  simp only [fromItems, bind, Except.bind]
  cases r.build (ofItems type r.names origin items tail) with
  | error e => simp
  | ok b =>
      by_cases hlong : items.length > r.names.length
      · have hnot : ¬ items.length ≤ r.names.length := Nat.not_le_of_gt hlong
        cases origin <;> simp [hlong, hnot]
      · cases tail <;> simp [hlong, Decoder.finish, Pure.pure, Except.pure]
        omega

/-- A record is read from an array that has one item for each of its names. -/
theorem Strict.fromItems_map (hstrict : r.Strict) (hbuild : r.build (.given member) = .ok a) :
    r.fromItems type .value (Value.toNodes (r.names.map member)) none = .ok a := by
  refine fromItems_eq_ok_iff.mpr ⟨?_, by simp [Value.toNodes_eq_map], rfl⟩
  rw [← hbuild]
  refine hstrict.agrees rfl fun name hname => ⟨_, ?_, rfl⟩
  have hlt : r.names.idxOf name < r.names.length := List.idxOf_lt_length_iff.mpr hname
  simp [node?_ofItems, Value.toNodes_eq_map, List.getElem?_eq_getElem hlt]

/-- A record is read from no other array. -/
theorem Strict.eq_map_of_fromItems (hstrict : r.Strict) (hnames : r.names.Nodup)
    {items : List Value} (hread : r.fromItems type .value (Value.toNodes items) none = .ok a) :
    ∃ member, items = r.names.map member ∧ r.build (.given member) = .ok a := by
  obtain ⟨hbuild, hlength, -⟩ := fromItems_eq_ok_iff.mp hread
  rw [Value.toNodes_eq_map, List.length_map] at hlength
  have hthere (name : String) (hname : name ∈ r.names) : r.names.idxOf name < items.length := by
    obtain ⟨field, hfield, rfl⟩ := List.mem_map.mp hname
    obtain ⟨node, hnode, _⟩ := hstrict.present hbuild field hfield
    rw [node?_ofItems, Value.toNodes_eq_map, List.getElem?_map] at hnode
    obtain ⟨v, hv, _⟩ := Option.map_eq_some_iff.mp (Except.ok.inj hnode)
    exact (List.getElem?_eq_some_iff.mp hv).1
  -- a name beyond the last item would have no node
  have hsame : items.length = r.names.length := by
    refine Nat.le_antisymm hlength (Nat.le_of_not_lt fun hshort => ?_)
    have hbeyond := hthere r.names[items.length] (List.getElem_mem hshort)
    rw [hnames.idxOf_getElem] at hbeyond
    exact Nat.lt_irrefl _ hbeyond
  refine ⟨fun name => items[r.names.idxOf name]?.getD .null, ?_, ?_⟩
  · refine List.ext_getElem (by simp [hsame]) fun i hi hi' => ?_
    simp only [List.getElem_map, hnames.idxOf_getElem, List.getElem?_eq_getElem hi,
      Option.getD_some]
  · rw [← hbuild]
    refine hstrict.agrees rfl fun name hname => ⟨_, rfl, ?_⟩
    simp only [node?_ofItems, Value.toNodes_eq_map, List.getElem?_map,
      List.getElem?_eq_getElem (hthere name hname), Option.map_some, Option.getD_some]

/-! ## Decoding strict records -/

variable {v : Value}

/-- A record is read from every value that lists its names. -/
theorem Strict.decoder_of_lists (hstrict : r.Strict) (hnames : r.names.Nodup) (closed : Bool)
    (hlists : v.Lists r.names member) (hbuild : r.build (.given member) = .ok a) :
    (r.decoder type closed).fromValue v = .ok a := by
  cases hlists with
  | object hmembers => exact hstrict.fromMembers_of_perm hnames closed hmembers hbuild
  | array => exact hstrict.fromItems_map hbuild

/-- A closed record is read exactly from the values that list its names. -/
theorem Strict.closedDecoder_eq_ok_iff (hstrict : r.Strict) (hnames : r.names.Nodup) :
    (r.closedDecoder type).fromValue v = .ok a ↔
      ∃ member, v.Lists r.names member ∧ r.build (.given member) = .ok a := by
  constructor
  · intro hread
    cases v with
    | object members =>
        obtain ⟨member, hmembers, hbuild⟩ := hstrict.perm_of_fromMembers hnames hread
        exact ⟨member, .object hmembers, hbuild⟩
    | array items =>
        obtain ⟨member, rfl, hbuild⟩ := hstrict.eq_map_of_fromItems hnames hread
        exact ⟨member, .array, hbuild⟩
    | null | bool | number | string => cases hread
  · rintro ⟨member, hlists, hbuild⟩
    exact hstrict.decoder_of_lists hnames true hlists hbuild

end Strict

/-! ## Described records -/

/-- A record of which it is known what it is put together from: members of the given names, all of
which must be there, read as `ReadFrom` says. -/
structure Described (r : Record α) (names : List String) (ReadFrom : α → (String → Value) → Prop) :
    Prop where
  strict : r.Strict
  names_eq : r.names = names
  nodup : names.Nodup
  build_eq_ok_iff : ∀ {member : String → Value} {a : α},
    r.build (.given member) = .ok a ↔ ReadFrom a member

namespace Described

variable {r : Record α} {names : List String} {ReadFrom : α → (String → Value) → Prop}
  {type : String} {a : α}

theorem names_nodup (h : r.Described names ReadFrom) : r.names.Nodup := h.names_eq ▸ h.nodup

theorem closedDecoder_eq_ok_iff (h : r.Described names ReadFrom) {v : Value} :
    (r.closedDecoder type).fromValue v = .ok a ↔
      ∃ member, v.Lists names member ∧ ReadFrom a member := by
  simp only [h.strict.closedDecoder_eq_ok_iff h.names_nodup, h.names_eq, h.build_eq_ok_iff]

/-- What lists the members of a record lists those of no other. -/
theorem unique (h : r.Described names ReadFrom) {v : Value} {a b : α}
    (ha : ∃ member, v.Lists names member ∧ ReadFrom a member)
    (hb : ∃ member, v.Lists names member ∧ ReadFrom b member) : a = b := by
  have hreada : (r.closedDecoder "").fromValue v = .ok a := h.closedDecoder_eq_ok_iff.mpr ha
  have hreadb : (r.closedDecoder "").fromValue v = .ok b := h.closedDecoder_eq_ok_iff.mpr hb
  exact Except.ok.inj (hreada.symm.trans hreadb)

end Described

end Record

end EngineCall.Json
