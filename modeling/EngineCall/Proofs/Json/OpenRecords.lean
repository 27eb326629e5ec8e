import EngineCall.Proofs.Json.Decoders
import EngineCall.Proofs.Json.Records
import EngineCall.Proofs.Results

/-!
# Records among other members

An open record is read from an object as soon as it can be put together from what the object has for
its fields. Members that are no fields change nothing, and neither does the order of all of them, be
the object a value or read from a text. Of an object in a text it is told exactly which faults the
record does not look at.
-/

namespace EngineCall.Json

variable {α β : Type}

namespace Record

/-! ## What an object has for a field -/

variable {origin : Origin} {members : List (String × Value)}

theorem member?_toMembers (name : String) :
    member? (Value.toMembers members) name = (members.lookup name).map Value.toNode := by
  induction members with
  | nil => rfl
  | cons m rest ih =>
      rw [List.lookup_cons]
      by_cases hname : m.1 = name
      case pos => simp [Value.toMembers, member?, hname]
      case neg =>
        have hbeq : (name == m.1) = false := beq_eq_false_iff_ne.mpr (Ne.symm hname)
        rw [hbeq, ← ih]
        simp [Value.toMembers, member?, hname]

theorem node?_ofMembers_eq_lookup (name : String) :
    (ofMembers origin (Value.toMembers members)).node? name =
      .ok ((members.lookup name).map Value.toNode) :=
  congrArg Except.ok (member?_toMembers name)

section

variable {name : String} {d : Decoder α} {v : Value} {a : α}

theorem build_required_of_lookup (hlookup : members.lookup name = some v)
    (hread : d origin v.toNode = .ok a) :
    (required name d).build (ofMembers origin (Value.toMembers members)) = .ok a := by
  simp only [required, node?_ofMembers_eq_lookup, hlookup, bind, Except.bind, Option.map_some]
  exact hread

theorem build_optional_of_lookup {o : Option α} (hlookup : members.lookup name = some v)
    (hread : Decoder.nullable d origin v.toNode = .ok o) :
    (optional name d).build (ofMembers origin (Value.toMembers members)) = .ok o := by
  simp only [optional, node?_ofMembers_eq_lookup, hlookup, bind, Except.bind, Option.map_some]
  exact hread

theorem build_optional_of_missing (hlookup : members.lookup name = none) :
    (optional name d).build (ofMembers origin (Value.toMembers members)) = .ok none := by
  simp only [optional, node?_ofMembers_eq_lookup, hlookup, bind, Except.bind, Option.map_none]
  rfl

theorem build_defaulted_of_lookup (absent : α) (hlookup : members.lookup name = some v)
    (hread : d origin v.toNode = .ok a) :
    (defaulted name d absent).build (ofMembers origin (Value.toMembers members)) = .ok a := by
  simp only [defaulted, node?_ofMembers_eq_lookup, hlookup, bind, Except.bind, Option.map_some]
  exact hread

theorem build_defaulted_of_missing (absent : α) (hlookup : members.lookup name = none) :
    (defaulted name d absent).build (ofMembers origin (Value.toMembers members)) = .ok absent := by
  simp only [defaulted, node?_ofMembers_eq_lookup, hlookup, bind, Except.bind, Option.map_none]

end

section

variable {source : Fields}

theorem build_seq {f : Record (α → β)} {x : Record α} {g : α → β} {a : α}
    (hf : f.build source = .ok g) (hx : x.build source = .ok a) :
    (f <*> x).build source = .ok (g a) :=
  bind_eq_ok_iff.mpr ⟨g, hf, bind_eq_ok_iff.mpr ⟨a, hx, rfl⟩⟩

theorem build_map {x : Record α} {a : α} (f : α → β) (hx : x.build source = .ok a) :
    (f <$> x).build source = .ok (f a) :=
  bind_eq_ok_iff.mpr ⟨f, rfl, bind_eq_ok_iff.mpr ⟨a, hx, rfl⟩⟩

end

/-! ## Open records -/

theorem lookup_of_mem (hnodup : (members.map (·.1)).Nodup) {m : String × Value}
    (hmem : m ∈ members) : members.lookup m.1 = some m.2 := by
  induction members with
  | nil => exact absurd hmem List.not_mem_nil
  | cons first rest ih =>
      obtain ⟨hnot, hrest⟩ := List.nodup_cons.mp hnodup
      rw [List.lookup_cons]
      rcases List.mem_cons.mp hmem with rfl | hmem
      · rw [beq_self_eq_true]
      · have hbeq : (m.1 == first.1) = false := beq_eq_false_iff_ne.mpr fun heq =>
          hnot (List.mem_map.mpr ⟨m, hmem, heq⟩)
        rw [hbeq]
        exact ih hrest hmem

/-- An open record is read from an object exactly if it can be put together from its members. -/
theorem Checked.openDecoder_eq_ok_iff {r : Record α} (hr : r.Checked) {type : String} {a : α}
    (hnodup : (members.map (·.1)).Nodup) :
    r.openDecoder type origin (Value.object members).toNode = .ok a ↔
      r.build (ofMembers origin (Value.toMembers members)) = .ok a := by
  change r.fromMembers false origin (Value.toMembers members) none = .ok a ↔ _
  rw [hr.fromMembers_eq_ok_iff]
  exact and_iff_right ⟨legible_toMembers r.names hnodup, nofun, rfl⟩

/-! ## Trees that supply a record -/

/-- That a tree supplies an open record with nodes for its names, which are what it has for each: it
is an object, or an array that lists them in order. -/
inductive Supplies (names : List String) : Node → (String → Option Node) → Prop where
  | object {members : List (Key × Node)} (hlegible : Legible names members) :
      Supplies names (.object members none) (member? members)
  | array {items : List Node} (hlength : items.length ≤ names.length) :
      Supplies names (.array items none) fun name => items[names.idxOf name]?

end Record

/-- Whether a tree is an array. -/
def Node.isArray : Node → Bool
  | .array _ _ => true
  | _ => false

/-- That a tree is a text. -/
def Node.IsText (node : Node) (s : String) : Prop := node = .string s

/-- That a tree is a list of texts. -/
def Node.IsTexts (node : Node) (texts : List String) : Prop :=
  node = .array (texts.map .string) none

/-- That fields are given by nodes, which a tree has for their names. -/
structure Fields.GivenBy (source : Fields) (origin : Origin) (node : Node)
    (field? : String → Option Node) : Prop where
  nodes : ∀ name, source.node? name = .ok (field? name)
  origin_eq : source.origin = origin
  positional_eq : source.positional = node.isArray

namespace Record

theorem givenBy_ofMembers (origin : Origin) (members : List (Key × Node)) (tail : Option Fault) :
    (ofMembers origin members).GivenBy origin (.object members tail) (member? members) where
  nodes _ := rfl
  origin_eq := rfl
  positional_eq := rfl

theorem givenBy_ofItems (origin : Origin) (type : String) (names : List String)
    (items : List Node) :
    (ofItems type names origin items none).GivenBy origin (.array items none)
      fun name => items[names.idxOf name]? where
  nodes := node?_ofItems type names items
  origin_eq := rfl
  positional_eq := rfl

/-- An open record is read from a tree that supplies what it is put together from. -/
theorem Checked.openDecoder_eq_ok_iff_supplies {r : Record α} (hr : r.Checked) {type : String}
    {Told : (String → Option Node) → α → Prop} {node : Node} {a : α}
    (hbuild : ∀ {source : Fields} {field? : String → Option Node},
      source.GivenBy origin node field? → (r.build source = .ok a ↔ Told field? a)) :
    r.openDecoder type origin node = .ok a ↔
      ∃ field?, Supplies r.names node field? ∧ Told field? a := by
  constructor
  · intro hread
    cases node with
    | object members tail =>
        obtain ⟨⟨hlegible, -, rfl⟩, hbuilt⟩ := hr.fromMembers_eq_ok_iff.mp hread
        exact ⟨_, .object hlegible, (hbuild (givenBy_ofMembers origin members none)).mp hbuilt⟩
    | array items tail =>
        obtain ⟨hbuilt, hlength, rfl⟩ := fromItems_eq_ok_iff.mp hread
        exact ⟨_, .array hlength, (hbuild (givenBy_ofItems origin type r.names items)).mp hbuilt⟩
    | fault | null | bool | number | string => cases hread
  · rintro ⟨field?, hsupplies, htold⟩
    cases hsupplies with
    | object hlegible =>
        have hbuilt := (hbuild (givenBy_ofMembers origin _ none)).mpr htold
        exact hr.fromMembers_eq_ok_iff.mpr ⟨⟨hlegible, nofun, rfl⟩, hbuilt⟩
    | array hlength =>
        have hbuilt := (hbuild (givenBy_ofItems origin type r.names _)).mpr htold
        exact fromItems_eq_ok_iff.mpr ⟨hbuilt, hlength, rfl⟩

/-! ## Fields that may be missing -/

/-- That what stands for a field tells a thing or none. Null tells none, and so does what an object
lacks; an array has to list every field. -/
inductive MayTell (listed : Bool) (ReadFrom : Node → α → Prop) : Option Node → Option α → Prop where
  | missing (hobject : listed = false) : MayTell listed ReadFrom none none
  | null : MayTell listed ReadFrom (some .null) none
  | told {node : Node} {a : α} (hnode : node ≠ .null) (hread : ReadFrom node a) :
      MayTell listed ReadFrom (some node) (some a)

theorem nullable_eq_ok_iff_mayTell {d : Decoder α} {ReadFrom : Node → α → Prop} {listed : Bool}
    (hread : ∀ {node a}, d origin node = .ok a ↔ ReadFrom node a) {node : Node} {o : Option α} :
    Decoder.nullable d origin node = .ok o ↔ MayTell listed ReadFrom (some node) o := by
  rw [Decoder.nullable_eq_ok_iff]
  constructor
  · rintro (⟨rfl, rfl⟩ | ⟨hnode, a, ha, rfl⟩)
    · exact .null
    · exact .told hnode (hread.mp ha)
  · intro htells
    cases htells with
    | null => exact .inl ⟨rfl, rfl⟩
    | told hnode ha => exact .inr ⟨hnode, _, hread.mpr ha, rfl⟩

theorem yields_optional_iff_mayTell {d : Decoder α} {ReadFrom : Node → α → Prop}
    (hread : ∀ {node a}, d origin node = .ok a ↔ ReadFrom node a) {source : Fields} {root : Node}
    {field? : String → Option Node} (hsource : source.GivenBy origin root field?) {name : String}
    {P : Option α → Prop} :
    (optional name d).Yields source P ↔ ∃ o, MayTell root.isArray ReadFrom (field? name) o ∧ P o := by
  simp only [yields_optional, hsource.nodes, hsource.origin_eq, hsource.positional_eq,
    Except.ok.injEq]
  constructor
  · rintro (⟨hmissing, hobject, hnone⟩ | ⟨node, hnode, o, ho, hP⟩)
    · exact ⟨none, hmissing ▸ .missing hobject, hnone⟩
    · exact ⟨o, hnode ▸ (nullable_eq_ok_iff_mayTell hread).mp ho, hP⟩
  · rintro ⟨o, htells, hP⟩
    cases hfield : field? name with
    | none =>
        rw [hfield] at htells
        cases htells with
        | missing hobject => exact .inl ⟨rfl, hobject, hP⟩
    | some node =>
        rw [hfield] at htells
        exact .inr ⟨node, rfl, o, (nullable_eq_ok_iff_mayTell hread).mpr htells, hP⟩

section

variable {source : Fields} {root : Node} {field? : String → Option Node}
  (hsource : source.GivenBy origin root field?)

include hsource

theorem yields_text {name : String} {P : Option String → Prop} :
    (optional name Decoder.string).Yields source P ↔
      ∃ o, MayTell root.isArray Node.IsText (field? name) o ∧ P o :=
  yields_optional_iff_mayTell Decoder.string_eq_ok_iff hsource

theorem yields_texts {name : String} {P : Option (List String) → Prop} :
    (optional name (Decoder.list Decoder.string)).Yields source P ↔
      ∃ o, MayTell root.isArray Node.IsTexts (field? name) o ∧ P o :=
  yields_optional_iff_mayTell Decoder.strings_eq_ok_iff hsource

end

end Record

end EngineCall.Json
