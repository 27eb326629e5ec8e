import EngineCall.Json.Codec
import EngineCall.Proofs.Json.Values
import EngineCall.Proofs.Results

/-!
# Untagged alternatives and lossless codecs

A choice between alternatives that never disagree accepts what any of them accepts, whatever their
order. A codec is lossless if decoding undoes encoding; then the normal form of an accepted value is
accepted, and is its own normal form. It is faithful if decoding undoes encoding in a text as well,
and steady if it is as good as lossless for the values that are read.
-/

namespace EngineCall.Json

variable {α β : Type}

/-! ## Alternatives -/

namespace Decoder

variable {type : String} {alternatives : List (Decoder α)} {v : Value} {a : α}

/-- A value has no faults, so that only the alternatives decide. -/
theorem fromValue_firstOf :
    (firstOf type alternatives).fromValue v =
      match alternatives.findSome? fun d => (d.fromValue v).toOption with
      | some a => .ok a
      | none => .error (.mismatch (.noVariant type)) := by
  obtain ⟨w, hw⟩ := v.exists_toValue_toNode
  unfold fromValue firstOf
  split
  next flaw hflaw =>
    rw [hw] at hflaw
    cases hflaw
  next => rfl

/-- Where the alternatives that accept give one answer, their order does not matter. -/
theorem fromValue_firstOf_eq_ok_iff
    (hagree : ∀ d ∈ alternatives, ∀ d' ∈ alternatives, ∀ a a',
      d.fromValue v = .ok a → d'.fromValue v = .ok a' → a = a') :
    (firstOf type alternatives).fromValue v = .ok a ↔
      ∃ d ∈ alternatives, d.fromValue v = .ok a := by
  rw [fromValue_firstOf]
  cases hfind : alternatives.findSome? fun d => (d.fromValue v).toOption with
  | some b =>
      obtain ⟨d, hd, hb⟩ := List.exists_of_findSome?_eq_some hfind
      have hb := toOption_eq_some_iff.mp hb
      constructor
      · intro hab
        exact ⟨d, hd, Except.ok.inj hab ▸ hb⟩
      · rintro ⟨d', hd', ha⟩
        exact congrArg Except.ok (hagree d hd d' hd' b a hb ha)
  | none =>
      have hnone := List.findSome?_eq_none_iff.mp hfind
      simp only [reduceCtorEq, false_iff]
      rintro ⟨d, hd, ha⟩
      simpa [ha, Except.toOption] using hnone d hd

/-- A value that no alternative accepts is refused, without telling why. -/
theorem fromValue_firstOf_eq_error (hrefused : ∀ d ∈ alternatives, ∀ a, d.fromValue v ≠ .ok a) :
    (firstOf type alternatives).fromValue v = .error (.mismatch (.noVariant type)) := by
  have hfind : (alternatives.findSome? fun d => (d.fromValue v).toOption) = none := by
    refine List.findSome?_eq_none_iff.mpr fun d hd => ?_
    cases hread : d.fromValue v with
    | ok a => exact absurd hread (hrefused d hd a)
    | error e => rfl
  rw [fromValue_firstOf, hfind]

/-- A text is read from a text alone. -/
theorem fromValue_string_eq_ok_iff {s : String} : string.fromValue v = .ok s ↔ v = .string s := by
  constructor
  · intro hread
    cases v with
    | string t => exact congrArg Value.string (Except.ok.inj hread)
    | null | bool | number | array | object => cases hread
  · rintro rfl
    rfl

theorem fromValue_string_eq_error_iff {f : Failure} :
    string.fromValue v = .error f ↔ (∀ s, v ≠ .string s) ∧ f = invalidType v.toNode "a string" := by
  cases v with
  | string s =>
      constructor
      · intro hread
        cases hread
      · rintro ⟨hv, -⟩
        exact absurd rfl (hv s)
  | null | bool | number | array | object =>
      constructor
      · intro hread
        cases hread
        exact ⟨fun s => nofun, rfl⟩
      · rintro ⟨-, rfl⟩
        rfl

theorem fromValue_parsed_eq_ok_iff {read : String → Except String α} :
    (parsed read).fromValue v = .ok a ↔ ∃ s, v = .string s ∧ read s = .ok a := by
  constructor
  · intro hread
    obtain ⟨s, hs, hread⟩ := bind_eq_ok_iff.mp hread
    refine ⟨s, fromValue_string_eq_ok_iff.mp hs, ?_⟩
    split at hread
    next b hb =>
      cases hread
      exact hb
    next => cases hread
  · rintro ⟨s, rfl, hread⟩
    exact bind_eq_ok_iff.mpr ⟨s, rfl, by rw [hread]⟩

theorem nullable_toNode {d : Decoder α} {origin : Origin} (hv : v ≠ .null) :
    nullable d origin v.toNode = (d origin v.toNode).map some := by
  cases v with
  | null => exact absurd rfl hv
  | bool | number | string | array | object => rfl

/-- What a decoder gives under a constructor. -/
theorem fromValue_map_eq_ok_iff {d : Decoder α} {f : α → β} {b : β} :
    fromValue (fun origin node => (d origin node).map f) v = .ok b ↔
      ∃ a, d.fromValue v = .ok a ∧ f a = b :=
  map_eq_ok_iff

/-- Something is read from a value, and from the tree of the value in a text. -/
def Reads (d : Decoder α) (v : Value) (a : α) : Prop := ∀ origin, d origin v.toNode = .ok a

end Decoder

/-! ## Lossless codecs -/

namespace Codec

/-- Decoding undoes encoding. -/
def Lossless (c : Codec α) : Prop := ∀ a, c.decode (c.encode a) = .ok a

theorem string_lossless : string.Lossless := fun _ => rfl

/-- Texts that are read as they are written make a lossless codec. -/
theorem lossless_parsed {read : String → Except String α} {write : α → String}
    (hread : ∀ a, read (write a) = .ok a) :
    (Codec.mk (Decoder.parsed read) fun a => .string (write a)).Lossless := by
  intro a
  simp only [decode, Decoder.fromValue, Decoder.parsed, Decoder.string, Decoder.text, Value.toNode,
    bind, Except.bind, hread]

/-- Reading undoes writing item by item. -/
theorem mapM_map_eq_ok {ε : Type} {read : β → Except ε α} {write : α → β}
    (hread : ∀ a, read (write a) = .ok a) (items : List α) :
    (items.map write).mapM read = .ok items := by
  rw [mapM_eq_ok_iff, List.map_map]
  exact List.map_congr_left fun a _ => hread a

/-- Items that are read back from what is written of them make a list that is. -/
theorem decoder_list {item : Codec α} {origin : Origin}
    (hitem : ∀ a, item.decoder origin (item.encode a).toNode = .ok a) (items : List α) :
    (list item).decoder origin ((list item).encode items).toNode = .ok items := by
  have hitems : (items.map fun a => (item.encode a).toNode).mapM (item.decoder origin) =
      .ok items := by
    apply mapM_map_eq_ok
    exact hitem
  simp only [list, Value.toNode, Value.toNodes_eq_map, List.map_map, Function.comp_def,
    Decoder.list, hitems]
  rfl

theorem Lossless.list {item : Codec α} (hitem : item.Lossless) : (Codec.list item).Lossless :=
  decoder_list hitem

/-- An array is read item by item. -/
theorem decode_list_array (item : Codec α) (items : List Value) :
    (list item).decode (.array items) = items.mapM item.decode := by
  simp only [decode, Decoder.fromValue, list, Decoder.list, Value.toNode, Value.toNodes_eq_map,
    List.mapM_map]
  change (items.mapM item.decode >>= fun read => Except.ok read) = items.mapM item.decode
  cases items.mapM item.decode <;> rfl

theorem exists_texts {items : List Value} (hitems : ∀ v ∈ items, ∃ s, string.decode v = .ok s) :
    ∃ texts : List String, items = texts.map .string := by
  induction items with
  | nil => exact ⟨[], rfl⟩
  | cons v rest ih =>
      obtain ⟨⟨s, hs⟩, hrest⟩ := List.forall_mem_cons.mp hitems
      obtain ⟨texts, rfl⟩ := ih hrest
      exact ⟨s :: texts, by rw [Decoder.fromValue_string_eq_ok_iff.mp hs, List.map_cons]⟩

theorem mapM_string (texts : List String) :
    (texts.map Value.string).mapM string.decode = .ok texts :=
  mapM_map_eq_ok string_lossless texts

theorem eq_map_of_mapM_string {items : List Value} {texts : List String}
    (hread : items.mapM string.decode = .ok texts) : items = texts.map .string := by
  obtain ⟨texts', rfl⟩ := exists_texts (exists_map_eq_ok_iff.mp ⟨texts, mapM_eq_ok_iff.mp hread⟩)
  rw [mapM_string] at hread
  rw [Except.ok.inj hread]

/-- A list of texts is read from an array of them alone. -/
theorem decode_strings_eq_ok_iff {v : Value} {texts : List String} :
    (list string).decode v = .ok texts ↔ v = .ofStrings texts := by
  constructor
  · intro hread
    cases v with
    | array items =>
        rw [decode_list_array] at hread
        rw [eq_map_of_mapM_string hread, Value.ofStrings]
    | null | bool | number | string | object => cases hread
  · rintro rfl
    exact string_lossless.list texts

/-- The normal form of a value. -/
theorem fromValue_normal_eq_ok_iff {c : Codec α} {v w : Value} :
    c.normal.fromValue v = .ok w ↔ ∃ a, c.decode v = .ok a ∧ c.encode a = w :=
  Decoder.fromValue_map_eq_ok_iff

/-- What is written is read back. Whatever is read has a normal form that is read as the same, and
that is its own normal form. -/
structure RoundTrips (c : Codec α) : Prop where
  lossless : c.Lossless
  decode_normal : ∀ v w, c.normal.fromValue v = .ok w → c.decode w = c.decode v
  normal_normal : ∀ v w, c.normal.fromValue v = .ok w → c.normal.fromValue w = .ok w

theorem Lossless.roundTrips {c : Codec α} (hc : c.Lossless) : c.RoundTrips where
  lossless := hc
  decode_normal v w hnormal := by
    obtain ⟨a, hread, rfl⟩ := fromValue_normal_eq_ok_iff.mp hnormal
    exact (hc a).trans hread.symm
  normal_normal v w hnormal := by
    obtain ⟨a, -, rfl⟩ := fromValue_normal_eq_ok_iff.mp hnormal
    exact fromValue_normal_eq_ok_iff.mpr ⟨a, hc a, rfl⟩

/-! ## Faithful codecs -/

/-- What is written is read back, as a value and in a text. -/
def Faithful (c : Codec α) : Prop := ∀ a, c.decoder.Reads (c.encode a) a

theorem Faithful.lossless {c : Codec α} (hc : c.Faithful) : c.Lossless := fun a => hc a .value

/-- A decoder that does not look at the origin reads in a text what it reads as a value. -/
theorem Lossless.faithful {c : Codec α} (hc : c.Lossless)
    (hblind : ∀ origin, c.decoder origin = c.decoder .value) : c.Faithful := by
  intro a origin
  rw [hblind]
  exact hc a

theorem boolean_faithful : boolean.Faithful := fun _ _ => rfl

theorem string_faithful : string.Faithful := fun _ _ => rfl

theorem Faithful.list {item : Codec α} (hitem : item.Faithful) : (Codec.list item).Faithful :=
  fun items origin => decoder_list (fun a => hitem a origin) items

theorem Faithful.nullable {inner : Codec α} (hinner : inner.Faithful)
    (hnull : ∀ a, inner.encode a ≠ .null) : (Codec.nullable inner).Faithful := by
  intro o origin
  cases o with
  | none => rfl
  | some a =>
      refine (Decoder.nullable_toNode (hnull a)).trans ?_
      rw [hinner a origin]
      rfl

/-! ## Steady codecs -/

/-- What is written of anything that was read is read as the same, and is not null, which stands for
what is not there. Not every value need be read back: some may never be the ones that are read. -/
structure Steady (c : Codec α) : Prop where
  decode_encode : ∀ {v : Value} {a : α}, c.decode v = .ok a → c.decode (c.encode a) = .ok a
  encode_ne_null : ∀ a, c.encode a ≠ .null

theorem Lossless.steady {c : Codec α} (hc : c.Lossless) (hnull : ∀ a, c.encode a ≠ .null) :
    c.Steady := ⟨fun _ => hc _, hnull⟩

/-- Of what is read, different values are written differently. -/
theorem Steady.encode_injective {c : Codec α} (hc : c.Steady) {v v' : Value} {a a' : α}
    (hread : c.decode v = .ok a) (hread' : c.decode v' = .ok a') (heq : c.encode a = c.encode a') :
    a = a' := by
  have hback : c.decode (c.encode a) = .ok a' := heq ▸ hc.decode_encode hread'
  exact Except.ok.inj ((hc.decode_encode hread).symm.trans hback)

end Codec

end EngineCall.Json
