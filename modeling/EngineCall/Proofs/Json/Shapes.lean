import EngineCall.Proofs.Json.Codecs

/-!
# Versions told by their shape

The values of a type may have versions of which JSON carries no mark: a version is told by which
fields there are. A choice between one closed record for each version then reads every value as the
one version whose fields it lists, provided that no two versions have equally many fields.
-/

namespace EngineCall.Json

variable {α : Type}

/-- The shapes of a type whose values have versions: the names of the fields of a value's version,
and what it means that its fields are read from members of these names. -/
structure Shapes (α : Type) where
  version : α → Nat
  fieldNames : α → List String
  ReadFrom : α → (String → Value) → Prop

/-- A JSON value spells a value if it lists the fields of its version, each of them readable. -/
def Shapes.Spelled (s : Shapes α) (a : α) (v : Value) : Prop :=
  ∃ member, v.Lists (s.fieldNames a) member ∧ s.ReadFrom a member

theorem Shapes.Spelled.width_eq {s : Shapes α} {a : α} {v : Value} (hspelled : s.Spelled a v) :
    v.width = (s.fieldNames a).length := by
  obtain ⟨member, hlists, -⟩ := hspelled
  exact hlists.width_eq

namespace Codec

/-- A codec that tells the version of a value by its shape; `type` is what it calls the values. -/
structure ToldByShape (c : Codec α) (type : String) (s : Shapes α) : Prop where
  /-- Read is exactly what spells a value. -/
  decode_eq_ok_iff : ∀ v a, c.decode v = .ok a ↔ s.Spelled a v
  /-- All else is refused. -/
  refuses : ∀ v, (∀ a, ¬ s.Spelled a v) → c.decode v = .error (.mismatch (.noVariant type))
  /-- Nothing spells two values, nor therefore two versions. -/
  unique : ∀ v a b, s.Spelled a v → s.Spelled b v → a = b
  /-- With one member more or less an object has another version, if it is read at all. -/
  resized : ∀ members members' m a b, members'.Perm (m :: members) →
    c.decode (.object members) = .ok a → c.decode (.object members') = .ok b →
    s.version a ≠ s.version b

/-- Versions are told by shape if each alternative accepts the spellings of one version, of which
nothing is a spelling twice, and the number of fields tells the versions apart. -/
theorem toldByShape {c : Codec α} {type : String} {s : Shapes α} {alternatives : List (Decoder α)}
    (hdecoder : c.decoder = .firstOf type alternatives)
    (haccepts : ∀ v a, (∃ d ∈ alternatives, d.fromValue v = .ok a) ↔ s.Spelled a v)
    (hwidths : ∀ a b, (s.fieldNames a).length = (s.fieldNames b).length ↔
      s.version a = s.version b)
    (hsame : ∀ v a b, s.version a = s.version b → s.Spelled a v → s.Spelled b v → a = b) :
    c.ToldByShape type s := by
  have hunique (v : Value) (a b : α) (ha : s.Spelled a v) (hb : s.Spelled b v) : a = b :=
    hsame v a b ((hwidths a b).mp (ha.width_eq.symm.trans hb.width_eq)) ha hb
  have hdecode (v : Value) (a : α) : c.decode v = .ok a ↔ s.Spelled a v := by
    rw [← haccepts, decode, hdecoder]
    refine Decoder.fromValue_firstOf_eq_ok_iff ?_
    intro d hd d' hd' a b ha hb
    exact hunique v a b ((haccepts v a).mp ⟨d, hd, ha⟩) ((haccepts v b).mp ⟨d', hd', hb⟩)
  refine ⟨hdecode, ?_, hunique, ?_⟩
  · intro v hnone
    rw [decode, hdecoder]
    refine Decoder.fromValue_firstOf_eq_error ?_
    intro d hd a ha
    exact hnone a ((haccepts v a).mp ⟨d, hd, ha⟩)
  · intro members members' m a b hperm ha hb hversion
    have hmembers := ((hdecode _ a).mp ha).width_eq
    have hmembers' := ((hdecode _ b).mp hb).width_eq
    have hgrown := hperm.length_eq
    have hsize := (hwidths a b).mpr hversion
    simp only [Value.width, List.length_cons] at hmembers hmembers' hgrown
    omega

/-- What is written of a value spells this value and no other. -/
theorem ToldByShape.spelled_encode_iff {c : Codec α} {type : String} {s : Shapes α}
    (hc : c.ToldByShape type s) (hlossless : c.Lossless) {a b : α} :
    s.Spelled a (c.encode b) ↔ b = a := by
  rw [← hc.decode_eq_ok_iff, hlossless b, Except.ok.injEq]

end Codec

end EngineCall.Json
