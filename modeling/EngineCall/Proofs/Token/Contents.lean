import EngineCall.Proofs.Json.OpenRecords
import EngineCall.Proofs.Token.Base64
import EngineCall.Token.Signed

/-!
# What the parts of a token carry

A part carries bytes in base 64, and these are the text of one document. Which header or which
claims a document is, is told by what stands for each name and not by how a decoder comes to it;
only a public key in a header is left to its decoder. Besides, the registered claims have to be in
order, although nothing of them is kept.
-/

namespace EngineCall

open Json (Decoder Document Fault Fields Key Node Record)
open Json.Record (MayTell Supplies)

/-! ## Headers -/

namespace Algorithm

theorem mem_all (a : Algorithm) : a ∈ all := by cases a <;> decide

/-- That a tree is an algorithm: its name, or an object from the name to null. -/
def ToldBy (node : Node) (a : Algorithm) : Prop :=
  node = .string a.name ∨ node = .object [(.name a.name, .null)] none

theorem decoder_eq_ok_iff {node : Node} {a : Algorithm} :
    codec.decoder .text node = .ok a ↔ ToldBy node a := by
  have hnodup : ((all.map fun a => (a.name, a)).map (·.1)).Nodup := by decide
  change Decoder.enumeration (all.map fun a => (a.name, a)) .text node = .ok a ↔ _
  rw [Decoder.enumeration_text_eq_ok_iff hnodup]
  constructor
  · rintro ⟨name, hmem, htold⟩
    obtain ⟨b, -, hb⟩ := List.mem_map.mp hmem
    cases hb
    exact htold
  · exact fun htold => ⟨a.name, List.mem_map.mpr ⟨a, a.mem_all, rfl⟩, htold⟩

end Algorithm

namespace TokenHeader

/-- That nodes tell a header. -/
structure Told (listed : Bool) (field? : String → Option Node) (h : TokenHeader) : Prop where
  typ : MayTell listed Node.IsText (field? "typ") h.typ
  alg : ∃ node, field? "alg" = some node ∧ Algorithm.ToldBy node h.alg
  cty : MayTell listed Node.IsText (field? "cty") h.cty
  jku : MayTell listed Node.IsText (field? "jku") h.jku
  jwk : MayTell listed (fun node key => PublicKey.codec.decoder .text node = .ok key)
    (field? "jwk") h.jwk
  kid : MayTell listed Node.IsText (field? "kid") h.kid
  x5u : MayTell listed Node.IsText (field? "x5u") h.x5u
  x5c : MayTell listed Node.IsTexts (field? "x5c") h.x5c
  x5t : MayTell listed Node.IsText (field? "x5t") h.x5t
  x5t256 : MayTell listed Node.IsText (field? "x5t#S256") h.x5t256

/-- That a tree is a header. -/
def ToldBy (root : Node) (h : TokenHeader) : Prop :=
  ∃ field?, Supplies ["typ", "alg", "cty", "jku", "jwk", "kid", "x5u", "x5c", "x5t", "x5t#S256"]
    root field? ∧ Told root.isArray field? h

theorem record_checked : record.Checked :=
  ((((((((((Record.Checked.optional "typ" _).map _).seq (.required "alg" _)).seq
    (.optional "cty" _)).seq (.optional "jku" _)).seq (.optional "jwk" _)).seq
    (.optional "kid" _)).seq (.optional "x5u" _)).seq (.optional "x5c" _)).seq
    (.optional "x5t" _)).seq (.optional "x5t#S256" _)

theorem build_eq_ok_iff {source : Fields} {root : Node} {field? : String → Option Node}
    (hsource : source.GivenBy .text root field?) {h : TokenHeader} :
    record.build source = .ok h ↔ Told root.isArray field? h := by
  rw [Record.build_eq_ok_iff]
  have hjwk {P : Option PublicKey → Prop} :
      (Record.optional "jwk" PublicKey.codec.decoder).Yields source P ↔
        ∃ o, MayTell root.isArray (fun node key => PublicKey.codec.decoder .text node = .ok key)
          (field? "jwk") o ∧ P o :=
    Record.yields_optional_iff_mayTell Iff.rfl hsource
  simp only [record, Record.yields_seq, Record.yields_map, Record.yields_required,
    Record.yields_text hsource, Record.yields_texts hsource, hjwk, hsource.nodes, hsource.origin_eq,
    Except.ok.injEq, Algorithm.decoder_eq_ok_iff]
  constructor
  · rintro ⟨typ, htyp, algNode, halgNode, alg, halg, cty, hcty, jku, hjku, jwk, hjwk, kid, hkid,
      x5u, hx5u, x5c, hx5c, x5t, hx5t, x5t256, hx5t256, rfl⟩
    exact ⟨htyp, ⟨algNode, halgNode, halg⟩, hcty, hjku, hjwk, hkid, hx5u, hx5c, hx5t, hx5t256⟩
  · rintro ⟨htyp, ⟨algNode, halgNode, halg⟩, hcty, hjku, hjwk, hkid, hx5u, hx5c, hx5t, hx5t256⟩
    exact ⟨_, htyp, algNode, halgNode, _, halg, _, hcty, _, hjku, _, hjwk, _, hkid, _, hx5u, _,
      hx5c, _, hx5t, _, hx5t256, rfl⟩

theorem decoder_eq_ok_iff {root : Node} {h : TokenHeader} :
    codec.decoder .text root = .ok h ↔ ToldBy root h :=
  record_checked.openDecoder_eq_ok_iff_supplies fun hsource => build_eq_ok_iff hsource

end TokenHeader

/-! ## Claims -/

namespace Claims

/-- That nodes tell claims. -/
structure Told (listed : Bool) (field? : String → Option Node) (c : Claims) : Prop where
  iat : field? "iat" = some (.number (.integer c.iat.toNat))
  id : MayTell listed Node.IsText (field? "id") c.id
  clv : MayTell listed Node.IsText (field? "clv") c.clv

/-- That a tree is claims. -/
def ToldBy (root : Node) (c : Claims) : Prop :=
  ∃ field?, Supplies ["iat", "id", "clv"] root field? ∧ Told root.isArray field? c

theorem record_checked : record.Checked :=
  (((Record.Checked.required "iat" _).map _).seq (.optional "id" _)).seq (.optional "clv" _)

theorem build_eq_ok_iff {source : Fields} {root : Node} {field? : String → Option Node}
    (hsource : source.GivenBy .text root field?) {c : Claims} :
    record.build source = .ok c ↔ Told root.isArray field? c := by
  rw [Record.build_eq_ok_iff]
  simp only [record, Record.yields_seq, Record.yields_map, Record.yields_required,
    Record.yields_text hsource, hsource.nodes, hsource.origin_eq, Except.ok.injEq,
    Decoder.uint64_eq_ok_iff]
  constructor
  · rintro ⟨_, hiat, iat, rfl, id, hid, clv, hclv, rfl⟩
    exact ⟨hiat, hid, hclv⟩
  · rintro ⟨hiat, hid, hclv⟩
    exact ⟨_, hiat, _, rfl, _, hid, _, hclv, rfl⟩

theorem decoder_eq_ok_iff {root : Node} {c : Claims} :
    codec.decoder .text root = .ok c ↔ ToldBy root c :=
  record_checked.openDecoder_eq_ok_iff_supplies fun hsource => build_eq_ok_iff hsource

end Claims

namespace Token

/-! ## Registered claims -/

/-- That a tree is no bracket, and a reader stands behind it, whether or not it could be read. -/
inductive PassedPlain : Node → Prop where
  | null : PassedPlain .null
  | bool (b : Bool) : PassedPlain (.bool b)
  | number (n : Json.Number) : PassedPlain (.number n)
  | text (s : String) : PassedPlain (.string s)
  | fault {f : Fault} (hpast : f.past) : PassedPlain (.fault f)

/-- That a tree is passed over unopened: of brackets only empty ones. -/
inductive PassedShut : Node → Prop where
  | plain {node : Node} (hplain : PassedPlain node) : PassedShut node
  | array : PassedShut (.array [] none)
  | object : PassedShut (.object [] none)

/-- That the registered claims of an object are in order: each comes once at most, the times and the
subject are passed over unopened, and a reader stands behind issuer and audience. -/
structure InOrder (members : List (Key × Node)) : Prop where
  once : ∀ name ∈ ["exp", "nbf", "sub", "iss", "aud"],
    (members.map (·.1)).count (.name name) ≤ 1
  times : ∀ name ∈ ["exp", "nbf"], ∀ node, (.name name, node) ∈ members → PassedShut node
  subject : ∀ node, (.name "sub", node) ∈ members → PassedPlain node
  parties : ∀ name ∈ ["iss", "aud"], ∀ node, (.name name, node) ∈ members → node.isPassed

/-- An object without registered claims has all of them in order. -/
theorem inOrder_of_not_mem {members : List (Key × Node)}
    (hnone : ∀ name ∈ ["exp", "nbf", "sub", "iss", "aud"], .name name ∉ members.map (·.1)) :
    InOrder members := by
  have hforeign {name : String} (hname : name ∈ ["exp", "nbf", "sub", "iss", "aud"]) {node : Node}
      (hmem : (.name name, node) ∈ members) : False :=
    hnone name hname (List.mem_map.mpr ⟨_, hmem, rfl⟩)
  have htimes : ["exp", "nbf"] ⊆ ["exp", "nbf", "sub", "iss", "aud"] := by decide
  have hparties : ["iss", "aud"] ⊆ ["exp", "nbf", "sub", "iss", "aud"] := by decide
  exact {
    once := fun name hname =>
      Nat.le_succ_of_le (Nat.le_of_eq (List.count_eq_zero.mpr (hnone name hname)))
    times := fun name hname node hmem => (hforeign (htimes hname) hmem).elim
    subject := fun node hmem => (hforeign (by decide) hmem).elim
    parties := fun name hname node hmem => (hforeign (hparties hname) hmem).elim }

section

variable {node : Node}

theorem registeredInOrder_subject_iff : registeredInOrder "sub" node ↔ PassedPlain node := by
  constructor
  · intro hpassed
    cases node with
    | fault f => exact .fault hpassed
    | null => exact .null
    | bool b => exact .bool b
    | number n => exact .number n
    | string s => exact .text s
    | array | object => cases hpassed
  · intro hplain
    cases hplain with
    | fault hpast => exact hpast
    | null | bool | number | text => rfl

theorem registeredInOrder_times_iff {name : String} (hname : name ∈ ["exp", "nbf"]) :
    registeredInOrder name node ↔ PassedShut node := by
  have hshut : registeredInOrder name node = isPassedShut node := by
    simp only [List.mem_cons, List.not_mem_nil, or_false] at hname
    rcases hname with rfl | rfl <;> rfl
  rw [hshut]
  constructor
  · intro hpassed
    cases node with
    | array items tail =>
        obtain ⟨hitems, htail⟩ := (Bool.and_eq_true _ _).mp hpassed
        rw [List.isEmpty_iff.mp hitems, Option.isNone_iff_eq_none.mp htail]
        exact .array
    | object members tail =>
        obtain ⟨hmembers, htail⟩ := (Bool.and_eq_true _ _).mp hpassed
        rw [List.isEmpty_iff.mp hmembers, Option.isNone_iff_eq_none.mp htail]
        exact .object
    | fault | null | bool | number | string =>
        exact .plain (registeredInOrder_subject_iff.mp hpassed)
  · intro hpassed
    cases hpassed with
    | plain hplain =>
        cases hplain with
        | fault hpast => exact hpast
        | null | bool | number | text => rfl
    | array | object => rfl

theorem registeredInOrder_parties_iff {name : String} (hname : name ∈ ["iss", "aud"]) :
    registeredInOrder name node ↔ node.isPassed := by
  simp only [List.mem_cons, List.not_mem_nil, or_false] at hname
  rcases hname with rfl | rfl <;> rfl

end

/-- The members under registered names, as they are checked. -/
def registeredMembers (members : List (Key × Node)) : List (String × Node) :=
  members.filterMap fun
    | (.name name, node) => if registeredNames.contains name then some (name, node) else none
    | _ => none

section

variable {members : List (Key × Node)} {name : String} {node : Node}

theorem mem_registeredMembers :
    (name, node) ∈ registeredMembers members ↔
      name ∈ registeredNames ∧ (.name name, node) ∈ members := by
  simp only [registeredMembers, List.mem_filterMap]
  constructor
  · rintro ⟨⟨k, n⟩, hmem, hkept⟩
    cases k with
    | fault f => cases hkept
    | name k =>
        obtain ⟨hk, hsame⟩ := Option.ite_none_right_eq_some.mp hkept
        cases hsame
        exact ⟨List.contains_iff_mem.mp hk, hmem⟩
  · rintro ⟨hname, hmem⟩
    exact ⟨_, hmem, if_pos (List.contains_iff_mem.mpr hname)⟩

theorem count_registeredMembers (hname : name ∈ registeredNames) :
    ((registeredMembers members).map (·.1)).count name =
      (members.map (·.1)).count (.name name) := by
  induction members with
  | nil => rfl
  | cons m rest ih =>
      obtain ⟨k, n⟩ := m
      cases k with
      | fault f =>
          have hdropped : registeredMembers ((.fault f, n) :: rest) = registeredMembers rest :=
            List.filterMap_cons_none rfl
          have hne : Key.fault f ≠ .name name := nofun
          rw [hdropped, List.map_cons, List.count_cons_of_ne hne, ih]
      | name k =>
          by_cases hk : registeredNames.contains k
          case pos =>
            have hkept : registeredMembers ((.name k, n) :: rest) =
                (k, n) :: registeredMembers rest := List.filterMap_cons_some (if_pos hk)
            have hsame : (Key.name k == .name name) = (k == name) := by simp [beq_eq_decide]
            rw [hkept, List.map_cons, List.map_cons, List.count_cons, List.count_cons, ih, hsame]
          case neg =>
            have hdropped : registeredMembers ((.name k, n) :: rest) = registeredMembers rest :=
              List.filterMap_cons_none (if_neg hk)
            have hne : Key.name k ≠ .name name := by
              rintro hsame
              cases hsame
              exact hk (List.contains_iff_mem.mpr hname)
            rw [hdropped, List.map_cons, List.count_cons_of_ne hne, ih]

theorem nodup_registeredMembers_iff :
    ((registeredMembers members).map (·.1)).Nodup ↔
      ∀ name ∈ registeredNames, (members.map (·.1)).count (.name name) ≤ 1 := by
  rw [List.nodup_iff_count_le_one]
  constructor
  · intro hcount name hname
    rw [← count_registeredMembers hname]
    exact hcount name
  · intro hcount name
    by_cases hname : name ∈ registeredNames
    case pos =>
      rw [count_registeredMembers hname]
      exact hcount name hname
    case neg =>
      have hnot : name ∉ (registeredMembers members).map (·.1) := by
        intro hmem
        obtain ⟨m, hm, rfl⟩ := List.mem_map.mp hmem
        exact hname (mem_registeredMembers.mp hm).1
      rw [List.count_eq_zero.mpr hnot]
      exact Nat.zero_le 1

theorem registered_object_iff {tail : Option Fault} :
    registered (.object members tail) ↔ InOrder members := by
  have hregistered : registered (.object members tail) =
      ((registeredMembers members).all (fun m => registeredInOrder m.1 m.2) &&
        ((registeredMembers members).map (·.1)).Nodup) := rfl
  rw [hregistered, Bool.and_eq_true, List.all_eq_true, decide_eq_true_eq,
    nodup_registeredMembers_iff]
  have hnames : ∀ name, name ∈ registeredNames ↔
      name ∈ ["exp", "nbf"] ∨ name = "sub" ∨ name ∈ ["iss", "aud"] := by
    simp [registeredNames, or_assoc]
  constructor
  · rintro ⟨hall, honce⟩
    have hchecked {name : String} (hname : name ∈ registeredNames) {node : Node}
        (hmem : (.name name, node) ∈ members) : registeredInOrder name node :=
      hall _ (mem_registeredMembers.mpr ⟨hname, hmem⟩)
    exact {
      once := honce
      times := fun name hname node hmem =>
        (registeredInOrder_times_iff hname).mp (hchecked ((hnames name).mpr (.inl hname)) hmem)
      subject := fun node hmem =>
        registeredInOrder_subject_iff.mp (hchecked ((hnames "sub").mpr (.inr (.inl rfl))) hmem)
      parties := fun name hname node hmem =>
        (registeredInOrder_parties_iff hname).mp
          (hchecked ((hnames name).mpr (.inr (.inr hname))) hmem) }
  · intro horder
    refine ⟨?_, horder.once⟩
    rintro ⟨name, node⟩ hmem
    obtain ⟨hname, hmem⟩ := mem_registeredMembers.mp hmem
    rcases (hnames name).mp hname with htime | rfl | hparty
    · exact (registeredInOrder_times_iff htime).mpr (horder.times name htime node hmem)
    · exact registeredInOrder_subject_iff.mpr (horder.subject node hmem)
    · exact (registeredInOrder_parties_iff hparty).mpr (horder.parties name hparty node hmem)

end

/-! ## Parts -/

/-- That a part carries a tree: it is the text in base 64 of bytes that hold the tree, with nothing
behind it. -/
def Carries (part : List Char) (root : Node) : Prop :=
  ∃ bytes, part = Base64.encode bytes ∧ Document.ofBytes bytes = ⟨root, false⟩

/-- That a part carries a header. -/
def CarriesHeader (part : List Char) (header : TokenHeader) : Prop :=
  ∃ root, Carries part root ∧ TokenHeader.ToldBy root header

/-- That a part carries claims: an object that tells them, with its registered claims in order. -/
def CarriesClaims (part : List Char) (claims : Claims) : Prop :=
  ∃ members, Carries part (.object members none) ∧ Claims.ToldBy (.object members none) claims ∧
    InOrder members

section

variable {part : List Char}

/-- A part that carries a header has no dot. -/
theorem CarriesHeader.dot_not_mem {header : TokenHeader} (hcarries : CarriesHeader part header) :
    '.' ∉ part := by
  obtain ⟨root, ⟨bytes, rfl, -⟩, -⟩ := hcarries
  exact Base64.dot_not_mem_encode bytes

theorem fromDocument_ofBytes_eq_ok_iff {α : Type} {d : Decoder α} {bytes : List UInt8} {a : α} :
    d.fromDocument (.ofBytes bytes) = .ok a ↔
      ∃ root, Document.ofBytes bytes = ⟨root, false⟩ ∧ d .text root = .ok a := by
  rw [Decoder.fromDocument_eq_ok_iff]
  constructor
  · rintro ⟨hread, htrailing⟩
    refine ⟨(Document.ofBytes bytes).root, ?_, hread⟩
    rw [← htrailing]
  · rintro ⟨root, hdocument, hread⟩
    rw [hdocument]
    exact ⟨hread, rfl⟩

theorem readHeader_eq_ok_iff {header : TokenHeader} :
    readHeader part = .ok header ↔ CarriesHeader part header := by
  unfold readHeader
  constructor
  · intro hread
    split at hread
    next => cases hread
    next bytes hbytes =>
      obtain ⟨root, hdocument, htold⟩ :=
        fromDocument_ofBytes_eq_ok_iff.mp (mapError_eq_ok_iff.mp hread)
      exact ⟨root, ⟨bytes, Base64.decode?_eq_some_iff.mp hbytes, hdocument⟩,
        TokenHeader.decoder_eq_ok_iff.mp htold⟩
  · rintro ⟨root, ⟨bytes, rfl, hdocument⟩, htold⟩
    rw [Base64.decode?_encode]
    exact mapError_eq_ok_iff.mpr (fromDocument_ofBytes_eq_ok_iff.mpr
      ⟨root, hdocument, TokenHeader.decoder_eq_ok_iff.mpr htold⟩)

theorem readClaims_eq_ok_iff {claims : Claims} :
    readClaims part = .ok claims ↔ CarriesClaims part claims := by
  unfold readClaims
  constructor
  · intro hread
    split at hread
    next => cases hread
    next bytes hbytes =>
      dsimp only at hread
      split at hread
      next => cases hread
      next hdecode =>
        split at hread
        next hregistered =>
          cases hread
          obtain ⟨root, hdocument, hread⟩ := fromDocument_ofBytes_eq_ok_iff.mp hdecode
          obtain ⟨field?, hsupplies, htold⟩ := Claims.decoder_eq_ok_iff.mp hread
          rw [hdocument] at hregistered
          -- an array could list the claims, but the registered ones are looked for in an object
          cases hsupplies with
          | array => cases hregistered
          | object hlegible =>
              exact ⟨_, ⟨bytes, Base64.decode?_eq_some_iff.mp hbytes, hdocument⟩,
                ⟨_, .object hlegible, htold⟩, registered_object_iff.mp hregistered⟩
        next => cases hread
  · rintro ⟨members, ⟨bytes, rfl, hdocument⟩, htold, horder⟩
    have hdecode : Claims.codec.decoder.fromDocument (.ofBytes bytes) = .ok claims :=
      fromDocument_ofBytes_eq_ok_iff.mpr ⟨_, hdocument, Claims.decoder_eq_ok_iff.mpr htold⟩
    have hregistered : registered (Document.ofBytes bytes).root := by
      rw [hdocument]
      exact registered_object_iff.mpr horder
    simp only [Base64.decode?_encode, hdecode, hregistered, if_true]

end

end Token

end EngineCall
