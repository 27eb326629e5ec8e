import EngineCall.Proofs.Calls.Announced
import EngineCall.Proofs.Calls.Sending

/-!
# Block queries on the wire

On its way out a query is written, read again and written once more. A tag that spells a number
comes out of this as the number, in the one spelling that numbers are written in; any other query
comes out as it went in. So what is sent stands for the block that was meant, and two queries are
sent alike only if they mean the same block.
-/

namespace EngineCall

open Json (Codec Value)

namespace BlockQuery

variable {query query' : BlockQuery} {t t' : Value} {n m : UInt64} {name : String}

/-! ## What a query stands for -/

/-- The number that a query stands for: its own, or the one that its tag spells. -/
inductive Denotes : BlockQuery → UInt64 → Prop where
  | number (n : UInt64) : Denotes (.number n) n
  | tag {name : String} {n : UInt64} (hread : Quantity.codec.decode (.string name) = .ok n) :
      Denotes (.tag name) n

/-- What a query is sent as: the number that it stands for, as quantities are written, or the text
of its tag if that spells none. -/
inductive SentAs : BlockQuery → Value → Prop where
  | quantity {query : BlockQuery} {n : UInt64} (hn : query.Denotes n) :
      SentAs query (Quantity.codec.encode n)
  | name {name : String} (hname : ∀ n, ¬ Denotes (.tag name) n) : SentAs (.tag name) (.string name)

theorem denotes_tag_iff :
    Denotes (.tag name) n ↔ Quantity.codec.decode (.string name) = .ok n := by
  constructor
  · intro hn
    cases hn with
    | tag hread => exact hread
  · exact Denotes.tag

theorem Denotes.unique (hn : query.Denotes n) (hm : query.Denotes m) : n = m := by
  cases hn with
  | number => cases hm; rfl
  | tag hread => exact Except.ok.inj (hread.symm.trans (denotes_tag_iff.mp hm))

theorem exists_sentAs (query : BlockQuery) : ∃ t, query.SentAs t := by
  by_cases hnumber : ∃ n, query.Denotes n
  · obtain ⟨n, hn⟩ := hnumber
    exact ⟨_, .quantity hn⟩
  · cases query with
    | number n => exact absurd ⟨n, .number n⟩ hnumber
    | tag name => exact ⟨_, .name fun n hn => hnumber ⟨n, hn⟩⟩

/-! ## Writing and reading -/

theorem decode_of_quantity {v : Value} (hread : Quantity.codec.decode v = .ok n) :
    codec.decode v = .ok (.number n) := by
  rw [decode_eq, hread]

theorem decode_name (hname : ∀ n, ¬ Denotes (.tag name) n) :
    codec.decode (.string name) = .ok (.tag name) := by
  have hrefused : ∀ n, Quantity.codec.decode (.string name) ≠ .ok n :=
    fun n hread => hname n (.tag hread)
  obtain ⟨e, he⟩ := exists_error_of_ne_ok hrefused
  rw [decode_eq, he]
  rfl

/-- What is read of a written query is written as the query is sent. -/
theorem SentAs.exists_decode_encode (h : query.SentAs t) :
    ∃ back, codec.decode (codec.encode query) = .ok back ∧ codec.encode back = t := by
  cases h with
  | @quantity _ n hn =>
      refine ⟨.number n, ?_, rfl⟩
      cases hn with
      | number => exact decode_of_quantity (Quantity.codec_lossless n)
      | tag hread => exact decode_of_quantity hread
  | @name name hname => exact ⟨.tag name, decode_name hname, rfl⟩

/-- Only tags that spell numbers are not read back. -/
theorem decode_encode_iff (query : BlockQuery) :
    codec.decode (codec.encode query) = .ok query ↔
      ¬ ∃ name n, query = .tag name ∧ Denotes (.tag name) n := by
  cases query with
  | number n =>
      have hread : codec.decode (codec.encode (.number n)) = .ok (.number n) :=
        decode_of_quantity (Quantity.codec_lossless n)
      simp [hread]
  | tag name =>
      by_cases hnumber : ∃ n, Denotes (.tag name) n
      · obtain ⟨n, hn⟩ := hnumber
        have hread : codec.decode (codec.encode (.tag name)) = .ok (.number n) :=
          decode_of_quantity (denotes_tag_iff.mp hn)
        rw [hread]
        refine iff_of_false (by simp) fun hnot => ?_
        exact hnot ⟨name, n, rfl, hn⟩
      · have hread : codec.decode (codec.encode (.tag name)) = .ok (.tag name) :=
          decode_name fun n hn => hnumber ⟨n, hn⟩
        simpa [hread] using hnumber

/-! ## Queries that are sent alike -/

theorem SentAs.denotes_iff (h : query.SentAs t) :
    query.Denotes n ↔ Quantity.codec.decode t = .ok n := by
  cases h with
  | @quantity _ m hm =>
      rw [Quantity.codec_lossless, Except.ok.injEq]
      constructor
      · exact hm.unique
      · intro heq
        exact heq ▸ hm
  | name => exact denotes_tag_iff

theorem SentAs.eq_quantity (h : query.SentAs t) (hn : query.Denotes n) :
    t = Quantity.codec.encode n := by
  cases h with
  | quantity hm => rw [hm.unique hn]
  | name hname => exact absurd hn (hname n)

theorem SentAs.unique (h : query.SentAs t) (h' : query.SentAs t') : t = t' := by
  cases h with
  | quantity hn => exact (h'.eq_quantity hn).symm
  | name hname =>
      cases h' with
      | quantity hn => exact absurd hn (hname _)
      | name => rfl

/-- Queries are sent alike exactly if they are the same or stand for the same number. -/
theorem SentAs.eq_iff (h : query.SentAs t) (h' : query'.SentAs t') :
    t = t' ↔ query = query' ∨ ∃ n, query.Denotes n ∧ query'.Denotes n := by
  constructor
  · intro heq
    subst heq
    by_cases hnumber : ∃ n, query.Denotes n
    · obtain ⟨n, hn⟩ := hnumber
      exact .inr ⟨n, hn, h'.denotes_iff.mpr (h.denotes_iff.mp hn)⟩
    · -- neither query stands for a number, so that both are sent as they are
      have hnumber' : ¬ ∃ n, query'.Denotes n := by
        simpa only [h.denotes_iff, h'.denotes_iff] using hnumber
      cases h with
      | quantity hn => exact absurd ⟨_, hn⟩ hnumber
      | name =>
          cases h' with
          | quantity hn => exact absurd ⟨_, hn⟩ hnumber'
          | name => exact .inl rfl
  · intro hsame
    cases hsame with
    | inl heq =>
        subst heq
        exact h.unique h'
    | inr hnumber =>
        obtain ⟨n, hn, hn'⟩ := hnumber
        rw [h.eq_quantity hn, h'.eq_quantity hn']

end BlockQuery

/-! ## Sending -/

/-- A query is accepted whatever it is, and the wire version writes it in its own spelling. -/
theorem WireVersion.encode_blockByNumber {query : BlockQuery} {t : Value} (h : query.SentAs t) :
    blockByNumber.encode (Params.empty.add BlockQuery.codec query) = .ok [t, .bool false] := by
  obtain ⟨back, hread, hwrite⟩ := h.exists_decode_encode
  have hvalue : (Params.empty.add BlockQuery.codec query).get? 0 =
      some (BlockQuery.codec.encode query) :=
    Params.get?_of_ne_null rfl (BlockQuery.codec_steady.encode_ne_null query)
  have hrequired : (Params.empty.add BlockQuery.codec query).required BlockQuery.codec.decoder 0 =
      .ok back := Params.required_eq_ok_iff.mpr ⟨_, hvalue, hread⟩
  simp only [encode, hrequired, ← hwrite]
  rfl

namespace Client

variable {c : Client} {query : BlockQuery} {t : Value} {i : Instance}

/-- The request for a block without its transactions. -/
def blockRequest (t : Value) : Request := ⟨"eth_getBlockByNumber", .array [t, .bool false], 1000⟩

/-- What a client makes of block queries. -/
structure SendsBlockQueries (c : Client) : Prop where
  /-- One request is sent for any query, with what stands for it and no other parameters but the
  one that asks for no transactions. -/
  sends : ∀ query t, query.SentAs t → c.Sends (.blockByNumber query) (blockRequest t)
  /-- Queries with one request are the same or stand for the same number. -/
  sends_same_iff : ∀ query query',
    (∃ request, c.Sends (.blockByNumber query) request ∧ c.Sends (.blockByNumber query') request) ↔
      query = query' ∨ ∃ n, query.Denotes n ∧ query'.Denotes n

theorem sends_of_sentAs
    (hresolved : c.table.resolveHighest .blockOption .blockByNumber = .ok i)
    (hversion : i.version = .blockByNumber) (h : query.SentAs t) :
    c.Sends (.blockByNumber query) (blockRequest t) := by
  have hasks : c.Asks (.blockByNumber query) _ _ := ⟨fun _ _ => Call.noConfusion, rfl⟩
  have hencode := WireVersion.encode_blockByNumber h
  rw [← hversion] at hencode
  have hsends := hasks.sends hresolved hencode
  rw [hversion] at hsends
  exact hsends

theorem sendsBlockQueries_of_resolved
    (hresolved : c.table.resolveHighest .blockOption .blockByNumber = .ok i)
    (hversion : i.version = .blockByNumber) : c.SendsBlockQueries := by
  constructor
  · intro query t h
    exact sends_of_sentAs hresolved hversion h
  · intro query query'
    obtain ⟨t, h⟩ := query.exists_sentAs
    obtain ⟨t', h'⟩ := query'.exists_sentAs
    have hsends := sends_of_sentAs hresolved hversion h
    have hsends' := sends_of_sentAs hresolved hversion h'
    rw [← h.eq_iff h']
    constructor
    · intro hboth
      obtain ⟨request, hrequest, hrequest'⟩ := hboth
      have hsame : blockRequest t = blockRequest t' :=
        (hsends.unique hrequest).trans (hsends'.unique hrequest').symm
      simpa [blockRequest] using hsame
    · intro heq
      subst heq
      exact ⟨_, hsends, hsends'⟩

/-- The wire version that the search for blocks resolves to is the only one that there is. -/
theorem version_of_blockByNumber {declarations : List Declaration} {catalog : Catalog}
    {network : Network} (hcatalog : Catalog.ofDeclarations declarations = .ok catalog)
    (hclient : ofCatalog catalog network = .ok c)
    (hresolved : c.table.resolveHighest .blockOption .blockByNumber = .ok i) :
    i.version = .blockByNumber := by
  have hnarrows := narrows_of_ofCatalog hclient
  have hlookup := (NetworkTable.resolve_eq_ok_iff.mp hresolved).1
  have hmethod := hnarrows.method_eq hcatalog (hnarrows.mem_instances_of_lookup hcatalog hlookup)
  generalize i.version = w at hmethod
  cases w <;> cases hmethod
  rfl

/-- With the declarations of the Engine API blocks can be asked for on every network. -/
theorem resolveHighest_blockByNumber {network : Network}
    (hclient : ofCatalog Catalog.engine network = .ok c) :
    c.table.resolveHighest .blockOption .blockByNumber = .ok ⟨.blockByNumber, 1⟩ :=
  NetworkTable.resolve_eq_ok_iff.mpr
    ⟨(narrows_of_ofCatalog hclient).lookup_invariant rfl, .inl rfl⟩

/-- Whatever a block query is, it is sent, and as what it stands for: the canonical spelling of its
number, or the tag itself if that spells no number. So queries that are sent alike are the same or
stand for the same number. A query is read back from what is written of it unless it is a tag that
spells a number. This holds on every network, and for every catalog with which blocks can be asked
for; with the declarations of the Engine API they always can. -/
theorem blockByNumber_sent_as_meant :
    (∀ query : BlockQuery, (∃ t, query.SentAs t) ∧
      (BlockQuery.codec.decode (BlockQuery.codec.encode query) = .ok query ↔
        ¬ ∃ name n, query = .tag name ∧ BlockQuery.Denotes (.tag name) n)) ∧
    (∃ catalog, Catalog.ofDeclarations Catalog.engineDeclarations = .ok catalog ∧
      ∀ network c, ofCatalog catalog network = .ok c → c.SendsBlockQueries) ∧
    ∀ {declarations : List Declaration} {catalog : Catalog} {network : Network} {c : Client}
      {i : Instance}, Catalog.ofDeclarations declarations = .ok catalog →
        ofCatalog catalog network = .ok c →
        c.table.resolveHighest .blockOption .blockByNumber = .ok i → c.SendsBlockQueries := by
  refine ⟨fun query => ⟨query.exists_sentAs, query.decode_encode_iff⟩, ?_, ?_⟩
  · refine ⟨Catalog.engine, Catalog.ofDeclarations_engine, fun network c hclient => ?_⟩
    exact sendsBlockQueries_of_resolved (resolveHighest_blockByNumber hclient) rfl
  · intro declarations catalog network c i hcatalog hclient hresolved
    exact sendsBlockQueries_of_resolved hresolved
      (version_of_blockByNumber hcatalog hclient hresolved)

/-- Before any fork the number sixteen and a tag that spells it with a leading zero are sent alike,
and the tag of the latest block as it is. -/
theorem blockByNumber_sent_as_meant_padded : ∃ c,
    ofCatalog Catalog.engine (.ofSchedule (.minimal .phase0)) = .ok c ∧
    c.Sends (.blockByNumber (.number 16)) (blockRequest (.string "0x10")) ∧
    c.Sends (.blockByNumber (.tag "0x010")) (blockRequest (.string "0x10")) ∧
    c.Sends (.blockByNumber (.tag "latest")) (blockRequest (.string "latest")) := by
  obtain ⟨c, hclient, -⟩ := exists_client .engine (.minimal .phase0)
  have hqueries : c.SendsBlockQueries :=
    blockByNumber_sent_as_meant.2.2 Catalog.ofDeclarations_engine hclient
      (resolveHighest_blockByNumber hclient)
  have hname (n : UInt64) : ¬ BlockQuery.Denotes (.tag "latest") n := by
    intro hn
    cases BlockQuery.denotes_tag_iff.mp hn
  have hwritten : Quantity.codec.encode 16 = .string "0x10" := by decide +kernel
  have hpadded : BlockQuery.Denotes (.tag "0x010") 16 := .tag rfl
  refine ⟨c, hclient, ?_, ?_, ?_⟩
  · exact hqueries.sends _ _ (hwritten ▸ .quantity (.number 16))
  · exact hqueries.sends _ _ (hwritten ▸ .quantity hpadded)
  · exact hqueries.sends _ _ (.name hname)

end Client

end EngineCall
