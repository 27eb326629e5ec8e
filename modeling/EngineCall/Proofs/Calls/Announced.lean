import EngineCall.Proofs.Calls.Exchange
import EngineCall.Proofs.Calls.Names
import EngineCall.Proofs.Calls.SlotResolution
import EngineCall.Proofs.Json.Codecs

/-!
# Announced names

The names that a client announces to an engine are collected in a walk over all instances of its
table. They are the names of what resolution can hand out: each instance that is ever resolved has
its name announced, and if the network skips no milestone every announced name belongs to an
instance that a supported milestone resolves to.
-/

namespace EngineCall

/-- A method whose names are announced: one of the engine's own part of the interface that is not
the announcement itself. -/
def Method.Announced (f : Method) : Prop :=
  "engine_".toList <+: f.name.toList ∧ f ≠ .exchangeCapabilities

theorem Method.announced_iff {f : Method} :
    f.Announced ↔ (f.isEngine && f != .exchangeCapabilities) = true := by
  unfold Announced
  cases f <;> decide

/-- Supporting a milestone means to support all before it. -/
def Milestone.DownwardClosed (milestones : List Milestone) : Prop :=
  ∀ b ∈ milestones, ∀ a, a ≤ b → a ∈ milestones

/-- A fork schedule skips no milestone. -/
theorem ForkSchedule.supported_downwardClosed (s : ForkSchedule) :
    Milestone.DownwardClosed s.supported := by
  intro b hb a hle
  obtain ⟨y, hy⟩ := s.mem_supported.mp hb
  obtain ⟨x, hx, _⟩ := s.follows_of_le hle y hy
  exact s.mem_supported.mpr ⟨x, hx⟩

namespace NetworkTable

variable {t : NetworkTable} {catalog : Catalog} {declarations : List Declaration}
  {milestones : List Milestone} {f : Method} {m : Milestone} {i : Instance}

/-! ## Instances -/

/-- What is looked up is what the search of the declarations finds. -/
theorem Narrows.lookup_eq_some_iff (hnarrows : t.Narrows catalog milestones)
    (hcatalog : Catalog.ofDeclarations declarations = .ok catalog) :
    t.lookup? f m = some i ↔ Finds declarations milestones f m (some i) := by
  have hrecords := Catalog.ofDeclarations_records hcatalog f
  have hfinds := hnarrows.finds hrecords m
  constructor
  · intro hlookup
    rwa [hlookup] at hfinds
  · intro hfound
    exact hfinds.unique hrecords hfound

/-- A table keeps the instances that apply regardless of forks or from a milestone on that is not
beyond the network. -/
theorem Narrows.mem_instances_iff (hnarrows : t.Narrows catalog milestones)
    (hcatalog : Catalog.ofDeclarations declarations = .ok catalog) :
    i ∈ t.instances f ↔ Catalog.BuiltFor declarations f none i ∨
      ∃ a, a ≤ t.highest ∧ Catalog.BuiltFor declarations f (some a) i := by
  have hrecords := Catalog.ofDeclarations_records hcatalog f
  unfold instances
  rw [hnarrows.entries_eq]
  cases hentries : catalog.entries f with
  | invariant j =>
      rw [hentries] at hrecords
      simp [narrow, hrecords _ _]
  | versioned versions =>
      rw [hentries] at hrecords
      simp [narrow, hrecords.2.2, and_comm]

/-- What is looked up is kept. -/
theorem Narrows.mem_instances_of_lookup (hnarrows : t.Narrows catalog milestones)
    (hcatalog : Catalog.ofDeclarations declarations = .ok catalog)
    (hlookup : t.lookup? f m = some i) : i ∈ t.instances f := by
  rw [hnarrows.mem_instances_iff hcatalog]
  cases (hnarrows.lookup_eq_some_iff hcatalog).mp hlookup with
  | invariant hbuilt => exact Or.inl hbuilt
  | @latest a i hbuilt hsupported hbegun hlatest =>
      exact Or.inr ⟨a, hbegun.trans (hnarrows.le_highest m hsupported), hbuilt⟩

/-- If the network skips no milestone, everything kept is looked up at some of them. -/
theorem Narrows.exists_lookup_of_mem_instances (hnarrows : t.Narrows catalog milestones)
    (hcatalog : Catalog.ofDeclarations declarations = .ok catalog)
    (hclosed : Milestone.DownwardClosed milestones) (hi : i ∈ t.instances f) :
    ∃ m ∈ milestones, t.lookup? f m = some i := by
  rcases (hnarrows.mem_instances_iff hcatalog).mp hi with hbuilt | ⟨a, hle, hbuilt⟩
  · refine ⟨t.highest, hnarrows.highest_mem, ?_⟩
    exact (hnarrows.lookup_eq_some_iff hcatalog).mpr (.invariant hbuilt)
  -- a version is in effect at the milestone from which it applies
  · have hsupported : a ∈ milestones := hclosed t.highest hnarrows.highest_mem a hle
    refine ⟨a, hsupported, (hnarrows.lookup_eq_some_iff hcatalog).mpr ?_⟩
    exact .latest hbuilt hsupported (le_refl a) fun b j _ hb => hb

/-- The instances of a method put that method on the wire. -/
theorem Narrows.method_eq (hnarrows : t.Narrows catalog milestones)
    (hcatalog : Catalog.ofDeclarations declarations = .ok catalog) (hi : i ∈ t.instances f) :
    i.version.method = f := by
  rcases (hnarrows.mem_instances_iff hcatalog).mp hi with hbuilt | ⟨a, _, hbuilt⟩
  · exact hbuilt.method_eq hcatalog
  · exact hbuilt.method_eq hcatalog

theorem resolve_eq_ok_iff {expected : WireType} :
    t.resolve expected f m = .ok i ↔
      t.lookup? f m = some i ∧ (i.version.result = expected ∨ expected = .value) := by
  unfold resolve
  rw [resolveBy_eq]
  cases t.lookup? f m with
  | none => simp
  | some j =>
      dsimp only
      split
      next htype =>
        simp only [Except.ok.injEq, Option.some.injEq]
        constructor
        · rintro rfl
          exact ⟨rfl, htype⟩
        · exact fun h => h.1
      next htype =>
        simp only [reduceCtorEq, Option.some.injEq, false_iff]
        rintro ⟨rfl, htype'⟩
        exact htype htype'

/-! ## Names -/

theorem mem_capabilities_iff {name : String} :
    name ∈ t.capabilities.names ↔
      ∃ f, f.Announced ∧ ∃ i ∈ t.instances f, i.version.name = name := by
  rw [capabilities, Capabilities.mem_ofList]
  simp only [List.mem_map, List.mem_flatMap, List.mem_filter, Method.mem_all, true_and,
    ← Method.announced_iff]
  constructor
  · rintro ⟨i, ⟨f, hannounced, hi⟩, rfl⟩
    exact ⟨f, hannounced, i, hi, rfl⟩
  · rintro ⟨f, hannounced, i, hi, rfl⟩
    exact ⟨i, ⟨f, hannounced, hi⟩, rfl⟩

theorem capabilities_ascending (t : NetworkTable) :
    t.capabilities.names.Pairwise fun a b => utf8Bytes a < utf8Bytes b := by
  have hascii : ∀ name ∈ t.capabilities.names, IsAscii name := by
    intro name hname
    obtain ⟨_, _, i, _, rfl⟩ := mem_capabilities_iff.mp hname
    exact i.version.name_isAscii
  have hascending : t.capabilities.names.Pairwise (· < ·) := Capabilities.ofList_ascending _
  exact hascending.imp_of_mem fun ha hb hlt => (hascii _ ha).utf8Bytes_lt (hascii _ hb) hlt

/-- The names met on a walk over a table that takes the methods in the given order, and goes by what
the instances themselves put on the wire. -/
def namesAlong (t : NetworkTable) (methods : List Method) : List String :=
  ((methods.flatMap t.instances).filter fun i =>
    i.version.method.isEngine && i.version.method != .exchangeCapabilities).map (·.version.name)

/-- The order of the walk does not matter. -/
theorem Narrows.ofList_namesAlong (hnarrows : t.Narrows catalog milestones)
    (hcatalog : Catalog.ofDeclarations declarations = .ok catalog) {methods : List Method}
    (hall : ∀ f, f ∈ methods) : Capabilities.ofList (t.namesAlong methods) = t.capabilities := by
  refine Capabilities.ofList_congr fun name => ?_
  refine Iff.trans ?_ (mem_capabilities_iff.symm.trans Capabilities.mem_ofList)
  simp only [namesAlong, List.mem_map, List.mem_filter, List.mem_flatMap, ← Method.announced_iff]
  constructor
  · rintro ⟨i, ⟨⟨f, _, hi⟩, hannounced⟩, rfl⟩
    exact ⟨f, hnarrows.method_eq hcatalog hi ▸ hannounced, i, hi, rfl⟩
  · rintro ⟨f, hannounced, i, hi, rfl⟩
    exact ⟨i, ⟨⟨f, hall f, hi⟩, (hnarrows.method_eq hcatalog hi).symm ▸ hannounced⟩, rfl⟩

end NetworkTable

/-! ## Announcements -/

namespace Client

open Json (Codec)

variable {c : Client}

/-- The request by which a client announces what it can send. -/
def announcement (c : Client) : Request :=
  ⟨"engine_exchangeCapabilities", .array [.ofStrings c.table.capabilities.names], 1000⟩

/-- The announced names are accepted as they are. -/
theorem compose_announcement {i : Instance} (hversion : i.version = .exchangeCapabilities) :
    compose (.ok i) (Params.empty.add (Codec.list Codec.string) c.table.capabilities.names) =
      .ok (i, c.announcement) := by
  have hread := Codec.string_lossless.list c.table.capabilities.names
  have hnames : (Params.empty.add (Codec.list Codec.string) c.table.capabilities.names).required
      (Codec.list Codec.string).decoder 0 = .ok c.table.capabilities.names := by
    change ((Codec.list Codec.string).decode _).mapError Error.json = _
    rw [hread]
    rfl
  simp only [compose, hversion, WireVersion.request, WireVersion.encode, hnames]
  rfl

/-- What a client announces is what it can issue on its network. -/
structure AnnouncesIssuable (c : Client) : Prop where
  /-- The names ascend strictly in the order of their bytes. -/
  ascending : c.table.capabilities.names.Pairwise fun a b => utf8Bytes a < utf8Bytes b
  /-- They do not depend on the order in which the methods of the table are visited. -/
  order_free : ∀ methods : List Method, (∀ f, f ∈ methods) →
    Capabilities.ofList (c.table.namesAlong methods) = c.table.capabilities
  /-- Whatever is resolved, at any milestone, puts its method on the wire, and its name is announced
  if the names of that method are. -/
  announced_of_resolve : ∀ expected f m i, c.table.resolve expected f m = .ok i →
    i.version.method = f ∧ (f.Announced → i.version.name ∈ c.table.capabilities.names)
  /-- If no milestone is skipped, every name is that of an instance resolved at a supported one. -/
  resolve_of_announced : Milestone.DownwardClosed c.network.supported →
    ∀ name ∈ c.table.capabilities.names, ∃ f m i, f.Announced ∧ m ∈ c.network.supported ∧
      c.table.resolve .value f m = .ok i ∧ i.version.method = f ∧ i.version.name = name
  /-- An exchange that resolves sends the names as its only parameter, and reads the answer. -/
  exchange_sends : ∀ {σ : Type} (t : Transport σ) (wire : σ) (i : Instance),
    c.table.resolveHighest .strings .exchangeCapabilities = .ok i →
    c.exchangeCapabilities t wire =
      (capabilitiesMeant
        (readAs (Codec.list Codec.string).decoder (t.send c.announcement wire).1),
        (t.send c.announcement wire).2)

variable {declarations : List Declaration} {catalog : Catalog}

/-- The table of a client is its catalog narrowed to its network. -/
theorem narrows_of_ofCatalog {network : Network} (hclient : ofCatalog catalog network = .ok c) :
    c.table.Narrows catalog network.supported := by
  unfold ofCatalog at hclient
  by_cases hnil : network.supported = []
  · rw [hnil, NetworkTable.ofCatalog_nil] at hclient
    cases hclient
  · obtain ⟨t, htable, hnarrows⟩ := NetworkTable.exists_table catalog hnil
    rw [htable] at hclient
    cases hclient
    exact hnarrows

theorem announcesIssuable (hcatalog : Catalog.ofDeclarations declarations = .ok catalog)
    (hnarrows : c.table.Narrows catalog c.network.supported) : c.AnnouncesIssuable := by
  have hmem {expected : WireType} {f : Method} {m : Milestone} {i : Instance}
      (hresolve : c.table.resolve expected f m = .ok i) : i ∈ c.table.instances f :=
    hnarrows.mem_instances_of_lookup hcatalog (NetworkTable.resolve_eq_ok_iff.mp hresolve).1
  constructor
  case ascending => exact c.table.capabilities_ascending
  case order_free => exact fun methods => hnarrows.ofList_namesAlong hcatalog
  case announced_of_resolve =>
    intro expected f m i hresolve
    refine ⟨hnarrows.method_eq hcatalog (hmem hresolve), fun hannounced => ?_⟩
    exact NetworkTable.mem_capabilities_iff.mpr ⟨f, hannounced, i, hmem hresolve, rfl⟩
  case resolve_of_announced =>
    intro hclosed name hname
    obtain ⟨f, hannounced, i, hi, rfl⟩ := NetworkTable.mem_capabilities_iff.mp hname
    obtain ⟨m, hm, hlookup⟩ := hnarrows.exists_lookup_of_mem_instances hcatalog hclosed hi
    refine ⟨f, m, i, hannounced, hm, ?_, hnarrows.method_eq hcatalog hi, rfl⟩
    exact NetworkTable.resolve_eq_ok_iff.mpr ⟨hlookup, Or.inr rfl⟩
  case exchange_sends =>
    intro σ t wire i hresolve
    have hversion : i.version = .exchangeCapabilities := by
      have hmethod := hnarrows.method_eq hcatalog (hmem hresolve)
      generalize i.version = w at hmethod
      cases w <;> cases hmethod
      rfl
    rw [exchangeCapabilities_eq, hresolve, compose_announcement hversion]
    rfl

/-- Announced names match what can be issued, for every list of declarations that makes a catalog
and every network that supports something. The networks of fork schedules skip no milestone, so
there the announced names are exactly those of what can be resolved. -/
theorem announces_issuable_names :
    (∀ s : ForkSchedule, s.supported ≠ [] ∧ Milestone.DownwardClosed s.supported) ∧
    ∀ {declarations : List Declaration} {catalog : Catalog},
      Catalog.ofDeclarations declarations = .ok catalog →
      ∀ network : Network, network.supported ≠ [] →
        ∃ c, ofCatalog catalog network = .ok c ∧ c.network = network ∧ c.AnnouncesIssuable := by
  refine ⟨fun s => ⟨s.supported_ne_nil, s.supported_downwardClosed⟩, ?_⟩
  intro declarations catalog hcatalog network hsome
  obtain ⟨t, htable, hnarrows⟩ := NetworkTable.exists_table catalog hsome
  refine ⟨⟨network, t⟩, ?_, rfl, announcesIssuable hcatalog hnarrows⟩
  rw [ofCatalog, htable]
  rfl

/-- Two versions of a method may share a name, which is then announced once; here the network names
a milestone twice and the latest of them first. -/
theorem announces_issuable_names_shared : ∃ catalog c,
    Catalog.ofDeclarations (⟨.getPayload, some .altair, .getPayloadV1⟩ ::
      Catalog.engineDeclarations) = .ok catalog ∧
    ofCatalog catalog ⟨[.bellatrix, .altair, .phase0, .bellatrix], fun _ => .altair⟩ = .ok c ∧
    c.AnnouncesIssuable ∧
    c.table.capabilities.names = ["engine_exchangeTransitionConfigurationV1",
      "engine_forkchoiceUpdatedV1", "engine_getPayloadV1", "engine_newPayloadV1"] := by
  obtain ⟨c, hclient, _, hannounces⟩ := @announces_issuable_names.2
    (⟨.getPayload, some .altair, .getPayloadV1⟩ :: Catalog.engineDeclarations) _ rfl
    ⟨[.bellatrix, .altair, .phase0, .bellatrix], fun _ => .altair⟩ (List.cons_ne_nil _ _)
  refine ⟨_, c, rfl, hclient, hannounces, ?_⟩
  cases hclient
  decide

end Client

end EngineCall
