import EngineCall.Calls.History
import EngineCall.Proofs.Calls.SlotResolution

/-!
# Future forks

A schedule may be extended by forks that lie in the future. The client of the extended schedule
keeps more versions and knows a later highest milestone, yet before the first of the new forks no
call that belongs to a slot can tell it from the client of the schedule as it was.
-/

namespace EngineCall

namespace ForkSchedule

/-- A schedule with everything that another one has, and with further forks from an epoch on. -/
structure Extends (s' s : ForkSchedule) (first : UInt64) : Prop where
  sameSlots : s'.config.slotsPerEpoch = s.config.slotsPerEpoch
  keeps : ∀ m epoch, s.forkEpoch? m = some epoch → s'.forkEpoch? m = some epoch
  later : ∀ m epoch, s.forkEpoch? m = none → s'.forkEpoch? m = some epoch → first ≤ epoch

variable {s s' : ForkSchedule} {first : UInt64}

/-- Before the first of the new forks the same milestones have been reached. -/
theorem Extends.reached_eq (hextends : s'.Extends s first) {epoch : UInt64}
    (hbefore : epoch < first) : s'.reached epoch = s.reached epoch := by
  funext m
  unfold reached
  cases hm : s.forkEpoch? m with
  | some start => rw [hextends.keeps m start hm]
  | none =>
      cases hm' : s'.forkEpoch? m with
      | none => rfl
      | some start =>
          have hlater : first ≤ start := hextends.later m start hm hm'
          exact decide_eq_false (UInt64.not_le.mpr (UInt64.lt_of_lt_of_le hbefore hlater))

theorem Extends.milestoneAt_eq (hextends : s'.Extends s first) {slot : UInt64}
    (hbefore : slot / s.config.slotsPerEpoch < first) :
    s'.milestoneAt slot = s.milestoneAt slot := by
  unfold milestoneAt milestoneAtEpoch
  rw [hextends.sameSlots, hextends.reached_eq hbefore]

/-- A network that is at Capella and plans Deneb for epoch 100. -/
def denebPlanned : ForkSchedule := ⟨⟨8, some 0, some 0, some 0, some 100⟩, by decide⟩

end ForkSchedule

/-- The slot that a call belongs to, if it belongs to one. -/
def Call.slot? : Call → Option UInt64
  | .newPayload slot .. | .getPayload slot _ | .forkchoiceUpdated slot .. => some slot
  | .exchangeTransitionConfiguration _ | .exchangeCapabilities | .engineCapabilities ..
  | .clearCache | .blockByHash _ | .blockByNumber _ => none

namespace Client

/-- Two clients resolve every method to the same instance at a slot, or fail alike. -/
def AgreeAt (c c' : Client) (slot : UInt64) : Prop :=
  ∀ expected f, c.resolveAt expected f slot = c'.resolveAt expected f slot

/-- With one catalog it is the active milestone that counts. -/
theorem Serves.agreeAt {c c' : Client} {catalog : Catalog} {s s' : ForkSchedule}
    (hserves : c.Serves catalog s) (hserves' : c'.Serves catalog s') {slot : UInt64}
    (hmilestone : s'.milestoneAt slot = s.milestoneAt slot) : c.AgreeAt c' slot := by
  intro expected f
  rw [hserves.resolveAt_eq, hserves'.resolveAt_eq, hmilestone]

section AgreeAt

variable {c c' : Client} {slot : UInt64} {σ : Type}

theorem AgreeAt.newPayload (hagree : c.AgreeAt c' slot) (t : Transport σ) :
    c.newPayload t slot = c'.newPayload t slot := by
  funext payload hashes root wire
  unfold Client.newPayload
  rw [hagree]

theorem AgreeAt.getPayload (hagree : c.AgreeAt c' slot) (t : Transport σ) :
    c.getPayload t slot = c'.getPayload t slot := by
  funext id wire
  unfold Client.getPayload
  rw [hagree]

theorem AgreeAt.forkchoiceUpdated (hagree : c.AgreeAt c' slot) (t : Transport σ) :
    c.forkchoiceUpdated t slot = c'.forkchoiceUpdated t slot := by
  funext state attributes wire
  unfold Client.forkchoiceUpdated
  rw [hagree]

/-- Clients that agree at a slot perform the calls that belong to it alike. -/
theorem AgreeAt.perform (hagree : c.AgreeAt c' slot) {call : Call} (hslot : call.slot? = some slot)
    (t : Transport σ) (session : Session σ) :
    c.perform t call session = c'.perform t call session := by
  cases call with
  | newPayload own payload hashes root =>
      cases hslot
      simp only [Client.perform, hagree.newPayload t]
  | getPayload own id =>
      cases hslot
      simp only [Client.perform, hagree.getPayload t]
  | forkchoiceUpdated own state attributes =>
      cases hslot
      simp only [Client.perform, hagree.forkchoiceUpdated t]
  | _ => cases hslot

end AgreeAt

/-- Steps whose calls belong to slots at which two clients agree have one history. -/
theorem history_eq_of_agreeAt {c c' : Client} {steps : List Step}
    (hagree : ∀ call, .call call ∈ steps → ∃ slot, call.slot? = some slot ∧ c.AgreeAt c' slot)
    (session : Session CannedEngine) : c.history steps session = c'.history steps session := by
  induction steps generalizing session with
  | nil => rfl
  | cons step rest ih =>
      have hrest := ih fun call hcall => hagree call (List.mem_cons_of_mem _ hcall)
      cases step with
      | call call =>
          obtain ⟨slot, hslot, hagrees⟩ := hagree call List.mem_cons_self
          have hevent : c.event call session = c'.event call session := by
            unfold event
            rw [hagrees.perform hslot]
          simp only [history, hevent, hrest]
      | reply method reply => exact hrest _

/-- Before the first of the new forks the three calls that belong to a slot, whatever their
arguments and whatever carries them, have the same outcome over a schedule and over an extension of
it, and leave the transport in the same state. So do runs of them against a canned engine. -/
theorem calls_before_future_forks (catalog : Catalog) {s s' : ForkSchedule} {first : UInt64}
    (hextends : s'.Extends s first) : ∃ c c',
    ofCatalog catalog (.ofSchedule s) = .ok c ∧ ofCatalog catalog (.ofSchedule s') = .ok c' ∧
    (∀ slot, slot / s.config.slotsPerEpoch < first → ∀ {σ : Type} (t : Transport σ) (wire : σ),
      (∀ payload hashes root,
        c.newPayload t slot payload hashes root wire =
          c'.newPayload t slot payload hashes root wire) ∧
      (∀ id, c.getPayload t slot id wire = c'.getPayload t slot id wire) ∧
      ∀ state attributes,
        c.forkchoiceUpdated t slot state attributes wire =
          c'.forkchoiceUpdated t slot state attributes wire) ∧
    ∀ steps, (∀ call, .call call ∈ steps →
        ∃ slot, call.slot? = some slot ∧ slot / s.config.slotsPerEpoch < first) →
      ∀ session, c.history steps session = c'.history steps session := by
  obtain ⟨c, hclient, hserves⟩ := exists_client catalog s
  obtain ⟨c', hclient', hserves'⟩ := exists_client catalog s'
  have hagree (slot : UInt64) (hbefore : slot / s.config.slotsPerEpoch < first) :
      c.AgreeAt c' slot :=
    hserves.agreeAt hserves' (hextends.milestoneAt_eq hbefore)
  refine ⟨c, c', hclient, hclient', ?_, ?_⟩
  · intro slot hbefore σ t wire
    refine ⟨?_, ?_, ?_⟩
    · intro payload hashes root
      rw [(hagree slot hbefore).newPayload]
    · intro id
      rw [(hagree slot hbefore).getPayload]
    · intro state attributes
      rw [(hagree slot hbefore).forkchoiceUpdated]
  · intro steps hsteps session
    refine history_eq_of_agreeAt (fun call hcall => ?_) session
    obtain ⟨slot, hslot, hbefore⟩ := hsteps call hcall
    exact ⟨slot, hslot, hagree slot hbefore⟩

/-- The plan changes nothing up to the last slot of epoch 99, and something at the slot after it. -/
theorem calls_before_future_forks_deneb : ∃ c c',
    ForkSchedule.denebPlanned.Extends (.minimal .capella) 100 ∧
    ofCatalog .engine (.ofSchedule (.minimal .capella)) = .ok c ∧
    ofCatalog .engine (.ofSchedule .denebPlanned) = .ok c' ∧
    (∀ id wire, c.getPayload CannedEngine.transport 799 id wire =
      c'.getPayload CannedEngine.transport 799 id wire) ∧
    ¬ c.AgreeAt c' 800 := by
  have hextends : ForkSchedule.denebPlanned.Extends (.minimal .capella) 100 := by
    constructor
    case sameSlots => rfl
    case keeps =>
      intro m epoch hm
      cases m <;> first | exact hm | cases hm
    case later =>
      intro m epoch hm hm'
      cases m <;> cases hm
      cases hm'
      exact UInt64.le_refl _
  obtain ⟨c, c', hclient, hclient', hcalls, _⟩ := calls_before_future_forks .engine hextends
  refine ⟨c, c', hextends, hclient, hclient', ?_, ?_⟩
  · intro id wire
    exact (hcalls 799 (by decide) CannedEngine.transport wire).2.1 id
  · intro hagree
    have hsame := hagree .value .getPayload
    rw [(serves_of_ofCatalog hclient).resolveAt_eq,
      (serves_of_ofCatalog hclient').resolveAt_eq] at hsame
    cases hsame

end Client

end EngineCall
