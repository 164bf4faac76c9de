import EthPhy.BringUp

/-!
# What a LAN867x is for

A LAN867x with its driver, as their user sees them when nothing fails: a node of a
multidrop segment, that runs PLCA under some identity or does not.  `Node.Answers` is
the whole of it, one line for each operation, without registers or transactions.

The driver refines it (`node_refined`): from the first `init` on, whatever state it found
driver and chip in, every session on a bus that does not fail is one of the node.
-/

namespace EthPhy
open Interaction Lan867x

variable {ε : Type}

/-- The abilities a BMSR value advertises. -/
def PhyCapabilities.ofBmsr (bmsr : U16) : PhyCapabilities where
  speed100Fd := bmsr.getLsbD 14
  speed100Hd := bmsr.getLsbD 13
  speed10Fd := bmsr.getLsbD 12
  speed10Hd := bmsr.getLsbD 11
  autoNegotiation := bmsr.getLsbD 3
  pause := false

/-! ## The node -/

/-- **A node of the segment**, once initialised: whether it takes part in PLCA, and under
which identity. -/
structure Node where
  running : Bool
  id : U8
  deriving DecidableEq, Repr

namespace Node

variable (p : Part)

/-- A node that has just been initialised. -/
def fresh : Node := ⟨false, idField (p.datasheet.defaults plcaCtrl1)⟩

/-- The link as the node reports it: up, unless it waits for BEACONs. -/
def link (n : Node) (beacons : Bool) : LinkState :=
  if n.running && !beacons then .down else .upAt ._10M .half

/-- **What the node answers, and what becomes of it.**  Whether there are BEACONs and what
BMSR reads is not its doing. -/
def Answers (n : Node) : Lan867xCall → Response ε → Node → Prop
  | .init, r, n' => r = .phy (.ok .unit) ∧ n' = fresh p
  | .pollLink, r, n' => n' = n ∧ ∃ beacons, r = .phy (.ok (.link (n.link beacons)))
  | .capabilities, r, n' =>
    n' = n ∧ ∃ bmsr, r = .phy (.ok (.capabilities (.ofBmsr bmsr)))
  | .phyId, r, n' =>
    n' = n ∧ r = .phy (.ok (.id ((p.phyId1.setWidth 32 <<< 16) ||| p.phyId2.setWidth 32)))
  | .configurePlca config, r, n' =>
    if config.Valid then r = .plca (.ok .unit) ∧ n' = ⟨true, config.nodeId⟩
    else r = .plca (.error .invalidConfig) ∧ n' = n
  | .disablePlca, r, n' => r = .plca (.ok .unit) ∧ n' = { n with running := false }
  | .plcaStatus, r, n' => n' = n ∧ ∃ beacons, r = .plca (.ok (.status {
      enabled := n.running
      nodeId := n.id
      isCoordinator := n.id == 0
      stable := beacons }))

/-- The sessions of the node. -/
def Plays (n : Node) : List (Lan867xCall × Response ε) → Node → Prop
  | [], n' => n' = n
  | (call, r) :: log, n' => ∃ m, n.Answers p call r m ∧ m.Plays log n'

variable {p}

theorem Plays.concat {n m n' : Node} {log : List (Lan867xCall × Response ε)}
    {call : Lan867xCall} {r : Response ε} (h : n.Plays p log m) (hr : m.Answers p call r n') :
    n.Plays p (log ++ [(call, r)]) n' := by
  induction log generalizing n with
  | nil =>
    obtain rfl : m = n := h
    exact ⟨n', hr, rfl⟩
  | cons e log ih =>
    obtain ⟨m₁, he, hlog⟩ := h
    exact ⟨m₁, he, ih hlog⟩

end Node

/-! ## The driver refines the node -/

/-- **The node that driver and chip stand for.** -/
structure Represents (p : Part) (addr : U8) (n : Node) (phy : PhyLan867x) (s : Booting) :
    Prop where
  driver : phy = ⟨addr, some p.package, if n.running then some n.id else none⟩
  since : SinceInit p.datasheet (some p.package) phy s.chip.mmd
  running : RegFile.PlcaOn s.chip.mmd ↔ n.running = true
  id : idField (s.chip.mmd plcaCtrl1) = n.id

section Simulation

variable {p : Part} {addr : U8} {n : Node} {phy : PhyLan867x} {s s' : Booting}

/-- A read leaves the node as it is. -/
theorem Represents.of_agree (h : Represents p addr n phy s)
    (hs : s.chip.Agree p.datasheet.status s'.chip) : Represents p addr n phy s' := by
  have hctrl0 := hs _ p.datasheet.plcaCtrl0_not_status
  refine ⟨h.driver, ⟨h.since.chip_eq, ?_, ?_⟩, ?_, ?_⟩
  · rw [hs _ p.datasheet.t1spmactl_not_status, h.since.t1spmactl_eq]
  · rw [hctrl0, h.since.plcaCtrl0_eq]
  · rw [← h.running]
    unfold RegFile.PlcaOn
    rw [hctrl0]
  · rw [hs _ p.datasheet.plcaCtrl1_not_status, h.id]

/-- A chip that has just been initialised. -/
theorem Recovered.represents (h : Recovered p addr phy s) :
    Represents p addr (Node.fresh p) phy s where
  driver := h.driver
  since := h.sinceInit
  running := iff_of_false (h.registers.plcaOn.not.mpr (Lan867xCall.initialised p.datasheet).2)
    nofun
  id := by
    rw [h.registers _ p.datasheet.plcaCtrl1_not_status, RegFile.rmw_of_ne _ (by decide)]
    rfl

/-- A chip whose configuration is in force. -/
theorem InForce.represents {config : PlcaConfig} (h : InForce p addr config phy s)
    (hs : SinceInit p.datasheet (some p.package) phy s.chip.mmd) :
    Represents p addr ⟨true, config.nodeId⟩ phy s where
  driver := h.driver
  since := hs
  running := by
    refine iff_of_true ?_ rfl
    have hctrl0 : s.chip.mmd plcaCtrl0 = p.datasheet.defaults plcaCtrl0 ||| plcaCtrl0En :=
      congrArg Prod.fst h.registers
    unfold RegFile.PlcaOn
    rw [hctrl0, Bits.or_and_self]
    decide
  id := by
    have hctrl1 : s.chip.mmd plcaCtrl1 = PhyLan867x.ctrl1Of config :=
      congrArg (fun regs => regs.2.1) h.registers
    rw [hctrl1, idField_ctrl1Of]

/-- On a reliable device there are no faults. -/
theorem ensures_faultless {α : Type} (x : Program Txn.Reply ε α) :
    x.Ensures (p.device addr).reliable s fun l _ _ => faults l = [] := by
  induction x generalizing s with
  | done a => rfl
  | call q k ih =>
    rintro r t ⟨-, v, rfl⟩
    exact ih _

/-- An MMD read other than of `STS2`. -/
theorem mmdRead_value {devad : U8} {reg : U16} (hx : mmdAddr devad reg ≠ sts2) :
    (mmdRead addr devad reg : Mdio ε U16).run.Ensures (p.device addr).reliable s
      fun _ r s' => ∃ v, r = .ok v ∧ s.chip.Agree p.datasheet.status s'.chip ∧
        (mmdAddr devad reg ∉ p.datasheet.status → v = s.chip.mmd (mmdAddr devad reg)) :=
  (mmdRead_boots hx).mono fun _ _ _ ⟨v, hr, _, hagree, hv⟩ => ⟨v, hr, hagree, hv⟩

theorem readCapabilities_value :
    (Ieee802_3.readCapabilities addr : Mdio ε PhyCapabilities).run.Ensures
      (p.device addr).reliable s fun _ r s' => ∃ caps, r = .ok caps ∧
        (∃ bmsr, caps = .ofBmsr bmsr) ∧ s.chip.Agree p.datasheet.status s'.chip := by
  refine Fallible.reliable_request_bind fun v s₁ h => ?_
  refine ⟨_, rfl, ⟨v, ?_⟩, (read_part (by decide) (by decide) h).2.1⟩
  unfold PhyCapabilities.ofBmsr
  rw [← Bits.and_twoPow_bne_zero v (i := 14) (by decide),
    ← Bits.and_twoPow_bne_zero v (i := 13) (by decide),
    ← Bits.and_twoPow_bne_zero v (i := 12) (by decide),
    ← Bits.and_twoPow_bne_zero v (i := 11) (by decide),
    ← Bits.and_twoPow_bne_zero v (i := 3) (by decide)]
  rfl

theorem readPhyId_value :
    (Ieee802_3.readPhyId addr : Mdio ε U32).run.Ensures (p.device addr).reliable s
      fun _ r s' => ∃ id, r = .ok id ∧
        id = ((p.phyId1.setWidth 32 <<< 16) ||| p.phyId2.setWidth 32) ∧
        s.chip.Agree p.datasheet.status s'.chip := by
  refine Fallible.reliable_request_bind fun id1 s₁ h₁ => ?_
  obtain ⟨-, hagree₁, hid1, -, -⟩ := read_part (by decide) (by decide) h₁
  refine Fallible.reliable_request_bind fun id2 s₂ h₂ => ?_
  obtain ⟨-, hagree₂, -, hid2, -⟩ := read_part (by decide) (by decide) h₂
  obtain rfl := hid1 rfl
  obtain rfl := hid2 rfl
  exact ⟨_, rfl, rfl, hagree₁.trans hagree₂⟩

/-! ### The operations -/

theorem capabilities_simulated (h : Represents p addr n phy s) :
    (Lan867xCall.capabilities.op phy : Program Txn.Reply ε _).Ensures (p.device addr).reliable s
      fun _ r s' => ∃ n', n.Answers p .capabilities r.1 n' ∧ Represents p addr n' r.2 s' := by
  obtain rfl : phy.addr = addr := by rw [h.driver]
  refine (Program.ensures_map _ _ _).mpr (Method.reliable_lift readCapabilities_value ?_)
  rintro l caps s' ⟨⟨bmsr, rfl⟩, hagree⟩
  exact ⟨n, ⟨rfl, bmsr, rfl⟩, h.of_agree hagree⟩

theorem phyId_simulated (h : Represents p addr n phy s) :
    (Lan867xCall.phyId.op phy : Program Txn.Reply ε _).Ensures (p.device addr).reliable s
      fun _ r s' => ∃ n', n.Answers p .phyId r.1 n' ∧ Represents p addr n' r.2 s' := by
  obtain rfl : phy.addr = addr := by rw [h.driver]
  refine (Program.ensures_map _ _ _).mpr (Method.reliable_lift readPhyId_value ?_)
  rintro l id s' ⟨rfl, hagree⟩
  exact ⟨n, ⟨rfl, rfl⟩, h.of_agree hagree⟩

theorem pollLink_simulated (h : Represents p addr n phy s) :
    (Lan867xCall.pollLink.op phy : Program Txn.Reply ε _).Ensures (p.device addr).reliable s
      fun _ r s' => ∃ n', n.Answers p .pollLink r.1 n' ∧ Represents p addr n' r.2 s' := by
  obtain ⟨running, id⟩ := n
  obtain rfl := h.driver
  refine (Program.ensures_map _ _ _).mpr ?_
  cases running with
  | false => exact ⟨_, ⟨rfl, true, rfl⟩, h⟩
  | true =>
    refine Method.reliable_lift_bind (mmdRead_value (by decide)) ?_
    rintro l sts s' ⟨hagree, -⟩
    by_cases hpst : sts &&& plcaStsPst ≠ 0
    · rw [if_pos hpst]
      exact ⟨_, ⟨rfl, true, rfl⟩, h.of_agree hagree⟩
    · rw [if_neg hpst]
      exact ⟨_, ⟨rfl, false, rfl⟩, h.of_agree hagree⟩

theorem plcaStatus_simulated (h : Represents p addr n phy s) :
    (Lan867xCall.plcaStatus.op phy : Program Txn.Reply ε _).Ensures (p.device addr).reliable s
      fun _ r s' => ∃ n', n.Answers p .plcaStatus r.1 n' ∧ Represents p addr n' r.2 s' := by
  obtain rfl : phy.addr = addr := by rw [h.driver]
  refine (Program.ensures_map _ _ _).mpr ?_
  refine Method.reliable_lift_bind (mmdRead_value (by decide)) ?_
  rintro l₀ ctrl0 s₀ ⟨hagree₀, hctrl0⟩
  obtain rfl := hctrl0 p.datasheet.plcaCtrl0_not_status
  refine Method.reliable_lift_bind (mmdRead_value (by decide)) ?_
  rintro l₁ ctrl1 s₁ ⟨hagree₁, hctrl1⟩
  obtain rfl := hctrl1 p.datasheet.plcaCtrl1_not_status
  refine Method.reliable_lift_bind (mmdRead_value (by decide)) ?_
  rintro l₂ sts s₂ ⟨hagree₂, -⟩
  have hn := (h.of_agree hagree₀).of_agree hagree₁
  have henabled : (s.chip.mmd plcaCtrl0 &&& plcaCtrl0En != 0) = n.running := by
    rw [Bool.eq_iff_iff, bne_iff_ne]
    exact h.running
  have hid : idField (s₀.chip.mmd plcaCtrl1) = n.id := (h.of_agree hagree₀).id
  refine ⟨n, ⟨rfl, sts &&& plcaStsPst != 0, ?_⟩, hn.of_agree hagree₂⟩
  rw [← henabled, ← hid]
  rfl

theorem disablePlca_simulated (h : Represents p addr n phy s) :
    (Lan867xCall.disablePlca.op phy : Program Txn.Reply ε _).Ensures (p.device addr).reliable s
      fun _ r s' => ∃ n', n.Answers p .disablePlca r.1 n' ∧ Represents p addr n' r.2 s' := by
  obtain rfl : phy.addr = addr := by rw [h.driver]
  have hsince : (Lan867xCall.disablePlca.op phy : Program Txn.Reply ε _).Ensures
      (p.device phy.addr) s fun _ r s' =>
        r.2.addr = phy.addr ∧ SinceInit p.datasheet (some p.package) r.2 s'.chip.mmd :=
    ensures_silicon (Q := fun r c => r.2.addr = phy.addr ∧
      SinceInit p.datasheet (some p.package) r.2 c.mmd) (sinceInit_step h.since _ nofun)
  have hregs : (Lan867xCall.disablePlca.op phy : Program Txn.Reply ε _).Ensures
      (p.device phy.addr).reliable s fun _ r s' =>
        r = (.plca (.ok .unit), { phy with plcaId := none }) ∧
          s'.chip.Holds p.datasheet.status (RegFile.rmw s.chip.mmd plcaCtrl0 plcaCtrl0En 0) := by
    refine (Program.ensures_map _ _ _).mpr ?_
    refine Method.reliable_lift_bind (mmdRmw_boots plcaCtrl0En 0
      p.datasheet.plcaCtrl0_not_status (by decide) (fun _ _ => rfl)) ?_
    rintro l _ s' ⟨-, hholds, -⟩
    exact ⟨rfl, hholds⟩
  refine (hsince.reliable.and hregs).mono ?_
  rintro l _ s' ⟨⟨-, hs'⟩, rfl, hholds⟩
  refine ⟨{ n with running := false }, ⟨rfl, rfl⟩, ?_, hs', ?_, ?_⟩
  · rw [h.driver]
    rfl
  · exact iff_of_false (hholds.plcaOn.not.mpr Lan867xCall.disabled_plcaOff) nofun
  · rw [hholds _ p.datasheet.plcaCtrl1_not_status, RegFile.rmw_of_ne _ (by decide)]
    exact h.id

theorem configurePlca_simulated (h : Represents p addr n phy s) (config : PlcaConfig) :
    ((Lan867xCall.configurePlca config).op phy : Program Txn.Reply ε _).Ensures
      (p.device addr).reliable s fun _ r s' => ∃ n',
        n.Answers p (.configurePlca config) r.1 n' ∧ Represents p addr n' r.2 s' := by
  have haddr : phy.addr = addr := by rw [h.driver]
  by_cases hvalid : config.Valid
  · have hattempt := configurePlca_attempt (ε := ε) hvalid ⟨haddr, h.since⟩
    refine ((ensures_faultless _).and hattempt.reliable).mono ?_
    rintro l ⟨r, phy'⟩ s' ⟨hnone, hsince, ⟨hr, -, hconf⟩ | ⟨-, hone⟩⟩
    · exact ⟨⟨true, config.nodeId⟩, (if_pos hvalid).mpr ⟨hr, rfl⟩, hconf.represents hsince.2⟩
    · rw [hnone] at hone
      cases hone
  · refine (Program.ensures_map _ _ _).mpr ?_
    rw [PhyLan867x.configurePlca_invalid phy hvalid]
    exact ⟨n, (if_neg hvalid).mpr ⟨rfl, rfl⟩, h⟩

/-- **Every operation does what the node would.** -/
theorem call_simulated (h : Represents p addr n phy s) (call : Lan867xCall) :
    (call.op phy : Program Txn.Reply ε _).Ensures (p.device addr).reliable s
      fun _ r s' => ∃ n', n.Answers p call r.1 n' ∧ Represents p addr n' r.2 s' := by
  cases call with
  | init =>
    obtain rfl : phy.addr = addr := by rw [h.driver]
    exact (init_op_boots p phy s).mono fun _ _ _ ⟨hr, hrec⟩ => ⟨_, ⟨hr, rfl⟩, hrec.represents⟩
  | pollLink => exact pollLink_simulated h
  | capabilities => exact capabilities_simulated h
  | phyId => exact phyId_simulated h
  | configurePlca config => exact configurePlca_simulated h config
  | disablePlca => exact disablePlca_simulated h
  | plcaStatus => exact plcaStatus_simulated h

end Simulation

/-- **The driver refines the node**: from the first `init` on, whatever that found, every
session on a bus that does not fail is a session of the node, and driver and chip stand
for where the node has got to. -/
theorem node_refined {σ : Type} (p : Part) (bus : MdioBus ε σ) (view : σ → Booting)
    (phy : PhyLan867x) (hbus : bus.handler.Conforms (p.device phy.addr) view)
    (hreliable : ∀ t s, ∃ v, (bus.handler t s).1 = .ok v) (calls : List Lan867xCall)
    (n : Node) (s : σ) :
    let session := (serve bus.handler Lan867xCall.op).play (.init :: calls) (phy, s)
    ∃ n', n.Plays p session.1 n' ∧
      Represents p phy.addr n' session.2.1 (view session.2.2) := by
  have hconforms : bus.handler.Conforms (p.device phy.addr).reliable view :=
    fun t s => ⟨hbus t s, hreliable t s⟩
  obtain ⟨hr, hrec⟩ := (init_op_boots p phy (view s)).run hconforms
  obtain ⟨n', hplays, hrep⟩ := serve_invariant
    (P := fun log o t => ∃ n', (Node.fresh p).Plays p log n' ∧ Represents p phy.addr n' o t)
    hconforms (fun log call o t _ ⟨m, hplays, hrep⟩ =>
      (call_simulated hrep call).mono fun _ _ _ ⟨n', hanswer, hrep'⟩ =>
        ⟨n', hplays.concat hanswer, hrep'⟩)
    (fun call (_ : call ∈ calls) => trivial) ⟨Node.fresh p, rfl, hrec.represents⟩
  exact ⟨n', ⟨Node.fresh p, ⟨hr, rfl⟩, hplays⟩, hrep⟩

/-- The slowest chip, found in the middle of something by a driver that remembers
something else. -/
theorem node_refined_slow :
    let session := (serve (Booting.slowBus 3).handler Lan867xCall.op).play
      [.init, .pollLink, .configurePlca ⟨0, 8, 0, 0⟩, .configurePlca ⟨9, 8, 0, 0⟩, .plcaStatus,
        .disablePlca, .pollLink] (⟨3, some .lan8672, some 5⟩, ⟨staleChip, 700, 2, false⟩)
    ∃ n', (⟨true, 5⟩ : Node).Plays slowPart session.1 n' ∧
      Represents slowPart 3 n' session.2.1 session.2.2.settled :=
  node_refined slowPart (Booting.slowBus 3) Booting.settled ⟨3, some .lan8672, some 5⟩
    (slowBus_conforms 3) (slowBus_reliable 3) _ ⟨true, 5⟩ ⟨staleChip, 700, 2, false⟩

end EthPhy
