import EthPhy.ErrorTransparency
import EthPhy.PlcaSafety

/-!
# The last successful PLCA configuration wins

Between two calls of `init`, whatever the bus has done to the calls before it, a
successful `configurePlca` leaves the same driver state and the same PLCA registers
as it would have right after `init`.  It rewrites `PLCA_CTRL1` and `PLCA_BURST`
whole, and no other call leaves a trace outside them but in the enable bit, which it
sets (`SinceInit`).
-/

namespace EthPhy
open Interaction Lan867x

variable {ε : Type}

/-- **What no call after `init` changes**: the package, `T1SPMACTL`, and every bit of
`PLCA_CTRL0` but the enable bit. -/
structure SinceInit (d : Datasheet) (chip : Option Chip) (phy : PhyLan867x) (f : RegFile) :
    Prop where
  chip_eq : phy.chip = chip
  t1spmactl_eq : f t1spmactl = d.defaults t1spmactl ||| t1spmactlMde
  plcaCtrl0_eq : f plcaCtrl0 &&& ~~~plcaCtrl0En = d.defaults plcaCtrl0 &&& ~~~plcaCtrl0En

/-- The registers that decide how PLCA runs. -/
def RegFile.plcaRegs (f : RegFile) : U16 × U16 × U16 × U16 :=
  (f plcaCtrl0, f plcaCtrl1, f plcaBurst, f t1spmactl)

/-- Their contents once `config` is in force: EN set, `NCNT[15:8] | ID[7:0]`,
`MAXBC[15:8] | BTMR[7:0]` with the timer `0x80` for zero, and MDE set. -/
def configuredRegs (d : Datasheet) (config : PlcaConfig) : U16 × U16 × U16 × U16 :=
  (d.defaults plcaCtrl0 ||| 0x8000,
    (config.nodeCount.setWidth 16 <<< 8) ||| config.nodeId.setWidth 16,
    (config.burstCount.setWidth 16 <<< 8) |||
      (if config.burstTimer = 0 then 0x80 else config.burstTimer.setWidth 16),
    d.defaults t1spmactl ||| 0x0400)

/-- These are the values the driver writes. -/
theorem configuredRegs_eq (d : Datasheet) (config : PlcaConfig) : configuredRegs d config =
    (d.defaults plcaCtrl0 ||| plcaCtrl0En, PhyLan867x.ctrl1Of config, PhyLan867x.burstOf config,
      d.defaults t1spmactl ||| t1spmactlMde) := rfl

section Calls

variable {d : Datasheet} {phy : PhyLan867x} {c : Silicon} {chip : Option Chip}

/-- **Every call but `init` keeps what holds since `init`.** -/
theorem sinceInit_step (h : SinceInit d chip phy c.mmd) (call : Lan867xCall)
    (hcall : call ≠ .init) :
    (call.op phy : Program Txn.Reply ε _).Ensures (device True (lan867x d) phy.addr) c
      fun _ r c' => r.2.addr = phy.addr ∧ SinceInit d chip r.2 c'.mmd := by
  refine (call.follows d phy (f := c.mmd) (fun _ _ => rfl)).mono ?_
  rintro l ⟨r, phy'⟩ c' ⟨hprog, hupd⟩
  obtain ⟨g, hg, hc'⟩ := hprog.somewhere
  refine ⟨hupd.addr, (hupd.chip_eq hcall).trans h.chip_eq, ?_, ?_⟩
  · rw [call.t1spmactl_kept hcall hprog]
    exact h.t1spmactl_eq
  · rw [hc' _ d.plcaCtrl0_not_status, call.plan_plcaCtrl0_rest hcall hg]
    exact h.plcaCtrl0_eq

/-- A successful `init`. -/
theorem sinceInit_start (phy : PhyLan867x) (c : Silicon) :
    (Lan867xCall.init.op phy : Program Txn.Reply ε _).Ensures
      (device True (lan867x d) phy.addr) c fun _ r c' => r.1.isOk = true →
        r.2.addr = phy.addr ∧ SinceInit d r.2.chip r.2 c'.mmd := by
  refine (Lan867xCall.init.follows d phy (f := c.mmd) (fun _ _ => rfl)).mono ?_
  rintro l ⟨r, phy'⟩ c' ⟨hprog, hupd⟩ hok
  have hc' : c'.Holds d.status (d.defaults.rmw t1spmactl 0 t1spmactlMde) := hprog.reached hok
  refine ⟨hupd.addr, rfl, ?_, ?_⟩
  · rw [hc' _ d.t1spmactl_not_status, RegFile.rmw_self, Bits.and_not_zero]
  · rw [hc' _ d.plcaCtrl0_not_status, RegFile.rmw_of_ne _ (by decide)]

/-- **A successful `configurePlca` puts its configuration in force**, whatever has
happened since `init`. -/
theorem configurePlca_step {config : PlcaConfig} (hvalid : config.Valid)
    (h : SinceInit d chip phy c.mmd) :
    ((Lan867xCall.configurePlca config).op phy : Program Txn.Reply ε _).Ensures
      (device True (lan867x d) phy.addr) c fun _ r c' =>
        (∃ e, r.1.bus? = some e) ∨
          r = (.plca (.ok .unit), ⟨phy.addr, chip, some config.nodeId⟩) ∧
            RegFile.plcaRegs c'.mmd = configuredRegs d config := by
  refine ((Lan867xCall.configurePlca config).follows d phy (f := c.mmd) (fun _ _ => rfl)).mono ?_
  rintro l ⟨r, phy'⟩ c' ⟨hprog, hresult, -, hphy'⟩
  rcases hresult hvalid with rfl | ⟨e, rfl⟩
  · right
    rw [Lan867xCall.plan_configurePlca hvalid] at hprog
    have hc' := hprog.reached rfl
    have hctrl0 : c.mmd plcaCtrl0 ||| plcaCtrl0En = d.defaults plcaCtrl0 ||| plcaCtrl0En := by
      rw [← Bits.andNot_or_self, h.plcaCtrl0_eq, Bits.andNot_or_self]
    refine ⟨Prod.ext rfl (hphy'.trans ?_), ?_⟩
    · rw [← h.chip_eq]
      rfl
    · unfold RegFile.plcaRegs
      rw [configuredRegs_eq, hc' _ d.plcaCtrl0_not_status, hc' _ d.plcaCtrl1_not_status,
        hc' _ d.plcaBurst_not_status, hc' _ d.t1spmactl_not_status, ← hctrl0, ← h.t1spmactl_eq]
      simp (disch := decide) only [Lan867xCall.configuredBy, List.getLastD_cons,
        List.getLastD_nil, RegFile.rmw_self, RegFile.rmw_of_ne, Function.update_self,
        Function.update_of_ne, Bits.and_not_zero]
  · exact .inl ⟨e, rfl⟩

/-- What `plcaStatus` reads: two registers as they are, and `PLCA_STS`. -/
theorem plcaStatus_reads {ambiguous : Prop} (d : Datasheet) (phy : PhyLan867x) (c : Silicon) :
    (Lan867xCall.plcaStatus.op phy : Program Txn.Reply ε _).Ensures
      (device ambiguous (lan867x d) phy.addr) c fun l r c' =>
        (∃ e, r.1.bus? = some e) ∨ ∃ sts l₁ l₂, ∃ c₁ : Silicon, l = l₁ ++ l₂ ∧
          c₁.Fetched d.status phy.addr plcaSts l₂ sts c' ∧
          r.1 = .plca (.ok (.status {
            enabled := c.mmd plcaCtrl0 &&& plcaCtrl0En != 0
            nodeId := idField (c.mmd plcaCtrl1)
            isCoordinator := idField (c.mmd plcaCtrl1) == plcaIdCoordinator
            stable := sts &&& plcaStsPst != 0 })) := by
  refine (Program.ensures_map _ _ c).mpr ?_
  refine Method.ensures_lift_bind (mmdRead_ensures phy.addr mmdVs2 mmdRegPlcaCtrl0 c) ?_
    (fun l e c' _ => .inl ⟨e, rfl⟩)
  rintro l₀ ctrl0 c₀ ⟨hq₀, hctrl0⟩
  obtain rfl := (hctrl0 ctrl0 rfl).eq d.plcaCtrl0_not_status
  refine Method.ensures_lift_bind (mmdRead_ensures phy.addr mmdVs2 mmdRegPlcaCtrl1 c₀) ?_
    (fun l e c' _ => .inl ⟨e, rfl⟩)
  rintro l₁ ctrl1 c₁ ⟨hq₁, hctrl1⟩
  obtain rfl := (hctrl1 ctrl1 rfl).eq d.plcaCtrl1_not_status
  refine Method.ensures_lift_bind (mmdRead_ensures phy.addr mmdVs2 mmdRegPlcaSts c₁) ?_
    (fun l e c' _ => .inl ⟨e, rfl⟩)
  rintro l₂ sts c₂ ⟨-, hsts⟩
  refine .inr ⟨sts, l₀ ++ l₁, l₂, c₁, by simp, hsts sts rfl, ?_⟩
  rw [← hq₀.1 _ d.plcaCtrl1_not_status]
  rfl

end Calls

/-- A fault-free `configurePlca` puts its configuration in force. -/
theorem configured_of_faultFree {σ : Type} {d : Datasheet} {bus : MdioBus ε σ}
    {view : σ → Silicon} {phy : PhyLan867x}
    (hbus : bus.handler.Conforms (device True (lan867x d) phy.addr) view) {s : σ}
    {chip : Option Chip} (h : SinceInit d chip phy (view s).mmd) {config : PlcaConfig}
    (hvalid : config.Valid)
    (hff : (((Lan867xCall.configurePlca config).op phy).run bus.handler s).FaultFree) :
    let o := ((Lan867xCall.configurePlca config).op phy).run bus.handler s
    o.value = (.plca (.ok .unit), ⟨phy.addr, chip, some config.nodeId⟩) ∧
      RegFile.plcaRegs (view o.state).mmd = configuredRegs d config := by
  have hnone := (((Lan867xCall.configurePlca config).op_failStop phy).transparent
    bus.handler s).none_of_faultFree hff
  rcases (configurePlca_step hvalid h).run hbus with ⟨e, he⟩ | hdone
  · exact absurd (hnone.symm.trans he) nofun
  · exact hdone

/-- A fault-free `plcaStatus` reads back the configuration in force. -/
theorem status_of_faultFree {σ : Type} {d : Datasheet} {bus : MdioBus ε σ}
    {view : σ → Silicon} {phy : PhyLan867x}
    (hbus : bus.handler.Conforms (device True (lan867x d) phy.addr) view) {s : σ}
    {config : PlcaConfig} (h : RegFile.plcaRegs (view s).mmd = configuredRegs d config)
    (hff : ((Lan867xCall.plcaStatus.op phy).run bus.handler s).FaultFree) :
    let q := ((Lan867xCall.plcaStatus.op phy).run bus.handler s).map view
    ∃ sts l₁ l₂, ∃ c₁ : Silicon, q.trace = l₁ ++ l₂ ∧
      c₁.Fetched d.status phy.addr plcaSts l₂ sts q.state ∧
      q.value.1 = .plca (.ok (.status {
        enabled := true
        nodeId := config.nodeId
        isCoordinator := config.nodeId == 0
        stable := sts &&& plcaStsPst != 0 })) := by
  have hnone := ((Lan867xCall.plcaStatus.op_failStop phy).transparent
    bus.handler s).none_of_faultFree hff
  rcases (plcaStatus_reads d phy (view s)).run hbus with ⟨e, he⟩ | hread
  · exact absurd (hnone.symm.trans he) nofun
  · obtain ⟨sts, l₁, l₂, c₁, htrace, hfetch, hstatus⟩ := hread
    have hctrl0 : (view s).mmd plcaCtrl0 = d.defaults plcaCtrl0 ||| plcaCtrl0En :=
      congrArg Prod.fst h
    have hctrl1 : (view s).mmd plcaCtrl1 = PhyLan867x.ctrl1Of config :=
      congrArg (fun regs => regs.2.1) h
    refine ⟨sts, l₁, l₂, c₁, htrace, hfetch, hstatus.trans ?_⟩
    rw [hctrl0, hctrl1, Bits.or_and_self, idField_ctrl1Of]
    rfl

/-- **The last successful PLCA configuration wins**, whatever happened to the calls
since `init`, and reads back. -/
theorem last_configuration_wins {σ : Type} (d : Datasheet) (bus : MdioBus ε σ)
    (view : σ → Silicon) (phy₀ : PhyLan867x)
    (hbus : bus.handler.Conforms (device True (lan867x d) phy₀.addr) view) (s₀ : σ)
    (hinit : ((Lan867xCall.init.op phy₀).run bus.handler s₀).value.1.isOk = true)
    (calls : List Lan867xCall) (hcalls : ∀ call ∈ calls, call ≠ .init)
    (config : PlcaConfig) (hvalid : config.Valid) :
    let start := (Lan867xCall.init.op phy₀).run bus.handler s₀
    let phy₁ := start.value.2
    let now := ((serve bus.handler Lan867xCall.op).play calls (phy₁, start.state)).2
    let o := ((Lan867xCall.configurePlca config).op now.1).run bus.handler now.2
    o.FaultFree →
      o.value = (.plca (.ok .unit), { phy₁ with plcaId := some config.nodeId }) ∧
      -- the same as right after `init`, on any bus in front of the same chip
      (∀ bus' : MdioBus ε σ, bus'.handler.Conforms (device True (lan867x d) phy₀.addr) view →
        let o' := ((Lan867xCall.configurePlca config).op phy₁).run bus'.handler start.state
        o'.FaultFree → o.value = o'.value ∧
          RegFile.plcaRegs (view o.state).mmd = RegFile.plcaRegs (view o'.state).mmd) ∧
      RegFile.plcaRegs (view o.state).mmd = configuredRegs d config ∧
      let q := ((Lan867xCall.plcaStatus.op o.value.2).run bus.handler o.state).map view
      q.FaultFree → ∃ sts l₁ l₂, ∃ c₁ : Silicon, q.trace = l₁ ++ l₂ ∧
        c₁.Fetched d.status phy₀.addr plcaSts l₂ sts q.state ∧
        q.value.1 = .plca (.ok (.status {
          enabled := true
          nodeId := config.nodeId
          isCoordinator := config.nodeId == 0
          stable := sts &&& plcaStsPst != 0 })) := by
  intro start phy₁ now o hff
  obtain ⟨haddr₁, hstart⟩ : phy₁.addr = phy₀.addr ∧
      SinceInit d phy₁.chip phy₁ (view start.state).mmd :=
    (sinceInit_start phy₀ (view s₀)).run hbus hinit
  obtain ⟨haddr, hnow⟩ : now.1.addr = phy₀.addr ∧ SinceInit d phy₁.chip now.1 (view now.2).mmd :=
    serve_invariant_keyed PhyLan867x.addr (device True (lan867x d))
      (P := fun _ (phy : PhyLan867x) (c : Silicon) => SinceInit d phy₁.chip phy c.mmd) hbus
      (fun _ call _ _ hcall h => sinceInit_step h call hcall) hcalls haddr₁ hstart
  obtain ⟨hvalue, hregs⟩ := configured_of_faultFree (haddr ▸ hbus) hnow hvalid hff
  have hdriver : (⟨now.1.addr, phy₁.chip, some config.nodeId⟩ : PhyLan867x) =
      { phy₁ with plcaId := some config.nodeId } := by
    rw [haddr, ← haddr₁]
  rw [hdriver] at hvalue
  refine ⟨hvalue, ?_, hregs, ?_⟩
  · intro bus' hbus' o' hff'
    obtain ⟨hvalue', hregs'⟩ := configured_of_faultFree (haddr₁ ▸ hbus') hstart hvalid hff'
    exact ⟨hvalue.trans hvalue'.symm, hregs.trans hregs'.symm⟩
  · intro q hffq
    have haddr' : o.value.2.addr = phy₀.addr := by
      rw [hvalue]
      exact haddr₁
    have hread := status_of_faultFree (haddr' ▸ hbus) hregs
      ((Outcome.map_faultFree view _).mp hffq)
    rw [haddr'] at hread
    exact hread

/-- A LAN8670 that has just been initialised, on a bus that will lose one of the
transactions to come and leave another unconfirmed. -/
def afterInit : Outcome Txn.Reply String (SimState String) (Response String × PhyLan867x) :=
  (Lan867xCall.init.op (PhyLan867x.new 3)).run (SimulatedChip.lan8670.bus 3 true).handler
    ⟨staleChip, List.replicate 28 .delivered ++ [.lost "timeout"] ++
      List.replicate 7 .delivered ++ [.unconfirmed "timeout"]⟩

/-- The same after a `configurePlca` that lost its burst setting and a `disablePlca`
that was not confirmed. -/
def afterFaults : PhyLan867x × SimState String :=
  ((serve (SimulatedChip.lan8670.bus 3 true).handler Lan867xCall.op).play
    [.configurePlca ⟨2, 8, 4, 0x40⟩, .disablePlca] (afterInit.value.2, afterInit.state)).2

/-- The next configuration goes through. -/
theorem last_configuration_wins_retry :
    (((Lan867xCall.configurePlca ⟨1, 4, 0, 0⟩).op afterFaults.1).run
      (SimulatedChip.lan8670.bus 3 true).handler afterFaults.2).value =
      (.plca (.ok .unit), { afterInit.value.2 with plcaId := some 1 }) :=
  (last_configuration_wins SimulatedChip.datasheet (SimulatedChip.lan8670.bus 3 true)
    SimState.chip (PhyLan867x.new 3) (SimulatedChip.lan8670.conforms 3 true fun _ => trivial)
    _ rfl [.configurePlca ⟨2, 8, 4, 0x40⟩, .disablePlca] (by decide) ⟨1, 4, 0, 0⟩ (by decide)
    (((Lan867xCall.configurePlca ⟨1, 4, 0, 0⟩).op_failStop afterFaults.1).faultFree_of_none
      _ _ rfl)).1

end EthPhy
