import EthPhy.BringUp
import EthPhy.Lan87xxReset

/-!
# Bringing a LAN87xx up on a bus that may fail

A chip of the family that completes its reset in time, behind a bus on which a failed
transaction may have taken effect all the same.  Neither is asked of it elsewhere: that
RESET has cleared by the 500th read of BMCR is what makes `init` succeed, and a write of
BMCR that is not confirmed leaves open which mode it commands.

`bringUp` calls `init` until it succeeds, and then a command of the link mode.  As for the
LAN867x, `n` attempts at each are enough whenever fewer than `n` transactions fail
(`linkUp_outlasts_faults`).
-/

namespace EthPhy
open Interaction Ieee802_3 Lan87xx

variable {ε : Type}

/-! ## A chip that completes its reset -/

/-- **What is particular to one LAN87xx.** -/
structure Part87xx where
  phyId1 : U16
  phyId2 : U16
  /-- Of the family, whatever the model and revision. -/
  family : ((phyId1.setWidth 32 <<< 16) ||| phyId2.setWidth 32) &&& phyOuiMask = phyOui

/-- The chip, and how far it has got since its last reset. -/
structure Resetting where
  regs : Registers
  bmcrReads : Nat

namespace Part87xx

variable (p : Part87xx)

/-- **What a transaction has to do with the reset and the identity of the chip.** -/
def Boots (addr : U8) (s : Resetting) : (t : Txn) → t.Reply → Resetting → Prop
  | .write a r v, _, s' =>
    a = addr → r = regs.bmcr → v &&& bmcr.reset ≠ 0 → s'.bmcrReads = 0
  | .read a r, v, s' => a = addr →
    (r = regs.bmcr → s'.bmcrReads = s.bmcrReads + 1 ∧
      (500 ≤ s'.bmcrReads → v &&& bmcr.reset = 0)) ∧
    (r = regs.phyidr1 → v = p.phyId1) ∧ (r = regs.phyidr2 → v = p.phyId2)

/-- **The chip behind a bus that may lose any transaction**, before or after it took
effect.  A reset may leave anything in the registers. -/
def device (addr : U8) : Device Txn.Reply ε Resetting := fun s t r s' =>
  Device.faulty True (Registers.Drift configuredRegs87xx)
      (Registers.Effect configuredRegs87xx addr) s.regs t r s'.regs ∧
    ∀ v, r = .ok v → p.Boots addr s t v s'

end Part87xx

section Chip

variable {p : Part87xx} {addr : U8} {s : Resetting}

/-- When nothing fails, the chip is as it is elsewhere. -/
theorem reliable_regs {t : Txn} {r : Except ε t.Reply} {s' : Resetting}
    (h : (p.device addr).reliable s t r s') :
    (Lan87xx.device configuredRegs87xx addr).reliable s.regs t r s'.regs := by
  obtain ⟨hd, v, rfl⟩ := h
  exact ⟨hd.1, v, rfl⟩

theorem ensures_regs {α : Type} {x : Program Txn.Reply ε α} {Q : α → Registers → Prop}
    (h : x.Ensures (Lan87xx.device configuredRegs87xx addr) s.regs fun _ r c' => Q r c') :
    x.Ensures (p.device addr).reliable s fun _ r s' => Q r s'.regs :=
  h.pull fun _ _ _ _ hr => (reliable_regs hr).1

/-- A read succeeds. -/
theorem read_succeeds (r : U8) :
    (mdioRead addr r : Mdio ε U16).run.Ensures (p.device addr).reliable s
      fun _ x _ => ∃ v, x = .ok v ∧ (r = regs.phyidr1 → v = p.phyId1) ∧
        (r = regs.phyidr2 → v = p.phyId2) :=
  Fallible.reliable_request fun v _ h => ⟨v, rfl, (h.2 v rfl rfl).2⟩

/-- A write succeeds. -/
theorem write_succeeds (r : U8) (v : U16) :
    (mdioWrite addr r v : Mdio ε Unit).run.Ensures (p.device addr).reliable s
      fun _ x _ => ∃ u, x = .ok u ∧ True :=
  Fallible.reliable_request fun u _ _ => ⟨u, rfl, trivial⟩

/-- A read-modify-write of BMCR succeeds. -/
theorem updateBmcr_succeeds (g : U16 → U16) :
    (do
      let val ← mdioRead addr regs.bmcr
      mdioWrite addr regs.bmcr (g val) : Mdio ε Unit).run.Ensures (p.device addr).reliable s
      fun _ x _ => ∃ u, x = .ok u ∧ True :=
  Fallible.reliable_bind (read_succeeds regs.bmcr) fun _ _ _ _ => write_succeeds _ _

/-- **RESET clears within the bound.** -/
theorem pollReset_succeeds (n : Nat) (hn : 0 < n) (hbound : 500 ≤ s.bmcrReads + n) :
    (pollReset addr n : Mdio ε Bool).run.Ensures (p.device addr).reliable s
      fun _ r _ => ∃ b, r = .ok b ∧ b = true := by
  induction n generalizing s with
  | zero => omega
  | succ n ih =>
    refine Fallible.reliable_request_bind fun v s₁ h => ?_
    obtain ⟨hreads, hclear⟩ := (h.2 v rfl rfl).1 rfl
    by_cases hv : v &&& bmcr.reset = 0
    · rw [if_pos hv]
      exact ⟨true, rfl, rfl⟩
    · rw [if_neg hv]
      have hlt : s₁.bmcrReads < 500 := by
        by_contra hge
        exact hv (hclear (by omega))
      exact ih (by omega) (by omega)

theorem softReset_succeeds :
    (softReset addr 500 : Mdio ε Bool).run.Ensures (p.device addr).reliable s
      fun _ r _ => ∃ b, r = .ok b ∧ b = true := by
  refine Fallible.reliable_request_bind fun u s₁ h => ?_
  have hreads : s₁.bmcrReads = 0 := h.2 u rfl rfl rfl (by decide)
  exact pollReset_succeeds 500 (by omega) (by omega)

theorem readPhyId_succeeds :
    (readPhyId addr : Mdio ε U32).run.Ensures (p.device addr).reliable s
      fun _ r _ => ∃ id, r = .ok id ∧ id &&& phyOuiMask = phyOui := by
  refine Fallible.reliable_bind (read_succeeds regs.phyidr1) ?_
  rintro l₁ id1 s₁ ⟨hid1, -⟩
  refine Fallible.reliable_bind (read_succeeds regs.phyidr2) ?_
  rintro l₂ id2 s₂ ⟨-, hid2⟩
  rw [hid1 rfl, hid2 rfl]
  exact ⟨_, rfl, p.family⟩

/-- **`init` succeeds**, whatever state driver and chip are in. -/
theorem PhyLan87xx.init_succeeds (phy : PhyLan87xx) :
    ((init : DriverM ε PhyLan87xx (PhyError ε) Unit).on phy).Ensures
      (p.device phy.addr).reliable s fun _ r _ => r.1 = .ok () := by
  refine Method.reliable_lift_bind softReset_succeeds ?_
  rintro l₁ _ s₁ rfl
  refine Method.reliable_lift_bind readPhyId_succeeds ?_
  intro l₂ id s₂ hid
  rw [if_neg (not_not.mpr hid)]
  refine Method.reliable_lift_bind (read_succeeds mcsr.addr) fun l₃ mcsrVal s₃ _ => ?_
  refine Method.reliable_lift_bind (write_succeeds _ _) fun l₄ _ s₄ _ => ?_
  refine Method.reliable_lift_bind (write_succeeds _ _) fun l₅ _ s₅ _ => ?_
  refine Method.reliable_lift_bind (updateBmcr_succeeds anRestarted) fun l₆ _ s₆ _ => ?_
  exact rfl

end Chip

/-! ## Attempts -/

/-- What each attempt at a mode command keeps: the registers `init` has configured. -/
structure Prepared (addr : U8) (phy : PhyLan87xx) (c : Registers) : Prop where
  addr_eq : phy.addr = addr
  settled : ¬c.InReset
  anar : c regs.anar = 0x01E1
  edpd : c mcsr.addr &&& mcsr.edpdEn = 0

section Attempts

variable {p : Part87xx} {addr : U8} {phy : PhyLan87xx} {s : Resetting} {c c' : Registers}

theorem Operating.prepared {mode : LinkMode} (h : Operating mode c) (haddr : phy.addr = addr) :
    Prepared addr phy c := ⟨haddr, h.modeSet.settled, h.anar, h.edpd⟩

/-- Outside a reset BMCR commands some mode. -/
theorem Prepared.operating (h : Prepared addr phy c) : ∃ mode, Operating mode c := by
  by_cases hen : c regs.bmcr &&& bmcr.anEnable = 0
  · exact ⟨.forced _ _, ⟨h.settled, hen, rfl⟩, h.anar, h.edpd⟩
  · exact ⟨.auto, ⟨h.settled, hen⟩, h.anar, h.edpd⟩

/-- What the chip does on its own does not matter. -/
theorem Prepared.drift (h : Prepared addr phy c) (hd : c.Drift configuredRegs87xx c') :
    Prepared addr phy c' := by
  obtain ⟨mode, hoper⟩ := h.operating
  exact (hoper.drift hd).prepared h.addr_eq

/-- A write of BMCR that does not set RESET. -/
theorem Prepared.update (h : Prepared addr phy c) {v : U16} (hv : v &&& bmcr.reset = 0) :
    Prepared addr phy (Function.update c regs.bmcr v) where
  addr_eq := h.addr_eq
  settled := by
    unfold Registers.InReset
    rw [Function.update_self]
    exact not_not.mpr hv
  anar := (Function.update_of_ne (by decide) _ _).trans h.anar
  edpd := by
    rw [Function.update_of_ne (by decide)]
    exact h.edpd

/-- A read, whatever became of it on the bus. -/
theorem Prepared.read (h : Prepared addr phy s.regs) {r : U8} {x : Except ε U16}
    {s' : Resetting} (hd : p.device addr s (.read addr r) x s') :
    Prepared addr phy s'.regs ∧ ∀ v, x = .ok v → r = regs.bmcr → v &&& bmcr.reset = 0 := by
  have heffect : ∀ {v : U16}, s.regs.Effect configuredRegs87xx addr (.read addr r) v s'.regs →
      Prepared addr phy s'.regs ∧ (r = regs.bmcr → v &&& bmcr.reset = 0) := by
    rintro v ⟨m, ⟨rfl, hget⟩, hdrift⟩
    refine ⟨h.drift hdrift, ?_⟩
    rintro rfl
    rw [hget rfl (.inl rfl)]
    exact not_not.mp h.settled
  cases x with
  | ok v =>
    obtain ⟨hprep, hv⟩ := heffect hd.1
    refine ⟨hprep, fun v' hv' => ?_⟩
    obtain rfl := Except.ok.inj hv'
    exact hv
  | error e =>
    refine ⟨?_, nofun⟩
    rcases hd.1 with hdrift | ⟨-, v, he⟩
    · exact h.drift hdrift
    · exact (heffect he).1

/-- A write of BMCR, whatever became of it. -/
theorem Prepared.write (h : Prepared addr phy s.regs) {v : U16} (hv : v &&& bmcr.reset = 0)
    {x : Except ε Unit} {s' : Resetting}
    (hd : p.device addr s (.write addr regs.bmcr v) x s') : Prepared addr phy s'.regs := by
  have heffect : s.regs.Effect configuredRegs87xx addr (.write addr regs.bmcr v) () s'.regs →
      Prepared addr phy s'.regs := by
    rintro ⟨m, hm, hdrift⟩
    rw [Registers.Access, if_neg (not_not.mpr rfl)] at hm
    rw [hm h.settled fun _ => hv] at hdrift
    exact (h.update hv).drift hdrift
  cases x with
  | ok u => exact heffect hd.1
  | error e =>
    rcases hd.1 with hdrift | ⟨-, u, he⟩
    · exact h.drift hdrift
    · exact heffect he

/-- A read-modify-write of BMCR that does not set RESET. -/
theorem updateBmcr_prepared (h : Prepared addr phy s.regs) {g : U16 → U16} {clear set : U16}
    (hg : ∀ v, g v = Bits.rmw clear set v) (hset : set &&& bmcr.reset = 0) :
    (do
      let val ← mdioRead addr regs.bmcr
      mdioWrite addr regs.bmcr (g val) : Mdio ε Unit).run.Ensures (p.device addr) s
      fun _ _ s' => Prepared addr phy s'.regs := by
  refine Fallible.ensures_request_bind (fun v s₁ hr => ?_) fun e s₁ hr => (h.read hr).1
  obtain ⟨h₁, hv⟩ := h.read hr
  have hkept : g v &&& bmcr.reset = 0 := by
    rw [hg]
    exact Bits.rmw_and_eq_zero (hv v rfl rfl) hset
  exact Fallible.ensures_request fun r s₂ hw => h₁.write hkept hw

/-- **A mode command keeps what `init` has configured, and succeeds when nothing fails.** -/
theorem PhyCall.command_prepared {call : PhyCall} {mode : LinkMode} (hmode : call.mode = some mode)
    (hcall : ¬call.Resets) (h : Prepared addr phy s.regs) :
    (call.op phy : Program Txn.Reply ε _).Ensures (p.device addr) s
        (fun _ r s' => Prepared addr r.2 s'.regs) ∧
      (call.op phy : Program Txn.Reply ε _).Ensures (p.device addr).reliable s
        fun _ r _ => r.1.isOk = true := by
  obtain rfl := h.addr_eq
  rcases call with (_ | _ | _ | _ | _ | _) | (_ | _ | _ | _ | _ | ⟨speed, duplex⟩)
  case driver.init => exact absurd trivial hcall
  case driver.setLoopback.true =>
    refine ⟨(Program.ensures_map _ _ _).mpr ?_, (Program.ensures_map _ _ _).mpr ?_⟩
    · refine Method.ensures_lift_bind
        (P := fun _ _ s' => Prepared phy.addr phy s'.regs)
        (Fallible.ensures_request fun r s₁ hw => h.write (by decide) hw) ?_ fun _ _ _ h => h
      intro l u s₁ h₁
      exact ⟨h₁.addr_eq, h₁.settled, h₁.anar, h₁.edpd⟩
    · refine Method.reliable_lift_bind (write_succeeds _ _) ?_
      intro l u s₁ _
      exact rfl
  case helper.enableAutoNegotiation =>
    refine ⟨(Program.ensures_map _ _ _).mpr (updateBmcr_prepared h anRestarted_eq (by decide)),
      (Program.ensures_map _ _ _).mpr ((updateBmcr_succeeds anRestarted).mono ?_)⟩
    rintro l r s' ⟨u, rfl, -⟩
    exact rfl
  case helper.forceLink =>
    refine ⟨(Program.ensures_map _ _ _).mpr (updateBmcr_prepared h (forced_eq speed duplex)
        (by cases speed <;> cases duplex <;> decide)),
      (Program.ensures_map _ _ _).mpr ((updateBmcr_succeeds (forced speed duplex)).mono ?_)⟩
    rintro l r s' ⟨u, rfl, -⟩
    exact rfl
  all_goals cases hmode

theorem PhyCall.op_failStop (call : PhyCall) (phy : PhyLan87xx) :
    (call.op phy : Program Txn.Reply ε _).FailStop fun r => r.1.bus? := by
  cases call with
  | driver call => exact call.op_failStop phy
  | helper call => exact call.op_failStop phy.addr phy

/-- One attempt at `init`. -/
theorem lan87xxInit_attempt (haddr : phy.addr = addr) :
    ((PhyCall.driver .init).op phy : Program Txn.Reply ε _).Ensures (p.device addr) s
      fun l r s' => r.2.addr = addr ∧
        (r.1.isOk = true ∧ faults l = [] ∧ Prepared addr r.2 s'.regs ∨
          r.1.isOk = false ∧ (faults l).length = 1) := by
  subst haddr
  have haddr := (PhyCall.driver .init).op_addr phy (p.device phy.addr : Device _ ε _) s
  have hgood : ((PhyCall.driver .init).op phy : Program Txn.Reply ε _).Ensures
      (p.device phy.addr).reliable s fun _ r s' => r.1.isOk = true ∧
        Prepared phy.addr r.2 s'.regs := by
    have hok : ((PhyCall.driver .init).op phy : Program Txn.Reply ε _).Ensures
        (p.device phy.addr).reliable s fun _ r _ => r.1.isOk = true := by
      refine (Program.ensures_map _ _ _).mpr ((PhyLan87xx.init_succeeds phy).mono ?_)
      rintro l ⟨r, phy'⟩ s' rfl
      rfl
    refine (hok.and (ensures_regs (Q := fun r c' => r.2.addr = phy.addr ∧
      (r.1.isOk = true → Operating .auto c')) (operating_init phy s.regs))).mono ?_
    rintro l r s' ⟨hok, haddr, hoper⟩
    exact ⟨hok, (hoper hok).prepared haddr⟩
  have hfaults := Response.faults_of_failStop ((PhyCall.driver .init).op_failStop phy)
    (p.device phy.addr : Device _ ε _) s
  refine (haddr.and (hfaults.and (Program.ensures_of_reliable hgood))).mono ?_
  rintro l r s' ⟨haddr, ⟨hnone, -⟩ | ⟨hone, hfailed⟩, hgood⟩
  · obtain ⟨hok, hprep⟩ := hgood hnone
    exact ⟨haddr, .inl ⟨hok, hnone, hprep⟩⟩
  · exact ⟨haddr, .inr ⟨hfailed, hone⟩⟩

/-- One attempt at a mode command. -/
theorem command_attempt {call : PhyCall} {mode : LinkMode} (hmode : call.mode = some mode)
    (hcall : ¬call.Resets) (h : Prepared addr phy s.regs) :
    (call.op phy : Program Txn.Reply ε _).Ensures (p.device addr) s fun l r s' =>
      Prepared addr r.2 s'.regs ∧
        (r.1.isOk = true ∧ faults l = [] ∧ (r.2.addr = addr ∧ Operating mode s'.regs) ∨
          r.1.isOk = false ∧ (faults l).length = 1) := by
  obtain ⟨hprep, hok⟩ := PhyCall.command_prepared (ε := ε) (p := p) hmode hcall h
  obtain rfl := h.addr_eq
  obtain ⟨mode₀, hoper⟩ := h.operating
  have hgood : (call.op phy : Program Txn.Reply ε _).Ensures (p.device phy.addr).reliable s
      fun _ r s' => r.1.isOk = true ∧ Operating mode s'.regs := by
    refine (hok.and (ensures_regs (Q := fun r c' => r.2.addr = phy.addr ∧
      Operating ((commandedMode (call, r.1)).getD mode₀) c') (operating_step hcall hoper))).mono ?_
    rintro l r s' ⟨hok, -, hoper'⟩
    have hcmd : commandedMode (call, r.1) = some mode := by
      rw [commandedMode, if_pos hok]
      exact hmode
    rw [hcmd] at hoper'
    exact ⟨hok, hoper'⟩
  have hfaults := Response.faults_of_failStop (call.op_failStop phy)
    (p.device phy.addr : Device _ ε _) s
  refine (hprep.and (hfaults.and (Program.ensures_of_reliable hgood))).mono ?_
  rintro l r s' ⟨hprep, ⟨hnone, -⟩ | ⟨hone, hfailed⟩, hgood⟩
  · obtain ⟨hok, hoper'⟩ := hgood hnone
    exact ⟨hprep, .inl ⟨hok, hnone, hprep.addr_eq, hoper'⟩⟩
  · exact ⟨hprep, .inr ⟨hfailed, hone⟩⟩

end Attempts

/-! ## Bringing it up -/

/-- **Bring up a link**: `init` and then a command of the link mode, each tried `n` times
at most.  It returns whether both succeeded. -/
def PhyCall.bringUp (command : PhyCall) (n : Nat) : Client PhyCall (Response ε) Bool :=
  .retryBoth (.driver .init) command Response.isOk n

/-- **A bring-up with `n` attempts outlasts fewer than `n` faults**, whatever state driver
and chip were in, and whether or not the failed transactions took effect; and whenever it
succeeds, the chip is configured and in the commanded mode, and the next fault-free
`pollLink` reports what that mode calls for. -/
theorem linkUp_outlasts_faults {σ : Type} (p : Part87xx) (bus : MdioBus ε σ)
    (view : σ → Resetting) (phy : PhyLan87xx)
    (hbus : bus.handler.Conforms (p.device phy.addr) view) (command : PhyCall)
    (mode : LinkMode) (hmode : command.mode = some mode) (hcommand : ¬command.Resets) (n : Nat)
    (s : σ) :
    let o := ((command.bringUp n).calling PhyCall.op phy).run bus.handler s
    let poll := (((PhyCall.driver .pollLink).op o.value.2).run bus.handler o.state).map
      fun s => (view s).regs
    ((faults o.trace).length < n → o.value.1 = true) ∧
      (o.value.1 = true → o.value.2.addr = phy.addr ∧ Operating mode (view o.state).regs ∧
        (poll.FaultFree → ∃ link, poll.value.1 = .phy (.ok (.link link)) ∧
          mode.Reports phy.addr poll.trace link)) := by
  intro o poll
  have hup : ((command.bringUp n).calling PhyCall.op phy : Program Txn.Reply ε _).Ensures
      (p.device phy.addr) (view s) fun l r s' =>
        r.1 = true ∧ (r.2.addr = phy.addr ∧ Operating mode s'.regs) ∨
          r.1 = false ∧ n ≤ (faults l).length :=
    Client.retryBoth_ensures (I := fun o _ => o.addr = phy.addr)
      (J := fun o (t : Resetting) => Prepared phy.addr o t.regs)
      (G := fun o (t : Resetting) => o.addr = phy.addr ∧ Operating mode t.regs)
      (fun _ _ h => lan87xxInit_attempt h) (fun _ _ h => command_attempt hmode hcommand h) n rfl
  have hrun := hup.run hbus
  simp only [Outcome.map_trace, faults_map] at hrun
  rcases hrun with ⟨htrue, haddr, hoper⟩ | ⟨hfalse, hn⟩
  · refine ⟨fun _ => htrue, fun _ => ⟨haddr, hoper, fun hff => ?_⟩⟩
    have hpoll : ((PhyCall.driver .pollLink).op o.value.2 : Program Txn.Reply ε _).Ensures
        (p.device phy.addr).reliable (view o.state) fun l r _ => ∃ link,
          r.1 = .phy (.ok (.link link)) ∧
            mode.Reports phy.addr (l.map (Exchange.map Resetting.regs)) link := by
      refine (hoper.modeSet.poll_reports haddr).pull fun c t r c' hr => ?_
      obtain ⟨hd, hok⟩ := reliable_regs hr
      exact ⟨device_anti _ hd, hok⟩
    have hreport := hpoll.run_faultFree hbus ((Outcome.map_faultFree _ _).mp hff)
    simp only [Outcome.map_trace, List.map_map] at hreport
    exact hreport
  · exact ⟨fun hlt => absurd hlt (Nat.not_lt.mpr hn), fun h => absurd (hfalse.symm.trans h) nofun⟩

/-! ## The slowest chip

It is in reset for the 499 reads of BMCR it has. -/

/-- A LAN8720A. -/
def slowPart87xx : Part87xx where
  phyId1 := 0x0007
  phyId2 := 0xC0F1
  family := by decide

namespace Resetting

/-- The registers, with the RESET bit the counter calls for. -/
def settled (s : Resetting) : Resetting where
  regs := Function.update s.regs regs.bmcr
    (if s.bmcrReads < 499 then bmcr.reset else s.regs regs.bmcr &&& ~~~bmcr.reset)
  bmcrReads := s.bmcrReads

/-- What the slowest LAN8720A reads. -/
def slowRead (s : Resetting) (r : U8) : U16 :=
  if r = regs.phyidr1 then 0x0007
  else if r = regs.phyidr2 then 0xC0F1
  else s.settled.regs r

/-- A write that reaches it. -/
def slowWrite (s : Resetting) (r : U8) (v : U16) : Resetting :=
  if r = regs.bmcr ∧ v &&& bmcr.reset ≠ 0 then ⟨SimulatedLan87xx.lan8720a, 0⟩
  else ⟨Function.update s.regs r v, s.bmcrReads⟩

/-- The bus in front of it; it never fails. -/
def slowBus (addr : U8) : MdioBus String Resetting where
  read a r s := (.ok (if a = addr then s.slowRead r else 0xFFFF),
    if a = addr ∧ r = regs.bmcr then ⟨s.regs, s.bmcrReads + 1⟩ else s)
  write a r v s := (.ok (), if a = addr then s.slowWrite r v else s)

variable {addr r : U8} {v : U16} {s s' : Resetting}

theorem settled_bmcr (s : Resetting) : s.settled.regs regs.bmcr =
    if s.bmcrReads < 499 then bmcr.reset else s.regs regs.bmcr &&& ~~~bmcr.reset := by
  unfold settled
  dsimp only
  rw [Function.update_self]

/-- It is in reset as long as the counter says. -/
theorem settled_inReset (s : Resetting) : s.settled.regs.InReset ↔ s.bmcrReads < 499 := by
  unfold Registers.InReset
  rw [settled_bmcr]
  by_cases hlt : s.bmcrReads < 499
  · rw [if_pos hlt]
    exact iff_of_true (by decide) hlt
  · rw [if_neg hlt]
    exact iff_of_false (not_not.mpr (Bits.andNot_and_self _ _)) hlt

/-- A read of BMCR is counted, and moves nothing once the chip is out of reset. -/
theorem settled_counted (hs : ¬s.settled.regs.InReset) :
    (settled ⟨s.regs, s.bmcrReads + 1⟩).regs = s.settled.regs := by
  rw [settled_inReset] at hs
  unfold settled
  dsimp only
  rw [if_neg hs, if_neg (by omega)]

/-- A write that is not of RESET, once it is out of reset. -/
theorem settled_update (hs : ¬s.settled.regs.InReset) (hv : r = regs.bmcr → v &&& bmcr.reset = 0) :
    (settled ⟨Function.update s.regs r v, s.bmcrReads⟩).regs =
      Function.update s.settled.regs r v := by
  rw [settled_inReset] at hs
  unfold settled
  dsimp only
  rw [if_neg hs, if_neg hs]
  by_cases hr : r = regs.bmcr
  · subst hr
    rw [Function.update_self, Function.update_idem, Function.update_idem,
      Bits.andNot_eq_self _ (hv rfl)]
  · have hne : regs.bmcr ≠ r := fun h => hr h.symm
    rw [Function.update_of_ne hne, Function.update_comm hr]

theorem slowRead_conforms {a : U8} : slowPart87xx.device addr s.settled (.read a r)
    (.ok (if a = addr then s.slowRead r else 0xFFFF) : Except String U16)
    (settled (if a = addr ∧ r = regs.bmcr then ⟨s.regs, s.bmcrReads + 1⟩ else s)) := by
  have hdrift : s.settled.regs.Drift configuredRegs87xx
      (settled (if a = addr ∧ r = regs.bmcr then ⟨s.regs, s.bmcrReads + 1⟩ else s)).regs := by
    split
    · intro hs
      rw [settled_counted hs]
      exact Registers.Drift.refl _ _ hs
    · exact Registers.Drift.refl _ _
  refine ⟨⟨s.settled.regs, ⟨rfl, ?_⟩, hdrift⟩, ?_⟩
  · -- the identity is neither BMCR nor a register that is configured
    rintro rfl hplain
    have hne : r ≠ regs.phyidr1 ∧ r ≠ regs.phyidr2 := by
      constructor
      · rintro rfl
        simp [configuredRegs87xx] at hplain
        revert hplain
        decide
      · rintro rfl
        simp [configuredRegs87xx] at hplain
        revert hplain
        decide
    rw [if_pos rfl, slowRead, if_neg hne.1, if_neg hne.2]
  · rintro v hv rfl
    obtain rfl := Except.ok.inj hv
    rw [if_pos rfl]
    refine ⟨?_, fun hr => ?_, fun hr => ?_⟩
    · rintro rfl
      rw [if_pos ⟨rfl, rfl⟩]
      refine ⟨rfl, fun hge => ?_⟩
      have hlast : ¬s.bmcrReads < 499 := Nat.not_lt.mpr (Nat.le_of_succ_le_succ hge)
      have hout : s.slowRead regs.bmcr = s.settled.regs regs.bmcr := rfl
      rw [hout, settled_bmcr, if_neg hlast]
      exact Bits.andNot_and_self _ _
    · subst hr
      rfl
    · subst hr
      rfl

theorem slowWrite_conforms {a : U8} : slowPart87xx.device addr s.settled (.write a r v)
    (.ok () : Except String Unit) (settled (if a = addr then s.slowWrite r v else s)) := by
  by_cases ha : a = addr
  · subst ha
    rw [if_pos rfl, slowWrite]
    by_cases hreset : r = regs.bmcr ∧ v &&& bmcr.reset ≠ 0
    · rw [if_pos hreset]
      refine ⟨⟨_, ?_, Registers.Drift.refl _ _⟩, fun _ _ _ _ _ => rfl⟩
      rw [Registers.Access, if_neg (not_not.mpr rfl)]
      exact fun _ hv => absurd (hv hreset.1) hreset.2
    · rw [if_neg hreset]
      refine ⟨⟨_, ?_, Registers.Drift.refl _ _⟩, fun _ _ _ hr hv => absurd ⟨hr, hv⟩ hreset⟩
      rw [Registers.Access, if_neg (not_not.mpr rfl)]
      exact fun hs hv => settled_update hs hv
  · rw [if_neg ha]
    refine ⟨⟨s.settled.regs, ?_, Registers.Drift.refl _ _⟩, fun _ _ h => absurd h ha⟩
    rw [Registers.Access, if_pos ha]

theorem slowBus_conforms (addr : U8) :
    (slowBus addr).handler.Conforms (slowPart87xx.device addr) settled := by
  intro t s
  cases t with
  | read a r => exact slowRead_conforms
  | write a r v => exact slowWrite_conforms

theorem slowBus_reliable (addr : U8) (t : Txn) (s : Resetting) :
    ∃ v, ((slowBus addr).handler t s).1 = .ok v := by
  cases t with
  | read a r => exact ⟨_, rfl⟩
  | write a r v => exact ⟨_, rfl⟩

end Resetting

/-- The slowest chip, on a bus that loses a poll of the first reset and the write of the
first forced link. -/
theorem linkUp_outlasts_two :
    let script := List.replicate 400 none ++ [some "timeout"] ++ List.replicate 509 none ++
      [some "nack"]
    let o := (((PhyCall.helper (.forceLink ._10M .full)).bringUp 3).calling PhyCall.op
      (PhyLan87xx.new 1)).run (Resetting.slowBus 1).lossy.handler
        (⟨SimulatedLan87xx.lan8720a, 0⟩, script)
    Operating (.forced ._10M .full) o.state.1.settled.regs := by
  intro script
  have hscript : (script.filterMap id).length < 3 := by simp [script, -List.reduceReplicate]
  have hlost : ∀ (q : Txn) s (e : String), slowPart87xx.device 1 (Resetting.settled s) q (.error e)
      (Resetting.settled s) := fun q s e => ⟨.inl (Registers.Drift.refl _ _), nofun⟩
  have hbus : (Resetting.slowBus 1).lossy.handler.Conforms (slowPart87xx.device 1)
      (Resetting.settled ∘ Prod.fst) := by
    rw [MdioBus.lossy_handler]
    exact (Resetting.slowBus_conforms 1).lossy hlost
  clear_value script
  obtain ⟨hup, hoper⟩ := linkUp_outlasts_faults slowPart87xx (Resetting.slowBus 1).lossy
    (Resetting.settled ∘ Prod.fst) (PhyLan87xx.new 1) hbus (.helper (.forceLink ._10M .full))
    (.forced ._10M .full) rfl id 3 (⟨SimulatedLan87xx.lan8720a, 0⟩, script)
  refine (hoper (hup ?_)).2.1
  rw [MdioBus.lossy_handler]
  exact (Program.run_lossy_faults (Resetting.slowBus_reliable 1) _ _ script).trans_lt hscript

end EthPhy
