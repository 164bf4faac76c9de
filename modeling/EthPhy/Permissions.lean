import EthPhy.Clients
import EthPhy.Identification
import EthPhy.Lan867xPlan
import EthPhy.Noninterference

/-!
# What the drivers may access

A MAC with a driver, and with the helper functions on the driver's address, accesses its
PHY by few rules.  `MayAccess` lists them: which register may be read, and which written
with what, after which accesses.  A write needs the access it stands on to be the very last
one; so a read-modify-write writes back what has just been read, PLCA is enabled right after
the whole of a valid configuration, and multidrop mode is only turned on at the end of an
`init` that has found the chip in order.

The rules hold on every bus, of every client, and wherever the bus faults
(`accesses_permitted`).  They look back no further than one call does, so each call is
checked on its own.
-/

namespace EthPhy
open Interaction Ieee802_3

variable {ε σ α : Type}

/-! ## The rules -/

/-- **The rules of the helper functions.**  A negotiation sets AN_ENABLE and AN_RESTART in
the BMCR just read and clears ISOLATE; a forced link clears the three, and writes SPEED_100
and DUPLEX_FULL. -/
inductive Ieee802_3.MayAccess : Guard AccessReq.Reply ε
  | bmcr (log : List (Access ε)) : MayAccess log (.read (.clause22 regs.bmcr))
  | bmsr (log : List (Access ε)) : MayAccess log (.read (.clause22 regs.bmsr))
  | phyidr1 (log : List (Access ε)) : MayAccess log (.read (.clause22 regs.phyidr1))
  | phyidr2 {log : List (Access ε)} {id1 : U16}
    (h : [⟨.read (.clause22 regs.phyidr1), .ok id1⟩] <:+ log) :
    MayAccess log (.read (.clause22 regs.phyidr2))
  | reset (log : List (Access ε)) : MayAccess log (.write (.clause22 regs.bmcr) 0x8000)
  | negotiate {log : List (Access ε)} {v : U16}
    (h : [⟨.read (.clause22 regs.bmcr), .ok v⟩] <:+ log) :
    MayAccess log (.write (.clause22 regs.bmcr) ((v ||| 0x1200) &&& ~~~0x0400))
  | force {log : List (Access ε)} {v : U16}
    (h : [⟨.read (.clause22 regs.bmcr), .ok v⟩] <:+ log) (speed : Speed) (duplex : Duplex) :
    MayAccess log (.write (.clause22 regs.bmcr) ((v &&& ~~~0x3700) |||
      (if speed = ._100M then 0x2000 else 0) ||| (if duplex = .full then 0x0100 else 0)))

/-- **The rules of the LAN867x**, with the helper functions.  EN is bit 15 of
`PLCA_CTRL0`. -/
inductive Lan867x.MayAccess : Guard AccessReq.Reply ε
  | helper {log : List (Access ε)} {q : AccessReq} (h : Ieee802_3.MayAccess log q) :
    MayAccess log q
  | init {log stage : List (Access ε)} {q : AccessReq} (h : InitStep stage q)
    (hstage : stage <:+ log) : MayAccess log q
  | plcaSts (log : List (Access ε)) : MayAccess log (.read (.mmd plcaSts))
  | plcaCtrl0 (log : List (Access ε)) : MayAccess log (.read (.mmd plcaCtrl0))
  | plcaCtrl1 (log : List (Access ε)) : MayAccess log (.read (.mmd plcaCtrl1))
  | identity (log : List (Access ε)) {config : PlcaConfig} (hvalid : config.Valid) :
    MayAccess log (.write (.mmd plcaCtrl1)
      ((config.nodeCount.setWidth 16 <<< 8) ||| config.nodeId.setWidth 16))
  | burst {log : List (Access ε)} {config : PlcaConfig} (hvalid : config.Valid)
    (h : [⟨.write (.mmd plcaCtrl1)
      ((config.nodeCount.setWidth 16 <<< 8) ||| config.nodeId.setWidth 16), .ok ()⟩] <:+ log) :
    MayAccess log (.write (.mmd plcaBurst) ((config.burstCount.setWidth 16 <<< 8) |||
      (if config.burstTimer = 0 then 0x80 else config.burstTimer.setWidth 16)))
  | enable {log : List (Access ε)} {config : PlcaConfig} (hvalid : config.Valid) {v : U16}
    (h : [⟨.write (.mmd plcaCtrl1)
      ((config.nodeCount.setWidth 16 <<< 8) ||| config.nodeId.setWidth 16), .ok ()⟩,
      ⟨.write (.mmd plcaBurst) ((config.burstCount.setWidth 16 <<< 8) |||
        (if config.burstTimer = 0 then 0x80 else config.burstTimer.setWidth 16)), .ok ()⟩,
      ⟨.read (.mmd plcaCtrl0), .ok v⟩] <:+ log) :
    MayAccess log (.write (.mmd plcaCtrl0) (v ||| 0x8000))
  | disable {log : List (Access ε)} {v : U16} (h : [⟨.read (.mmd plcaCtrl0), .ok v⟩] <:+ log) :
    MayAccess log (.write (.mmd plcaCtrl0) (v &&& ~~~0x8000))

/-- **The rules of the LAN87xx**, with the helper functions.  LOOPBACK, bit 14 of BMCR, is
turned on with SPEED_100 and DUPLEX_FULL, in place of all other bits. -/
inductive Lan87xx.MayAccess : Guard AccessReq.Reply ε
  | helper {log : List (Access ε)} {q : AccessReq} (h : Ieee802_3.MayAccess log q) :
    MayAccess log q
  | init {log stage : List (Access ε)} {q : AccessReq} (h : InitStep stage q)
    (hstage : stage <:+ log) : MayAccess log q
  | pscsr {log : List (Access ε)} {v u : U16} (hup : v &&& bmsr.linkStatus ≠ 0)
    (hauto : u &&& bmcr.anEnable ≠ 0) (h : [⟨.read (.clause22 regs.bmsr), .ok v⟩,
      ⟨.read (.clause22 regs.bmcr), .ok u⟩] <:+ log) :
    MayAccess log (.read (.clause22 pscsr.addr))
  | loopbackOn (log : List (Access ε)) :
    MayAccess log (.write (.clause22 regs.bmcr) 0x6100)
  | loopbackOff {log : List (Access ε)} {v : U16}
    (h : [⟨.read (.clause22 regs.bmcr), .ok v⟩] <:+ log) :
    MayAccess log (.write (.clause22 regs.bmcr) (v &&& ~~~0x4000))

/-- The rules of a driver. -/
def Driver.MayAccess : Driver → Guard AccessReq.Reply ε
  | .lan867x => Lan867x.MayAccess
  | .lan87xx => Lan87xx.MayAccess

/-- **What a driver at `addr` has done is permitted**: it has made its accesses by the
rules, and has done nothing else, except to move the latch of a LAN867x. -/
structure Driver.Permitted (k : Driver) (addr : U8) (made : List (TxnEvent ε)) : Prop where
  access : ∀ (w : Latch) log a log', accesses addr w made = log ++ a :: log' →
    k.MayAccess log a.req
  other : ∀ (w : Latch) l e l', made = l ++ e :: l' →
    (w.afterAll addr l).request? addr e.req = none → k = .lan867x ∧ MovesLatch addr e.req

/-! ### The rules look back no further than a call -/

section Local

variable {log : List (Access ε)} {q : AccessReq}

theorem suffix_later {l : List (Access ε)} (h : l <:+ log) (past : List (Access ε)) :
    l <:+ past ++ log := h.trans (List.suffix_append past log)

theorem Ieee802_3.MayAccess.later (h : Ieee802_3.MayAccess log q) (past : List (Access ε)) :
    Ieee802_3.MayAccess (past ++ log) q := by
  cases h with
  | bmcr => exact .bmcr _
  | bmsr => exact .bmsr _
  | phyidr1 => exact .phyidr1 _
  | phyidr2 h => exact .phyidr2 (suffix_later h past)
  | reset => exact .reset _
  | negotiate h => exact .negotiate (suffix_later h past)
  | force h speed duplex => exact .force (suffix_later h past) speed duplex

theorem Lan867x.mayAccess_local : (Lan867x.MayAccess : Guard AccessReq.Reply ε).Local := by
  intro past log q h
  cases h with
  | helper h => exact .helper (h.later past)
  | init h hstage => exact .init h (suffix_later hstage past)
  | plcaSts => exact .plcaSts _
  | plcaCtrl0 => exact .plcaCtrl0 _
  | plcaCtrl1 => exact .plcaCtrl1 _
  | identity _ hvalid => exact .identity _ hvalid
  | burst hvalid h => exact .burst hvalid (suffix_later h past)
  | enable hvalid h => exact .enable hvalid (suffix_later h past)
  | disable h => exact .disable (suffix_later h past)

theorem Lan87xx.mayAccess_local : (Lan87xx.MayAccess : Guard AccessReq.Reply ε).Local := by
  intro past log q h
  cases h with
  | helper h => exact .helper (h.later past)
  | init h hstage => exact .init h (suffix_later hstage past)
  | pscsr hup hauto h => exact .pscsr hup hauto (suffix_later h past)
  | loopbackOn => exact .loopbackOn _
  | loopbackOff h => exact .loopbackOff (suffix_later h past)

theorem Driver.mayAccess_local (k : Driver) : (k.MayAccess : Guard AccessReq.Reply ε).Local := by
  cases k with
  | lan867x => exact Lan867x.mayAccess_local
  | lan87xx => exact Lan87xx.mayAccess_local

theorem Latch.afterAll_append {addr : U8} (w : Latch) (l past : List (TxnEvent ε)) :
    w.afterAll addr (l ++ past) = (w.afterAll addr l).afterAll addr past :=
  List.foldl_append

/-- A local rule about accesses is a local rule about transactions. -/
theorem onAccesses_local {A : Guard AccessReq.Reply ε} (hA : A.Local) (addr : U8) :
    (onAccesses addr A).Local := by
  intro l past t h w
  have hw := h (w.afterAll addr l)
  rw [Latch.afterAll_append, accesses_append]
  split at hw
  · exact hA _ _ _ hw
  · obtain ⟨hmoves, q, x, hx, hq⟩ := hw
    exact ⟨hmoves, q, x, hx, hA _ _ _ hq⟩

/-- A rule that permits more permits as well what moves the latch. -/
theorem onAccesses_of_imp {A B : Guard AccessReq.Reply ε} {addr : U8}
    (h : ∀ log q, A log q → B log q) {past : List (TxnEvent ε)} {t : Txn}
    (ht : onAccesses addr A past t) : onAccesses addr B past t := by
  intro w
  have hw := ht w
  split at hw
  · exact h _ _ hw
  · obtain ⟨hmoves, q, x, hx, hq⟩ := hw
    exact ⟨hmoves, q, x, hx, h _ _ hq⟩

/-- A LAN87xx has no registers behind an indirection. -/
theorem Lan87xx.MayAccess.not_mmd {x : MmdAddr} (h : Lan87xx.MayAccess log q) :
    q.register ≠ .mmd x := by
  cases h with
  | helper h => cases h <;> exact nofun
  | init h => cases h <;> exact nofun
  | pscsr => exact nofun
  | loopbackOn => exact nofun
  | loopbackOff => exact nofun

end Local

/-! ## Every call keeps to the rules -/

section Calls

variable {S : Type} {addr : U8} {A : Guard AccessReq.Reply ε} {G : Guard Txn.Reply ε} {s : S}
  {past : List (TxnEvent ε)} {value : α → Value}

/-- A call starts with an empty log. -/
theorem logs_nil : Logs addr ([] : List (TxnEvent ε)) [] := fun _ => rfl

theorem Operation.phy_heeds {m : DriverM ε S (PhyError ε) α} (hm : m.Heeds G past s) :
    (Operation.phy m value s).Heeds G (fun _ _ => True) past :=
  Program.Heeds.bind hm fun _ _ _ => trivial

theorem Operation.plca_heeds {m : DriverM ε S (PlcaError ε) α} (hm : m.Heeds G past s) :
    (Operation.plca m value s).Heeds G (fun _ _ => True) past :=
  Program.Heeds.bind hm fun _ _ _ => trivial

theorem Operation.raw_heeds {x : Mdio ε α} {Φ : List (TxnEvent ε) → α → Prop}
    (hx : x.Heeds G past Φ) : (Operation.raw x value s).Heeds G (fun _ _ => True) past :=
  Program.Heeds.bind hx fun _ _ _ => trivial

/-- A helper function that is all a method does. -/
theorem heeds_lift_last {E : Type} {x : Mdio ε α} {wrap : ε → E}
    {Φ : List (TxnEvent ε) → α → Prop} (hx : x.Heeds G past Φ) :
    (Method.lift wrap x : DriverM ε S E α).Heeds G past s :=
  (Method.heeds_lift hx).mono fun _ _ _ => trivial

/-- The bits a forced link clears and sets. -/
theorem forced_bits (speed : Speed) (duplex : Duplex) (v : U16) :
    forced speed duplex v = (v &&& ~~~0x3700) ||| (if speed = ._100M then 0x2000 else 0) |||
      (if duplex = .full then 0x0100 else 0) := by
  cases speed <;> cases duplex <;> rfl

section Helpers

variable (hA : ∀ log q, Ieee802_3.MayAccess log q → A log q)
include hA

theorem softReset_permitted (n : U32) :
    (softReset addr n : Mdio ε Bool).Heeds (onAccesses addr A) [] fun _ _ => True := by
  refine (mdioWrite_logs (by decide) (by decide) logs_nil (hA _ _ (.reset _))).bind
    fun l _ hlog => ?_
  rw [pollReset_eq_poll]
  refine (Fallible.heeds_poll (I := fun _ l => ∃ log, Logs addr l log) n.toNat ?_
    ⟨_, hlog⟩).mono fun _ _ _ => trivial
  rintro vs l - - ⟨log, hlog⟩
  exact (mdioRead_logs (by decide) (by decide) hlog (hA _ _ (.bmcr _))).mono
    fun l' v hlog' => ⟨_, hlog'⟩

theorem readPhyId_permitted :
    (readPhyId addr : Mdio ε U32).Heeds (onAccesses addr A) [] fun _ _ => True := by
  refine (mdioRead_logs (by decide) (by decide) logs_nil (hA _ _ (.phyidr1 _))).bind
    fun l id1 hlog => ?_
  have hid2 : A ([] ++ [⟨.read (.clause22 regs.phyidr1), .ok id1⟩])
      (.read (.clause22 regs.phyidr2)) := hA _ _ (.phyidr2 (List.suffix_append _ _))
  exact (mdioRead_logs (by decide) (by decide) hlog hid2).bind
    fun _ _ _ => Fallible.heeds_pure trivial

theorem isLinkUp_permitted :
    (isLinkUp addr : Mdio ε Bool).Heeds (onAccesses addr A) [] fun l up => ∃ v,
      Logs addr l [⟨.read (.clause22 regs.bmsr), .ok v⟩] ∧ up = (v &&& bmsr.linkStatus != 0) :=
  (mdioRead_logs (by decide) (by decide) logs_nil (hA _ _ (.bmsr _))).bind
    fun _ v hlog => Fallible.heeds_pure ⟨v, hlog, rfl⟩

theorem readCapabilities_permitted :
    (readCapabilities addr : Mdio ε PhyCapabilities).Heeds (onAccesses addr A) []
      fun _ _ => True :=
  (mdioRead_logs (by decide) (by decide) logs_nil (hA _ _ (.bmsr _))).bind
    fun _ _ _ => Fallible.heeds_pure trivial

theorem forceLink_permitted (speed : Speed) (duplex : Duplex) :
    (forceLink addr speed duplex : Mdio ε Unit).Heeds (onAccesses addr A) []
      fun _ _ => True := by
  refine (mdioRead_logs (by decide) (by decide) logs_nil (hA _ _ (.bmcr _))).bind
    fun l v hlog => ?_
  have hforce : A ([] ++ [⟨.read (.clause22 regs.bmcr), .ok v⟩])
      (.write (.clause22 regs.bmcr) (forced speed duplex v)) := by
    rw [forced_bits]
    exact hA _ _ (.force (List.suffix_append _ _) speed duplex)
  exact (mdioWrite_logs (by decide) (by decide) hlog hforce).mono fun _ _ _ => trivial

/-- **The helper functions keep to their rules.** -/
theorem HelperCall.op_permitted (call : HelperCall) (s : S) :
    (call.op addr s : Program Txn.Reply ε _).Heeds (onAccesses addr A) (fun _ _ => True) [] := by
  cases call with
  | softReset n => exact Operation.raw_heeds (softReset_permitted hA n)
  | isLinkUp => exact Operation.raw_heeds (isLinkUp_permitted hA)
  | enableAutoNegotiation =>
    refine Operation.raw_heeds (Lan87xx.negotiate_logs logs_nil (hA _ _ (.bmcr _)) fun v => ?_)
    exact hA _ _ (.negotiate (List.suffix_append _ _))
  | readPhyId => exact Operation.raw_heeds (readPhyId_permitted hA)
  | readCapabilities => exact Operation.raw_heeds (readCapabilities_permitted hA)
  | forceLink speed duplex => exact Operation.raw_heeds (forceLink_permitted hA speed duplex)

end Helpers

/-! ### The LAN867x -/

theorem PhyLan867x.init_permitted (self : PhyLan867x) :
    (init : DriverM ε PhyLan867x (PhyError ε) Unit).Heeds
      (onAccesses self.addr Lan867x.MayAccess) [] self :=
  ((init_stages self).mono fun _ _ _ => trivial).of_imp fun _ _ =>
    onAccesses_of_imp fun _ _ h => .init h (List.suffix_refl _)

theorem PhyLan867x.pollLink_permitted (self : PhyLan867x) :
    (pollLink : DriverM ε PhyLan867x (PhyError ε) LinkState).Heeds
      (onAccesses self.addr Lan867x.MayAccess) [] self := by
  obtain ⟨addr, _ | chip, _ | id⟩ := self
  · exact Method.heeds_done rfl
  · exact Method.heeds_done rfl
  · exact Method.heeds_done rfl
  · refine Method.heeds_lift_bind (mmdRead_logs logs_nil (.plcaSts _)) fun l sts _ => ?_
    split
    · exact Method.heeds_done rfl
    · exact Method.heeds_done rfl

theorem PhyLan867x.configurePlca_permitted (config : PlcaConfig) (self : PhyLan867x) :
    (configurePlca config : DriverM ε PhyLan867x (PlcaError ε) Unit).Heeds
      (onAccesses self.addr Lan867x.MayAccess) [] self := by
  by_cases hvalid : config.Valid
  · obtain ⟨hid, hcount⟩ := id hvalid
    have hrange : ¬(config.nodeCount ≠ 0 ∧ config.nodeId ≥ config.nodeCount) :=
      fun h => absurd (hcount.resolve_left h.1) (BitVec.not_lt.mpr h.2)
    unfold configurePlca
    rw [if_neg hid, if_neg hrange]
    refine Method.heeds_lift_bind (mmdWrite_logs logs_nil (.identity _ hvalid))
      fun l₁ _ hlog₁ => ?_
    refine Method.heeds_lift_bind
      (mmdWrite_logs hlog₁ (.burst hvalid (List.suffix_append _ _))) fun l₂ _ hlog₂ => ?_
    refine Method.heeds_lift_bind (mmdRmw_logs hlog₂ (.plcaCtrl0 _) fun v => ?_)
      fun l₃ _ _ => Method.heeds_done rfl
    rw [Bits.and_not_zero]
    exact .enable hvalid (List.suffix_refl _)
  · exact Method.heeds_done (configurePlca_invalid self hvalid)

theorem PhyLan867x.disablePlca_permitted (self : PhyLan867x) :
    (disablePlca : DriverM ε PhyLan867x (PlcaError ε) Unit).Heeds
      (onAccesses self.addr Lan867x.MayAccess) [] self := by
  refine Method.heeds_lift_bind (mmdRmw_logs logs_nil (.plcaCtrl0 _) fun v => ?_)
    fun l _ _ => Method.heeds_done rfl
  rw [show (v &&& ~~~Lan867x.plcaCtrl0En) ||| 0 = v &&& ~~~Lan867x.plcaCtrl0En from
    BitVec.or_zero]
  exact .disable (List.suffix_append _ _)

theorem PhyLan867x.plcaStatus_permitted (self : PhyLan867x) :
    (plcaStatus : DriverM ε PhyLan867x (PlcaError ε) PlcaStatus).Heeds
      (onAccesses self.addr Lan867x.MayAccess) [] self := by
  refine Method.heeds_lift_bind (mmdRead_logs logs_nil (.plcaCtrl0 _)) fun l₁ _ hlog₁ => ?_
  refine Method.heeds_lift_bind (mmdRead_logs hlog₁ (.plcaCtrl1 _)) fun l₂ _ hlog₂ => ?_
  exact Method.heeds_lift_bind (mmdRead_logs hlog₂ (.plcaSts _)) fun l₃ _ _ =>
    Method.heeds_done rfl

theorem Lan867xCall.op_permitted (call : Lan867xCall) (self : PhyLan867x) :
    (call.op self : Program Txn.Reply ε _).Heeds (onAccesses self.addr Lan867x.MayAccess)
      (fun _ _ => True) [] := by
  cases call with
  | init => exact Operation.phy_heeds (PhyLan867x.init_permitted self)
  | pollLink => exact Operation.phy_heeds (PhyLan867x.pollLink_permitted self)
  | capabilities =>
    exact Operation.phy_heeds (heeds_lift_last (readCapabilities_permitted fun _ _ => .helper))
  | phyId => exact Operation.phy_heeds (heeds_lift_last (readPhyId_permitted fun _ _ => .helper))
  | configurePlca config =>
    exact Operation.plca_heeds (PhyLan867x.configurePlca_permitted config self)
  | disablePlca => exact Operation.plca_heeds (PhyLan867x.disablePlca_permitted self)
  | plcaStatus => exact Operation.plca_heeds (PhyLan867x.plcaStatus_permitted self)

/-! ### The LAN87xx -/

open Lan87xx

theorem PhyLan87xx.init_permitted (self : PhyLan87xx) :
    (init : DriverM ε PhyLan87xx (PhyError ε) Unit).Heeds
      (onAccesses self.addr Lan87xx.MayAccess) [] self :=
  ((Lan87xx.init_done self).mono fun _ _ _ => trivial).of_imp fun _ _ =>
    onAccesses_of_imp fun _ _ h => .init h (List.suffix_refl _)

theorem PhyLan87xx.pollLink_permitted (self : PhyLan87xx) :
    (pollLink : DriverM ε PhyLan87xx (PhyError ε) LinkState).Heeds
      (onAccesses self.addr Lan87xx.MayAccess) [] self := by
  refine Method.heeds_lift_bind (isLinkUp_permitted fun _ _ => .helper) ?_
  rintro l₁ up ⟨v, hlog₁, rfl⟩
  by_cases hdown : ¬(v &&& bmsr.linkStatus != 0) = true
  · rw [if_pos hdown]
    exact Method.heeds_done rfl
  · rw [if_neg hdown]
    have hup : v &&& bmsr.linkStatus ≠ 0 := bne_iff_ne.mp (not_not.mp hdown)
    refine Method.heeds_lift_bind
      (mdioRead_logs (by decide) (by decide) hlog₁ (.helper (.bmcr _))) fun l₂ u hlog₂ => ?_
    by_cases hauto : u &&& bmcr.anEnable ≠ 0
    · rw [if_pos hauto]
      refine Method.heeds_lift_bind (mdioRead_logs (by decide) (by decide) hlog₂
        (.pscsr hup hauto (List.suffix_refl _))) fun l₃ pscsrVal _ => ?_
      split
      · exact Method.heeds_done rfl
      · split
        · exact Method.heeds_done rfl
        · exact Method.heeds_done rfl
    · rw [if_neg hauto]
      exact Method.heeds_done rfl

theorem PhyLan87xx.setLoopback_permitted (on : Bool) (self : PhyLan87xx) :
    (setLoopback on : DriverM ε PhyLan87xx (PhyError ε) Unit).Heeds
      (onAccesses self.addr Lan87xx.MayAccess) [] self := by
  cases on with
  | true =>
    exact Method.heeds_lift_bind
      (mdioWrite_logs (by decide) (by decide) logs_nil (.loopbackOn _)) fun l _ _ =>
        Method.heeds_done rfl
  | false =>
    refine Method.heeds_lift_bind
      (mdioRead_logs (by decide) (by decide) logs_nil (.helper (.bmcr _))) fun l v hlog => ?_
    exact heeds_lift_last (mdioWrite_logs (by decide) (by decide) hlog
      (.loopbackOff (List.suffix_append _ _)))

theorem Lan87xxCall.op_permitted (call : Lan87xxCall) (self : PhyLan87xx) :
    (call.op self : Program Txn.Reply ε _).Heeds (onAccesses self.addr Lan87xx.MayAccess)
      (fun _ _ => True) [] := by
  cases call with
  | init => exact Operation.phy_heeds (PhyLan87xx.init_permitted self)
  | pollLink => exact Operation.phy_heeds (PhyLan87xx.pollLink_permitted self)
  | capabilities =>
    exact Operation.phy_heeds (heeds_lift_last (readCapabilities_permitted fun _ _ => .helper))
  | phyId => exact Operation.phy_heeds (heeds_lift_last (readPhyId_permitted fun _ _ => .helper))
  | setLoopback on => exact Operation.phy_heeds (PhyLan87xx.setLoopback_permitted on self)

/-- **Every call keeps to the rules of its driver.** -/
theorem Driver.op_permitted (k : Driver) (call : k.Call) (self : k.Fields) :
    (k.op call self : Program Txn.Reply ε _).Heeds (onAccesses (k.addr self) k.MayAccess)
      (fun _ _ => True) [] := by
  match k, call with
  | .lan867x, .inl call => exact call.op_permitted self
  | .lan867x, .inr call =>
    exact HelperCall.op_permitted (S := PhyLan867x) (fun _ _ => .helper) call self
  | .lan87xx, .inl call => exact call.op_permitted self
  | .lan87xx, .inr call =>
    exact HelperCall.op_permitted (S := PhyLan87xx) (fun _ _ => .helper) call self

end Calls

/-- **All that a driver does is permitted**, on every bus, whatever its client calls, with
the helper functions on the driver's address, and wherever the bus faults.  Each access is
made by the rules, which for a write mean that the accesses right before it call for it; and
but for accesses, a LAN867x driver moves the latch, and a LAN87xx driver does nothing. -/
theorem accesses_permitted (bus : MdioBus ε σ) (k : Driver) (phy : k.Fields)
    (client : Client k.Call (Response ε) α) (s : σ) :
    let o := (client.calling k.op phy).run bus.handler s
    k.Permitted (k.addr phy) (o.trace.map Exchange.event) := by
  intro o
  have hcalls : ∀ call (self : k.Fields), k.addr self = k.addr phy →
      (k.op call self : Program Txn.Reply ε _).Heeds (onAccesses (k.addr phy) k.MayAccess)
        (fun _ r => k.addr r.2 = k.addr phy) [] := by
    intro call self hself
    have hcall := k.op_permitted (ε := ε) call self
    rw [hself] at hcall
    exact hcall.uses (k.op_uses call self hself)
  have hclient := Program.Heeds.calling
    (onAccesses_local k.mayAccess_local (k.addr phy)) hcalls client rfl []
  have hall : ∀ l e l', o.trace.map Exchange.event = l ++ e :: l' →
      onAccesses (k.addr phy) k.MayAccess l e.req :=
    fun _ _ _ hl => hclient.run_guard bus.handler s hl
  refine ⟨fun w log a log' hlog => access_allowed hall hlog, fun w l e l' hl hnone => ?_⟩
  have hw := hall l e l' hl w
  simp only [hnone] at hw
  obtain ⟨hmoves, q, x, hx, hq⟩ := hw
  cases k with
  | lan867x => exact ⟨rfl, hmoves⟩
  | lan87xx => exact absurd hx (Lan87xx.MayAccess.not_mmd hq)

end EthPhy
