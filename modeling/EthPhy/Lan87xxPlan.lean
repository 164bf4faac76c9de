import EthPhy.Lan87xxDevice
import EthPhy.Operations

/-!
# What the LAN87xx operations do to the registers

A MAC works with a LAN87xx through the operations of its driver and through the helper
functions of `ieee802_3`.  Outside a reset BMCR is all they write, and each call that
writes it does one update of it: `PhyCall.follows` says that a call that succeeds has
done its update, and that a call that fails has done nothing.

`init` is the other kind.  It resets the chip, and what it leaves is put together from
what the chip holds after the reset (`init_leaves`).
-/

namespace EthPhy
open Interaction Ieee802_3 Lan87xx

variable {ε : Type}

/-! ## What a MAC asks of its PHY -/

/-- An operation of the driver, or a helper function called with its address. -/
inductive PhyCall where
  | driver (call : Lan87xxCall)
  | helper (call : HelperCall)
  deriving DecidableEq, Repr

namespace PhyCall

/-- The operation a call stands for. -/
def op : PhyCall → Operation ε PhyLan87xx
  | driver call => call.op
  | helper call => fun phy => call.op phy.addr phy

/-- The call resets the chip. -/
def Resets : PhyCall → Prop
  | driver .init | helper (.softReset _) => True
  | _ => False

/-- What a call does to BMCR, if it writes it. -/
def update : PhyCall → Option (U16 → U16)
  | driver (.setLoopback true) => some fun _ => PhyLan87xx.loopbackOn
  | driver (.setLoopback false) => some fun v => v &&& ~~~bmcr.loopback
  | helper .enableAutoNegotiation => some anRestarted
  | helper (.forceLink speed duplex) => some (forced speed duplex)
  | _ => none

/-- **The contents a call takes the registers through**, from `f`. -/
def plan (f : Registers) (call : PhyCall) : List Registers :=
  match call.update with
  | some g => [Function.update f regs.bmcr (g (f regs.bmcr))]
  | none => []

end PhyCall

/-! ## Read-modify-writes of BMCR -/

theorem anRestarted_eq (v : U16) :
    anRestarted v = Bits.rmw bmcr.isolate (bmcr.anEnable ||| bmcr.anRestart) v :=
  Bits.or_andNot_eq_rmw v (by decide)

theorem forced_eq (speed : Speed) (duplex : Duplex) (v : U16) :
    forced speed duplex v = Bits.rmw
      (bmcr.anEnable ||| bmcr.anRestart ||| bmcr.isolate ||| bmcr.speed100 ||| bmcr.duplexFull)
      (speedBits speed ||| duplexBits duplex) v :=
  BitVec.or_assoc _ _ _

theorem loopbackOff_eq (v : U16) : v &&& ~~~bmcr.loopback = Bits.rmw bmcr.loopback 0 v := by
  unfold Bits.rmw
  exact BitVec.or_zero.symm

namespace Lan87xx

variable {plain : Set U8} {f : Registers} (addr : U8)

/-- **A read-modify-write of BMCR** that does not set RESET. -/
theorem updateBmcr_follows {g : U16 → U16} {clear set : U16}
    (hg : ∀ v, g v = Bits.rmw clear set v) (hset : set &&& bmcr.reset = 0) :
    (do
      let val ← mdioRead addr regs.bmcr
      mdioWrite addr regs.bmcr (g val) : Mdio ε Unit).Follows (device plain addr)
      (Registers.Holds plain) True f [Function.update f regs.bmcr (g (f regs.bmcr))]
      fun _ => True := by
  refine (mdioRead_follows addr regs.bmcr).read_bind (fun v hv => ?_)
    (fun _ => List.cons_ne_nil _ _)
  obtain ⟨hagree, hreset⟩ := hv.bmcr rfl
  refine mdioWrite_follows addr (fun _ => ?_) ?_
  · rw [hg]
    exact Bits.rmw_and_eq_zero hreset hset
  · rw [if_pos rfl, hg, hg]
    exact hagree.rmw clear set

theorem enableAutoNegotiation_follows :
    (enableAutoNegotiation addr : Mdio ε Unit).Follows (device plain addr)
      (Registers.Holds plain) True f [Function.update f regs.bmcr (anRestarted (f regs.bmcr))]
      fun _ => True :=
  updateBmcr_follows addr anRestarted_eq (by decide)

theorem forceLink_follows (speed : Speed) (duplex : Duplex) :
    (forceLink addr speed duplex : Mdio ε Unit).Follows (device plain addr)
      (Registers.Holds plain) True f
      [Function.update f regs.bmcr (forced speed duplex (f regs.bmcr))] fun _ => True :=
  updateBmcr_follows addr (forced_eq speed duplex) (by cases speed <;> cases duplex <;> decide)

theorem isLinkUp_follows :
    (isLinkUp addr : Mdio ε Bool).Follows (device plain addr) (Registers.Holds plain)
      False f [] fun _ => True :=
  (mdioRead_follows addr regs.bmsr).read_bind (fun _ _ => .pure trivial) (fun h => h.elim)

theorem readCapabilities_follows :
    (readCapabilities addr : Mdio ε PhyCapabilities).Follows (device plain addr)
      (Registers.Holds plain) False f [] fun _ => True :=
  (mdioRead_follows addr regs.bmsr).read_bind (fun _ _ => .pure trivial) (fun h => h.elim)

theorem readPhyId_follows :
    (readPhyId addr : Mdio ε U32).Follows (device plain addr) (Registers.Holds plain)
      False f [] fun _ => True :=
  (mdioRead_follows addr regs.phyidr1).read_bind
    (fun _ _ => (mdioRead_follows addr regs.phyidr2).read_bind (fun _ _ => .pure trivial)
      (fun h => h.elim))
    (fun h => h.elim)

end Lan87xx

/-! ## Operations follow their plans -/

namespace PhyLan87xx
open Method

variable {plain : Set U8} {f : Registers} (self : PhyLan87xx)

theorem setLoopback_on_follows :
    (setLoopback true : DriverM ε PhyLan87xx (PhyError ε) Unit).Follows
      (Lan87xx.device plain self.addr) (Registers.Holds plain) True f self
      [Function.update f regs.bmcr loopbackOn] fun _ self' => self'.addr = self.addr :=
  .get_bind (.lift_last
    (Lan87xx.mdioWrite_follows self.addr (fun _ => by decide) (by rw [if_pos rfl]; exact .refl _ _))
    (fun _ _ => ⟨_, _, rfl, rfl⟩) (fun _ => rfl))

theorem setLoopback_off_follows :
    (setLoopback false : DriverM ε PhyLan87xx (PhyError ε) Unit).Follows
      (Lan87xx.device plain self.addr) (Registers.Holds plain) True f self
      [Function.update f regs.bmcr (f regs.bmcr &&& ~~~bmcr.loopback)]
      fun _ self' => self'.addr = self.addr := by
  refine .get_bind (.lift_bind (p := []) (Lan87xx.mdioRead_follows self.addr regs.bmcr)
    (fun v hv => ?_) (fun _ => List.cons_ne_nil _ _) (fun _ => rfl))
  obtain ⟨hagree, hreset⟩ := hv.bmcr rfl
  refine .lift (Lan87xx.mdioWrite_follows self.addr (fun _ => ?_) ?_) (fun _ _ => rfl)
    (fun _ => rfl)
  · rw [loopbackOff_eq]
    exact Bits.rmw_and_eq_zero hreset (by decide)
  · rw [if_pos rfl, loopbackOff_eq, loopbackOff_eq]
    exact hagree.rmw _ _

theorem capabilities_follows :
    (capabilities : DriverM ε PhyLan87xx (PhyError ε) PhyCapabilities).Follows
      (Lan87xx.device plain self.addr) (Registers.Holds plain) False f self []
      fun _ self' => self'.addr = self.addr :=
  .get_bind (.lift (Lan87xx.readCapabilities_follows self.addr) (fun _ _ => rfl) (fun _ => rfl))

theorem phyId_follows :
    (phyId : DriverM ε PhyLan87xx (PhyError ε) U32).Follows
      (Lan87xx.device plain self.addr) (Registers.Holds plain) False f self []
      fun _ self' => self'.addr = self.addr :=
  .get_bind (.lift (Lan87xx.readPhyId_follows self.addr) (fun _ _ => rfl) (fun _ => rfl))

theorem reportDown_follows :
    (reportDown : DriverM ε PhyLan87xx (PhyError ε) LinkState).Follows
      (Lan87xx.device plain self.addr) (Registers.Holds plain) False f self []
      fun _ self' => self'.addr = self.addr :=
  .ended rfl (fun _ => rfl) (fun h => h.elim) rfl

theorem reportUp_follows (speed : Speed) (duplex : Duplex) :
    (reportUp speed duplex : DriverM ε PhyLan87xx (PhyError ε) LinkState).Follows
      (Lan87xx.device plain self.addr) (Registers.Holds plain) False f self []
      fun _ self' => self'.addr = self.addr :=
  .ended rfl (fun _ => rfl) (fun h => h.elim) rfl

theorem pollLink_follows :
    (pollLink : DriverM ε PhyLan87xx (PhyError ε) LinkState).Follows
      (Lan87xx.device plain self.addr) (Registers.Holds plain) False f self []
      fun _ self' => self'.addr = self.addr := by
  refine .get_bind (.lift_bind (p := []) (Lan87xx.isLinkUp_follows self.addr) (fun up _ => ?_)
    (fun h => h.elim) (fun _ => rfl))
  refine .ite (fun _ => reportDown_follows self) (fun _ => ?_)
  refine .lift_bind (p := []) (Lan87xx.mdioRead_follows self.addr regs.bmcr) (fun bmcrVal _ => ?_)
    (fun h => h.elim) (fun _ => rfl)
  refine .ite (fun _ => ?_) (fun _ => reportUp_follows self _ _)
  refine .lift_bind (p := []) (Lan87xx.mdioRead_follows self.addr pscsr.addr)
    (fun pscsrVal _ => ?_) (fun h => h.elim) (fun _ => rfl)
  refine .ite (fun _ => reportDown_follows self) (fun _ => ?_)
  split
  · exact reportUp_follows self _ _
  · exact reportDown_follows self

end PhyLan87xx

/-- **Every call that does not reset the chip follows its plan**: if it fails, the
contents are as they were, and if it succeeds, it has done its update. -/
theorem PhyCall.follows {plain : Set U8} {f c : Registers} (call : PhyCall) (phy : PhyLan87xx)
    (hcall : ¬call.Resets) (hc : f.Holds plain c) :
    (call.op phy : Program Txn.Reply ε _).Ensures (Lan87xx.device plain phy.addr) c
      fun l r c' => Progress (Registers.Holds plain) (call.plan f ≠ []) f (call.plan f)
        (r.1.isOk = true) l c' ∧ r.2.addr = phy.addr := by
  have hreader : ([] : List Registers) ≠ [] → False := fun h => h rfl
  cases call with
  | driver call =>
    have hphy : ∀ {α : Type} {m : DriverM ε PhyLan87xx (PhyError ε) α} {strict : Prop}
        {p : List Registers} {value : α → Value},
        m.Follows (Lan87xx.device plain phy.addr) (Registers.Holds plain) strict f phy p
          (fun _ phy' => phy'.addr = phy.addr) → (p ≠ [] → strict) →
        (Operation.phy m value phy).Ensures (Lan87xx.device plain phy.addr) c fun l r c' =>
          Progress (Registers.Holds plain) (p ≠ []) f p (r.1.isOk = true) l c' ∧
            r.2.addr = phy.addr :=
      fun hm hs => Operation.phy_follows (Q := fun _ (phy' : PhyLan87xx) => phy'.addr = phy.addr)
        hm hs hc
    cases call with
    | init => exact absurd trivial hcall
    | pollLink => exact hphy (PhyLan87xx.pollLink_follows phy) hreader
    | capabilities => exact hphy (PhyLan87xx.capabilities_follows phy) hreader
    | phyId => exact hphy (PhyLan87xx.phyId_follows phy) hreader
    | setLoopback on =>
      cases on with
      | true => exact hphy (PhyLan87xx.setLoopback_on_follows phy) fun _ => trivial
      | false => exact hphy (PhyLan87xx.setLoopback_off_follows phy) fun _ => trivial
  | helper call =>
    -- a helper function does not touch the driver
    have hraw : ∀ {α : Type} {x : Mdio ε α} {strict : Prop} {p : List Registers}
        {value : α → Value}, x.Follows (Lan87xx.device plain phy.addr) (Registers.Holds plain)
          strict f p (fun _ => True) → (p ≠ [] → strict) →
        (Operation.raw x value phy).Ensures (Lan87xx.device plain phy.addr) c fun l r c' =>
          Progress (Registers.Holds plain) (p ≠ []) f p (r.1.isOk = true) l c' ∧
            r.2.addr = phy.addr :=
      fun hx hs => (Operation.raw_follows hx hs hc).mono
        fun l r c' h => ⟨h.1, congrArg PhyLan87xx.addr h.2⟩
    cases call with
    | softReset n => exact absurd trivial hcall
    | isLinkUp => exact hraw (Lan87xx.isLinkUp_follows phy.addr) hreader
    | enableAutoNegotiation =>
      exact hraw (Lan87xx.enableAutoNegotiation_follows phy.addr) fun _ => trivial
    | readPhyId => exact hraw (Lan87xx.readPhyId_follows phy.addr) hreader
    | readCapabilities => exact hraw (Lan87xx.readCapabilities_follows phy.addr) hreader
    | forceLink speed duplex =>
      exact hraw (Lan87xx.forceLink_follows phy.addr speed duplex) fun _ => trivial

/-! ## init -/

/-- `v` is what a read of register `r` returned. -/
def ReadIn {σ : Type} (l : List (Exchange Txn.Reply ε σ)) (a r : U8) (v : U16) : Prop :=
  ∃ s t, (⟨s, .read a r, .ok v, t⟩ : Exchange Txn.Reply ε σ) ∈ l

/-- **The exchanges of a soft reset that has completed**, and has left the chip in state
`c`: the last one reads RESET clear. -/
def ResetCompleted (addr : U8) (l : List (Exchange Txn.Reply ε Registers)) (c : Registers) :
    Prop :=
  ∃ l₀ c₀ v, l = l₀ ++ [⟨c₀, .read addr regs.bmcr, .ok v, c⟩] ∧ v &&& bmcr.reset = 0 ∧
    ∀ x ∈ l₀, x.req = .write addr regs.bmcr bmcr.reset ∨ x.req = .read addr regs.bmcr

/-- **What a successful `init` has done**, from the state `c` in which the reset left
the chip: the exchanges `l`, and the state `c'` at the end. -/
def Configured (plain : Set U8) (addr : U8) (c : Registers)
    (l : List (Exchange Txn.Reply ε Registers)) (c' : Registers) : Prop :=
  ∃ mcsrVal bmcrVal, ReadIn l addr mcsr.addr mcsrVal ∧ ReadIn l addr regs.bmcr bmcrVal ∧
    l.map Exchange.req = [.read addr regs.phyidr1, .read addr regs.phyidr2,
      .read addr mcsr.addr, .write addr mcsr.addr (mcsrVal &&& ~~~mcsr.edpdEn),
      .write addr regs.anar PhyLan87xx.advertisement,
      .read addr regs.bmcr, .write addr regs.bmcr (anRestarted bmcrVal)] ∧
    (mcsr.addr ∈ plain → mcsrVal = c mcsr.addr) ∧
    Registers.Holds plain (Function.update (Function.update
      (Function.update c mcsr.addr (mcsrVal &&& ~~~mcsr.edpdEn))
      regs.anar PhyLan87xx.advertisement) regs.bmcr (anRestarted bmcrVal)) c'

section Init

variable {plain : Set U8} (addr : U8)

theorem pollReset_completes (n : Nat) (c : Registers) :
    (pollReset addr n : Mdio ε Bool).run.Ensures (Lan87xx.device plain addr) c fun l r c' =>
      r = .ok true → ResetCompleted addr l c' ∧ ¬c'.InReset := by
  induction n generalizing c with
  | zero => exact fun h => by cases h
  | succ n ih =>
    refine Fallible.ensures_request_bind (fun v c₁ h => ?_) (fun e c₁ _ h => by cases h)
    by_cases hv : v &&& bmcr.reset = 0
    · rw [if_pos hv]
      intro _
      obtain ⟨m, ⟨rfl, hget⟩, hd⟩ := h
      obtain rfl := hget rfl (.inl rfl)
      have hsettled : ¬m.InReset := not_not.mpr hv
      exact ⟨⟨[], m, _, rfl, hv, nofun⟩, ((Registers.Holds.refl hsettled).drift hd).settled⟩
    · rw [if_neg hv]
      refine (ih c₁).mono fun l r c' hdone hr => ?_
      obtain ⟨⟨l₀, c₀, v', rfl, hv', hl₀⟩, hsettled⟩ := hdone hr
      refine ⟨⟨_ :: l₀, c₀, v', rfl, hv', ?_⟩, hsettled⟩
      exact List.forall_mem_cons.mpr ⟨.inr rfl, hl₀⟩

theorem softReset_completes (n : U32) (c : Registers) :
    (softReset addr n : Mdio ε Bool).run.Ensures (Lan87xx.device plain addr) c fun l r c' =>
      r = .ok true → ResetCompleted addr l c' ∧ ¬c'.InReset := by
  refine Fallible.ensures_request_bind (fun u c₁ _ => ?_) (fun e c₁ _ h => by cases h)
  refine (pollReset_completes addr n.toNat c₁).mono fun l r c' hdone hr => ?_
  obtain ⟨⟨l₀, c₀, v', rfl, hv', hl₀⟩, hsettled⟩ := hdone hr
  refine ⟨⟨_ :: l₀, c₀, v', rfl, hv', ?_⟩, hsettled⟩
  exact List.forall_mem_cons.mpr ⟨.inl rfl, hl₀⟩

theorem readPhyId_ensures {f c : Registers} (hc : f.Holds plain c) :
    (readPhyId addr : Mdio ε U32).run.Ensures (Lan87xx.device plain addr) c fun l r c' =>
      ∀ id, r = .ok id → l.map Exchange.req = [.read addr regs.phyidr1, .read addr regs.phyidr2] ∧
        f.Holds plain c' := by
  refine Fallible.ensures_bind (Lan87xx.mdioRead_ensures addr regs.phyidr1 hc) ?_
    (fun l e c' _ id h => by cases h)
  rintro l₁ id1 c₁ hread
  obtain ⟨rfl, hc₁, -⟩ := hread id1 rfl
  refine Fallible.ensures_bind (Lan87xx.mdioRead_ensures addr regs.phyidr2 hc₁) ?_
    (fun l e c' _ id h => by cases h)
  rintro l₂ id2 c₂ hread
  obtain ⟨rfl, hc₂, -⟩ := hread id2 rfl
  exact fun id _ => ⟨rfl, hc₂⟩

theorem enableAutoNegotiation_ensures {f c : Registers} (hc : f.Holds plain c) :
    (enableAutoNegotiation addr : Mdio ε Unit).run.Ensures (Lan87xx.device plain addr) c
      fun l r c' => ∀ u, r = .ok u → ∃ v, ReadIn l addr regs.bmcr v ∧
        l.map Exchange.req = [.read addr regs.bmcr, .write addr regs.bmcr (anRestarted v)] ∧
        Registers.Holds plain (Function.update f regs.bmcr (anRestarted v)) c' := by
  refine Fallible.ensures_bind (Lan87xx.mdioRead_ensures addr regs.bmcr hc) ?_
    (fun l e c' _ u h => by cases h)
  rintro l₁ v c₁ hread
  obtain ⟨rfl, hc₁, hv⟩ := hread v rfl
  have hreset : anRestarted v &&& bmcr.reset = 0 := by
    rw [anRestarted_eq]
    exact Bits.rmw_and_eq_zero (hv.bmcr rfl).2 (by decide)
  refine (Lan87xx.mdioWrite_ensures addr hc₁ fun _ => hreset).mono ?_
  rintro l₂ r c₂ hwrite u hu
  obtain ⟨rfl, hc₂⟩ := hwrite u hu
  exact ⟨v, ⟨c, c₁, List.mem_cons_self⟩, rfl, hc₂⟩

end Init

/-- **A successful `init`**: the reset has completed, and what the chip held then has
been configured. -/
theorem PhyLan87xx.init_leaves (plain : Set U8) (phy : PhyLan87xx) (c : Registers) :
    ((init : DriverM ε PhyLan87xx (PhyError ε) Unit).on phy).Ensures
      (Lan87xx.device plain phy.addr) c fun l r c' => r.2.addr = phy.addr ∧
        (r.1 = .ok () → ∃ l₁ c₁ l₂, l = l₁ ++ l₂ ∧ ResetCompleted phy.addr l₁ c₁ ∧
          Configured plain phy.addr c₁ l₂ c') := by
  refine Method.ensures_lift_bind (softReset_completes phy.addr 500 c) ?_
    (fun l e c' _ => ⟨rfl, nofun⟩)
  rintro l₁ cleared c₁ hdone
  cases cleared with
  | false => exact ⟨rfl, nofun⟩
  | true =>
    obtain ⟨hreset, hsettled⟩ := hdone rfl
    refine Method.ensures_lift_bind (readPhyId_ensures phy.addr (.refl hsettled)) ?_
      (fun l e c' _ => ⟨rfl, nofun⟩)
    rintro l₂ id c₂ hid
    obtain ⟨hl₂, hc₂⟩ := hid id rfl
    by_cases hfamily : id &&& phyOuiMask ≠ phyOui
    · rw [if_pos hfamily]
      exact ⟨rfl, nofun⟩
    rw [if_neg hfamily]
    refine Method.ensures_lift_bind (Lan87xx.mdioRead_ensures phy.addr mcsr.addr hc₂) ?_
      (fun l e c' _ => ⟨rfl, nofun⟩)
    rintro l₃ mcsrVal c₃ hread
    obtain ⟨rfl, hc₃, hmcsr⟩ := hread mcsrVal rfl
    refine Method.ensures_lift_bind
      (Lan87xx.mdioWrite_ensures phy.addr hc₃ fun h => absurd h (by decide)) ?_
      (fun l e c' _ => ⟨rfl, nofun⟩)
    rintro l₄ u c₄ hwrite
    obtain ⟨rfl, hc₄⟩ := hwrite u rfl
    refine Method.ensures_lift_bind
      (Lan87xx.mdioWrite_ensures phy.addr hc₄ fun h => absurd h (by decide)) ?_
      (fun l e c' _ => ⟨rfl, nofun⟩)
    rintro l₅ u c₅ hwrite
    obtain ⟨rfl, hc₅⟩ := hwrite u rfl
    refine Method.ensures_lift_bind (enableAutoNegotiation_ensures phy.addr hc₅) ?_
      (fun l e c' _ => ⟨rfl, nofun⟩)
    rintro l₆ u c₆ hneg
    obtain ⟨bmcrVal, hbmcr, hl₆, hc₆⟩ := hneg u rfl
    refine ⟨rfl, fun _ => ⟨l₁, c₁, _, rfl, hreset, mcsrVal, bmcrVal, ?_, ?_, ?_, ?_, hc₆⟩⟩
    · exact ⟨c₂, c₃, by simp⟩
    · obtain ⟨c₀, c₀', hmem⟩ := hbmcr
      exact ⟨c₀, c₀', by simp [hmem]⟩
    · simp [hl₂, hl₆]
    · exact fun h => hmcsr.plain h (by decide)

/-- A LAN8720A just initialised, on a bus that will lose the fifth transaction to
come. -/
def afterInit87xx : Outcome Txn.Reply String (Registers × List (Option String))
    (Response String × PhyLan87xx) :=
  ((PhyCall.driver .init).op (PhyLan87xx.new 1)).run (SimulatedLan87xx.lossyBus String 1).handler
    (SimulatedLan87xx.lan8720a, List.replicate 13 none ++ [some "timeout"])

end EthPhy
