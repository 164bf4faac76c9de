import EthPhy.Lan87xxDevice
import EthPhy.LatchedChip
import EthPhy.Operations

/-!
# Observers are transparent

`pollLink`, `plcaStatus`, `capabilities` and `phyId` ask the chip something and change
nothing that matters.  On a LAN867x they leave the latch of the indirection wherever they
stopped, but no operation uses it before it has set it.  On a LAN87xx `pollLink` writes
`link_up`, but no operation reads it.

So observers may be deleted from a run, whatever faults they met with: the other calls
return the same, and what they leave behind is the same (`observers_transparent`).
-/

namespace EthPhy
open Interaction

variable {ε W Γ X S α : Type}

/-- The operations that observe the chip. -/
def Lan867xCall.Observes : Lan867xCall → Prop
  | pollLink | plcaStatus | capabilities | phyId => True
  | init | configurePlca _ | disablePlca => False

/-- The operations that observe the chip. -/
def Lan87xxCall.Observes : Lan87xxCall → Prop
  | pollLink | capabilities | phyId => True
  | init | setLoopback _ => False

/-! ## Operations compared with themselves -/

/-- From drivers related by `same` and states related by `R`, the operation responds the
same and keeps both relations. -/
def Operation.Agrees (react : Reaction Txn.Reply W X) (same : S → S → Prop) (R : X → X → Prop)
    (op : Operation ε S) : Prop :=
  ∀ o o' x y, same o o' → R x y → (op o).Agree react (op o') x y fun r r' x' y' =>
    r.1 = r'.1 ∧ same r.2 r'.2 ∧ R x' y'

namespace Operation

variable {react : Reaction Txn.Reply W X} {same : S → S → Prop} {R : X → X → Prop}

theorem phy_agrees {m : DriverM ε S (PhyError ε) α} (hm : m.Agrees react same R)
    (value : α → Value) : (Operation.phy m value).Agrees react same R := by
  intro o o' x y ho hR
  refine (hm o o' x y ho hR).bind ?_
  rintro r r' x₁ y₁ ⟨hr, ho₁, hR₁⟩
  exact Program.agree_done ⟨by rw [hr], ho₁, hR₁⟩

theorem plca_agrees {m : DriverM ε S (PlcaError ε) α} (hm : m.Agrees react same R)
    (value : α → Value) : (Operation.plca m value).Agrees react same R := by
  intro o o' x y ho hR
  refine (hm o o' x y ho hR).bind ?_
  rintro r r' x₁ y₁ ⟨hr, ho₁, hR₁⟩
  exact Program.agree_done ⟨by rw [hr], ho₁, hR₁⟩

end Operation

/-! ## The LAN867x -/

namespace Lan867xChip
open Lan867x Ieee802_3

variable {chip : Lan867xChip W Γ} {addr : U8} {C : Γ → Γ → Prop}

/-- The contents do not tell, and a read of an observed register has no side effects. -/
theorem read_insensitive (hC : ∀ γ γ', C γ γ' → γ = γ') {r : U8} (hr : r ∈ observedRegs) :
    Insensitive C (chip.read r) :=
  insensitive_of_quiet hC (chip.read_quiet r hr)

theorem mmdLoad_insensitive (hC : ∀ γ γ', C γ γ' → γ = γ') {x : MmdAddr}
    (hx : x ∈ observedMmd) : Insensitive C (chip.mmdLoad x) :=
  insensitive_of_quiet hC (chip.mmdLoad_quiet x hx)

theorem readPhyId_agrees (hC : ∀ γ γ', C γ γ' → γ = γ') :
    (readPhyId addr : Mdio ε U32).Agrees (chip.react addr) (OnContents C) (OnContents C)
      fun _ => OnContents C := by
  refine (mdioRead_agrees (by decide) (by decide) (read_insensitive hC (by decide))).bind
    fun _ => ?_
  refine (mdioRead_agrees (by decide) (by decide) (read_insensitive hC (by decide))).bind
    fun _ => ?_
  exact Fallible.agrees_pure fun _ _ h => h

theorem readCapabilities_agrees (hC : ∀ γ γ', C γ γ' → γ = γ') :
    (readCapabilities addr : Mdio ε PhyCapabilities).Agrees (chip.react addr) (OnContents C)
      (OnContents C) fun _ => OnContents C :=
  (mdioRead_agrees (by decide) (by decide) (read_insensitive hC (by decide))).bind
    fun _ => Fallible.agrees_pure fun _ _ h => h

theorem pollReset_agrees (n : Nat) :
    (pollReset addr n : Mdio ε Bool).Agrees (chip.react addr) (OnContents Eq) (OnContents Eq)
      fun _ => OnContents Eq := by
  induction n with
  | zero => exact Fallible.agrees_pure fun _ _ h => h
  | succ n ih =>
    refine (mdioRead_agrees (by decide) (by decide) (insensitive_eq _)).bind fun val => ?_
    exact .ite (Fallible.agrees_pure fun _ _ h => h) ih

theorem softReset_agrees (n : U32) :
    (softReset addr n : Mdio ε Bool).Agrees (chip.react addr) (OnContents Eq) (OnContents Eq)
      fun _ => OnContents Eq :=
  (mdioWrite_agrees bmcr.reset (by decide) (by decide)).bind fun _ => pollReset_agrees n.toNat

theorem pollResetc_agrees (n : Nat) :
    (PhyLan867x.pollResetc addr n : Mdio ε Bool).Agrees (chip.react addr) (OnContents Eq)
      (OnContents Eq) fun _ => OnContents Eq := by
  induction n with
  | zero => exact Fallible.agrees_pure fun _ _ h => h
  | succ n ih =>
    refine (mmdRead_agrees mmdVs2 mmdRegSts2 (insensitive_eq _)).bind fun sts => ?_
    exact .ite (Fallible.agrees_pure fun _ _ h => h) ih

end Lan867xChip

namespace PhyLan867x
open Lan867x Method Lan867xChip

variable {chip : Lan867xChip W Γ} {addr : U8} {C : Γ → Γ → Prop}
  {same : PhyLan867x → PhyLan867x → Prop}

section Observers

variable (hsame : ∀ o o', same o o' → o = o' ∧ o.addr = addr)
  (hC : ∀ γ γ', C γ γ' → γ = γ')
include hsame hC

theorem pollLink_agrees :
    (pollLink : DriverM ε PhyLan867x (PhyError ε) LinkState).Agrees (chip.react addr) same
      (OnContents C) := by
  refine agrees_get_bind fun o o' h => ?_
  obtain ⟨rfl, rfl⟩ := hsame o o' h
  refine ⟨rfl, ?_⟩
  split
  · exact agrees_pure _
  · exact agrees_pure _
  · have hload : Insensitive C (chip.mmdLoad (mmdAddr mmdVs2 mmdRegPlcaSts)) :=
      mmdLoad_insensitive hC (by decide)
    refine Agrees.bind (.lift (mmdRead_agrees mmdVs2 mmdRegPlcaSts hload)) fun sts => ?_
    exact .ite (agrees_pure _) (agrees_pure _)

theorem capabilities_agrees :
    (capabilities : DriverM ε PhyLan867x (PhyError ε) PhyCapabilities).Agrees
      (chip.react addr) same (OnContents C) := by
  refine agrees_get_bind fun o o' h => ?_
  obtain ⟨rfl, rfl⟩ := hsame o o' h
  exact ⟨rfl, .lift (readCapabilities_agrees hC)⟩

theorem phyId_agrees :
    (phyId : DriverM ε PhyLan867x (PhyError ε) U32).Agrees (chip.react addr) same
      (OnContents C) := by
  refine agrees_get_bind fun o o' h => ?_
  obtain ⟨rfl, rfl⟩ := hsame o o' h
  exact ⟨rfl, .lift (readPhyId_agrees hC)⟩

theorem plcaStatus_agrees :
    (plcaStatus : DriverM ε PhyLan867x (PlcaError ε) PlcaStatus).Agrees (chip.react addr) same
      (OnContents C) := by
  refine agrees_get_bind fun o o' h => ?_
  obtain ⟨rfl, rfl⟩ := hsame o o' h
  have hread : ∀ reg, mmdAddr mmdVs2 reg ∈ observedMmd →
      (Method.lift .mdio (mmdRead o.addr mmdVs2 reg) :
        DriverM ε PhyLan867x (PlcaError ε) U16).Agrees (chip.react o.addr) same (OnContents C) :=
    fun reg hreg => .lift (mmdRead_agrees mmdVs2 reg (mmdLoad_insensitive hC hreg))
  refine ⟨rfl, ?_⟩
  refine Agrees.bind (hread mmdRegPlcaCtrl0 (by decide)) fun ctrl0 => ?_
  refine Agrees.bind (hread mmdRegPlcaCtrl1 (by decide)) fun ctrl1 => ?_
  refine Agrees.bind (hread mmdRegPlcaSts (by decide)) fun sts => ?_
  exact agrees_pure _

/-- What an observer does depends on the driver and the contents alone. -/
theorem observer_agrees {call : Lan867xCall} (hcall : call.Observes) :
    (call.op : Operation ε PhyLan867x).Agrees (chip.react addr) same (OnContents C) := by
  cases call with
  | pollLink => exact Operation.phy_agrees (pollLink_agrees hsame hC) _
  | capabilities => exact Operation.phy_agrees (capabilities_agrees hsame hC) _
  | phyId => exact Operation.phy_agrees (phyId_agrees hsame hC) _
  | plcaStatus => exact Operation.plca_agrees (plcaStatus_agrees hsame hC) _
  | init => exact hcall.elim
  | configurePlca config => exact hcall.elim
  | disablePlca => exact hcall.elim

end Observers

/-- The drivers are the same, at address `addr`. -/
def SameAt (addr : U8) (o o' : PhyLan867x) : Prop := o = o' ∧ o.addr = addr

theorem init_agrees :
    (init : DriverM ε PhyLan867x (PhyError ε) Unit).Agrees (chip.react addr) (SameAt addr)
      (OnContents Eq) := by
  refine Agrees.bind (agrees_modify ?_) fun _ => agrees_get_bind fun o o' h => ?_
  · rintro o _ ⟨rfl, haddr⟩
    exact ⟨rfl, haddr⟩
  obtain ⟨rfl, rfl⟩ := h
  refine ⟨rfl, ?_⟩
  refine Agrees.bind (.lift (softReset_agrees 500)) fun cleared => ?_
  refine .ite (agrees_throw_bind _ _) ?_
  refine Agrees.bind (.lift (pollResetc_agrees 500)) fun gotResetc => ?_
  refine .ite (agrees_throw_bind _ _) ?_
  refine Agrees.bind (.lift (readPhyId_agrees fun _ _ h => h)) fun id => ?_
  refine .ite (agrees_throw_bind _ _) ?_
  refine Agrees.bind (.lift (mdioRead_agrees (by decide) (by decide) (insensitive_eq _)))
    fun strap => ?_
  split
  · exact agrees_throw _
  · refine Agrees.bind (.lift (mmdRead_agrees mmdVs2 mmdRegMidver (insensitive_eq _)))
      fun midver => ?_
    refine .ite (agrees_throw_bind _ _) ?_
    refine Agrees.bind (.lift (mmdRmw_agrees mmdPmaPmd mmdRegT1spmactl 0 t1spmactlMde))
      fun _ => agrees_modify ?_
    rintro o _ ⟨rfl, haddr⟩
    exact ⟨rfl, haddr⟩

theorem configurePlca_agrees (config : PlcaConfig) :
    (configurePlca config : DriverM ε PhyLan867x (PlcaError ε) Unit).Agrees (chip.react addr)
      (SameAt addr) (OnContents Eq) := by
  refine .ite (agrees_throw_bind _ _) (.ite (agrees_throw_bind _ _)
    (agrees_get_bind fun o o' h => ?_))
  obtain ⟨rfl, rfl⟩ := h
  refine ⟨rfl, ?_⟩
  refine Agrees.bind (.lift (mmdWrite_agrees mmdVs2 mmdRegPlcaCtrl1 _)) fun _ => ?_
  refine Agrees.bind (.lift (mmdWrite_agrees mmdVs2 mmdRegPlcaBurst _)) fun _ => ?_
  refine Agrees.bind (.lift (mmdRmw_agrees mmdVs2 mmdRegPlcaCtrl0 0 plcaCtrl0En))
    fun _ => agrees_modify ?_
  rintro o _ ⟨rfl, haddr⟩
  exact ⟨rfl, haddr⟩

theorem disablePlca_agrees :
    (disablePlca : DriverM ε PhyLan867x (PlcaError ε) Unit).Agrees (chip.react addr)
      (SameAt addr) (OnContents Eq) := by
  refine agrees_get_bind fun o o' h => ?_
  obtain ⟨rfl, rfl⟩ := h
  refine ⟨rfl, Agrees.bind (.lift (mmdRmw_agrees mmdVs2 mmdRegPlcaCtrl0 plcaCtrl0En 0))
    fun _ => agrees_modify ?_⟩
  rintro o _ ⟨rfl, haddr⟩
  exact ⟨rfl, haddr⟩

/-- **No operation sees the latch.** -/
theorem op_agrees (call : Lan867xCall) :
    (call.op : Operation ε PhyLan867x).Agrees (chip.react addr) (SameAt addr)
      (OnContents Eq) := by
  have hobserver : call.Observes → (call.op : Operation ε PhyLan867x).Agrees (chip.react addr)
      (SameAt addr) (OnContents Eq) := observer_agrees (fun _ _ h => h) (fun _ _ h => h)
  cases call with
  | init => exact Operation.phy_agrees init_agrees _
  | configurePlca config => exact Operation.plca_agrees (configurePlca_agrees config) _
  | disablePlca => exact Operation.plca_agrees disablePlca_agrees _
  | pollLink => exact hobserver trivial
  | capabilities => exact hobserver trivial
  | phyId => exact hobserver trivial
  | plcaStatus => exact hobserver trivial

end PhyLan867x

/-! ## The LAN87xx -/

/-- The registers the observers of a LAN87xx read. -/
def Lan87xx.observedRegs : List U8 :=
  [Ieee802_3.regs.bmsr, Ieee802_3.regs.bmcr, Ieee802_3.regs.phyidr1, Ieee802_3.regs.phyidr2,
    Lan87xx.pscsr.addr]

/-- **A LAN87xx at `addr` whose observed registers have no read side effects**: `X` is what
it can contain, and `W` what its environment contributes to a transaction. -/
structure Lan87xxChip (addr : U8) (W X : Type) where
  react : Reaction Txn.Reply W X
  quiet : ∀ r ∈ Lan87xx.observedRegs, ∀ w x, (react (.read addr r) w x).2 = x

/-- The simulated LAN8720A. -/
def Lan87xxChip.lan8720a (addr : U8) : Lan87xxChip addr Unit Registers where
  react
    | .read a r, _, c => (if a = addr then c r else 0xFFFF, c)
    | .write a r v, _, c => ((), SimulatedLan87xx.afterWrite addr c a r v)
  quiet _ _ _ _ := rfl

/-- **It is a conforming LAN87xx**, whatever the script. -/
theorem Lan87xxChip.lan8720a_conforms (plain : Set U8) (addr : U8) :
    (lan8720a addr).react.handler.Conforms (Device.faulty (ε := ε) True
      (Registers.Drift plain) (Registers.Effect plain addr)) (fun s => s.2) := by
  refine Reaction.handler_conforms id (Registers.Drift.refl plain) fun t _ c => ?_
  have heffect := SimulatedLan87xx.bus_conforms (ε := ε) plain addr t c
  cases t with
  | read a r => exact heffect
  | write a r v => exact heffect

namespace PhyLan87xx
open Lan87xx Method Ieee802_3

variable {addr : U8} {chip : Lan87xxChip addr W X}

/-- Both drivers have the address `addr`. -/
def BothAt (addr : U8) (o o' : PhyLan87xx) : Prop := o.addr = addr ∧ o'.addr = addr

/-- The contents are `x` in both runs. -/
def BothHold (x : X) (y y' : X) : Prop := y = x ∧ y' = x

section Observers

variable {R : X → X → Prop}
  (hread : ∀ r ∈ observedRegs, (mdioRead addr r : Mdio ε U16).Agrees chip.react R R fun _ => R)
include hread

theorem isLinkUp_agrees :
    (isLinkUp addr : Mdio ε Bool).Agrees chip.react R R fun _ => R :=
  (hread regs.bmsr (by decide)).bind fun _ => Fallible.agrees_pure fun _ _ h => h

theorem readCapabilities_agrees :
    (readCapabilities addr : Mdio ε PhyCapabilities).Agrees chip.react R R fun _ => R :=
  (hread regs.bmsr (by decide)).bind fun _ => Fallible.agrees_pure fun _ _ h => h

theorem readPhyId_agrees : (readPhyId addr : Mdio ε U32).Agrees chip.react R R fun _ => R :=
  (hread regs.phyidr1 (by decide)).bind fun _ =>
    (hread regs.phyidr2 (by decide)).bind fun _ => Fallible.agrees_pure fun _ _ h => h

omit hread in
theorem reportDown_agrees :
    (reportDown : DriverM ε PhyLan87xx (PhyError ε) LinkState).Agrees chip.react (BothAt addr) R :=
  Agrees.bind (agrees_modify fun _ _ h => h) fun _ => agrees_pure _

omit hread in
theorem reportUp_agrees (speed : Speed) (duplex : Duplex) :
    (reportUp speed duplex : DriverM ε PhyLan87xx (PhyError ε) LinkState).Agrees chip.react
      (BothAt addr) R :=
  Agrees.bind (agrees_modify fun _ _ h => h) fun _ => agrees_pure _

theorem pollLink_agrees :
    (pollLink : DriverM ε PhyLan87xx (PhyError ε) LinkState).Agrees chip.react (BothAt addr)
      R := by
  refine agrees_get_bind ?_
  rintro ⟨_, _⟩ ⟨_, _⟩ ⟨rfl, rfl⟩
  refine ⟨rfl, ?_⟩
  refine Agrees.bind (.lift (isLinkUp_agrees hread)) fun up => ?_
  refine .ite reportDown_agrees ?_
  refine Agrees.bind (.lift (hread regs.bmcr (by decide))) fun bmcrVal => ?_
  refine .ite ?_ (reportUp_agrees _ _)
  refine Agrees.bind (.lift (hread pscsr.addr (by decide))) fun pscsrVal => ?_
  refine .ite reportDown_agrees ?_
  split
  · exact reportUp_agrees _ _
  · exact reportDown_agrees

theorem capabilities_agrees :
    (capabilities : DriverM ε PhyLan87xx (PhyError ε) PhyCapabilities).Agrees chip.react
      (BothAt addr) R := by
  refine agrees_get_bind ?_
  rintro ⟨_, _⟩ ⟨_, _⟩ ⟨rfl, rfl⟩
  exact ⟨rfl, .lift (readCapabilities_agrees hread)⟩

theorem phyId_agrees :
    (phyId : DriverM ε PhyLan87xx (PhyError ε) U32).Agrees chip.react (BothAt addr) R := by
  refine agrees_get_bind ?_
  rintro ⟨_, _⟩ ⟨_, _⟩ ⟨rfl, rfl⟩
  exact ⟨rfl, .lift (readPhyId_agrees hread)⟩

/-- What an observer does depends on the contents of the observed registers alone. -/
theorem observer_agrees {call : Lan87xxCall} (hcall : call.Observes) :
    (call.op : Operation ε PhyLan87xx).Agrees chip.react (BothAt addr) R := by
  cases call with
  | pollLink => exact Operation.phy_agrees (pollLink_agrees hread) _
  | capabilities => exact Operation.phy_agrees (capabilities_agrees hread) _
  | phyId => exact Operation.phy_agrees (phyId_agrees hread) _
  | init => exact hcall.elim
  | setLoopback on => exact hcall.elim

end Observers

/-- The observed registers have no read side effects. -/
theorem mdioRead_quiet (x : X) {r : U8} (hr : r ∈ observedRegs) :
    (mdioRead addr r : Mdio ε U16).Agrees chip.react (BothHold x) (BothHold x)
      fun _ => BothHold x := by
  refine Fallible.agrees_request ?_ (fun _ _ h => h) (fun _ _ _ h => h)
  rintro w _ _ ⟨rfl, rfl⟩
  exact ⟨rfl, chip.quiet r hr w _, chip.quiet r hr w _⟩

theorem init_agrees :
    (init : DriverM ε PhyLan87xx (PhyError ε) Unit).Agrees chip.react (BothAt addr) Eq := by
  refine agrees_get_bind ?_
  rintro ⟨_, _⟩ ⟨_, _⟩ ⟨rfl, rfl⟩
  refine ⟨rfl, ?_⟩
  refine Agrees.bind (.lift (Fallible.agrees_eq _)) fun cleared => ?_
  refine .ite (agrees_throw_bind _ _) ?_
  refine Agrees.bind (.lift (Fallible.agrees_eq _)) fun id => ?_
  refine .ite (agrees_throw_bind _ _) ?_
  refine Agrees.bind (.lift (Fallible.agrees_eq _)) fun mcsrVal => ?_
  refine Agrees.bind (.lift (Fallible.agrees_eq _)) fun _ => ?_
  refine Agrees.bind (.lift (Fallible.agrees_eq _)) fun _ => ?_
  refine Agrees.bind (.lift (Fallible.agrees_eq _)) fun _ => agrees_modify fun _ _ h => h

theorem setLoopback_agrees (on : Bool) :
    (setLoopback on : DriverM ε PhyLan87xx (PhyError ε) Unit).Agrees chip.react (BothAt addr)
      Eq := by
  refine agrees_get_bind ?_
  rintro ⟨_, _⟩ ⟨_, _⟩ ⟨rfl, rfl⟩
  refine ⟨rfl, .ite ?_ ?_⟩
  · exact Agrees.bind (.lift (Fallible.agrees_eq _)) fun _ => agrees_modify fun _ _ h => h
  · exact Agrees.bind (.lift (Fallible.agrees_eq _)) fun _ => .lift (Fallible.agrees_eq _)

/-- **No operation sees `link_up`.** -/
theorem op_agrees (call : Lan87xxCall) :
    (call.op : Operation ε PhyLan87xx).Agrees chip.react (BothAt addr) Eq := by
  have hobserver : call.Observes →
      (call.op : Operation ε PhyLan87xx).Agrees chip.react (BothAt addr) Eq :=
    observer_agrees fun r _ => Fallible.agrees_eq _
  cases call with
  | init => exact Operation.phy_agrees init_agrees _
  | setLoopback on => exact Operation.phy_agrees (setLoopback_agrees on) _
  | pollLink => exact hobserver trivial
  | capabilities => exact hobserver trivial
  | phyId => exact hobserver trivial

end PhyLan87xx

/-! ## Deleting observers -/

/-- **Observers are transparent**, for both drivers: any of their calls may be deleted from
a run, wherever they failed.  The other calls, under the same circumstances, return the
same, and the contents of the chip at the end are the same but for the latch.  The
environment may change them between the calls. -/
theorem observers_transparent :
    (∀ (W Γ : Type) (chip : Lan867xChip W Γ) (phy : PhyLan867x) (x : Latch × Γ)
      (steps : List (Markable Lan867xCall.Observes (Γ → Γ) ε W)),
      let machine := fun i : Markable Lan867xCall.Observes (Γ → Γ) ε W =>
        Step.serve (chip.react phy.addr) Lan867xCall.op (fun f x => (x.1, f x.2)) i.step
      let full := Machine.play machine steps (phy, x)
      let purged := Machine.play machine (steps.filter fun i => !i.deleted) (phy, x)
      (full.1.filter fun e => !e.1.deleted) = purged.1 ∧
        full.2.2.2 = purged.2.2.2 ∧ full.2.1 = purged.2.1) ∧
    (∀ (W X : Type) (phy : PhyLan87xx) (chip : Lan87xxChip phy.addr W X) (x : X)
      (steps : List (Markable Lan87xxCall.Observes (X → X) ε W)),
      let machine := fun i : Markable Lan87xxCall.Observes (X → X) ε W =>
        Step.serve chip.react Lan87xxCall.op (fun f x => f x) i.step
      let full := Machine.play machine steps (phy, x)
      let purged := Machine.play machine (steps.filter fun i => !i.deleted) (phy, x)
      (full.1.filter fun e => !e.1.deleted) = purged.1 ∧
        full.2.2 = purged.2.2 ∧ full.2.1.addr = purged.2.1.addr) := by
  constructor
  · intro W Γ chip phy x steps
    have hobserve : ∀ c : Lan867xCall, c.Observes → ∀ o o' x y,
        PhyLan867x.SameAt phy.addr o o' → Lan867xChip.OnContents Eq x y →
        (c.op o : Program Txn.Reply ε _).Agree (chip.react phy.addr) (c.op o) x x
          fun r _ x' _ => PhyLan867x.SameAt phy.addr r.2 o' ∧
            Lan867xChip.OnContents Eq x' y := by
      rintro c hc o _ ⟨l, γ⟩ ⟨l', _⟩ ⟨rfl, haddr⟩ rfl
      -- the driver stays `o` and the contents stay `γ`
      have hagrees : (c.op : Operation ε PhyLan867x).Agrees (chip.react phy.addr)
          (fun k k' => k = o ∧ k' = o)
          (Lan867xChip.OnContents fun g g' => g = γ ∧ g' = γ) := by
        refine PhyLan867x.observer_agrees ?_ ?_ hc
        · rintro k k' ⟨rfl, rfl⟩
          exact ⟨rfl, haddr⟩
        · rintro g g' ⟨rfl, rfl⟩
          rfl
      refine (hagrees o o _ _ ⟨rfl, rfl⟩ ⟨rfl, rfl⟩).mono ?_
      rintro r r' x' y' ⟨-, ⟨ho, -⟩, hg, -⟩
      exact ⟨⟨ho, by rw [ho, haddr]⟩, hg⟩
    obtain ⟨hlog, hsame, hcontents⟩ := observers_deletable
      (fun (f : Γ → Γ) (x : Latch × Γ) => (x.1, f x.2)) PhyLan867x.op_agrees hobserve
      (fun f x y h => congrArg f h) steps (o := phy) (x := x) ⟨rfl, rfl⟩ rfl
    exact ⟨hlog, hcontents, hsame.1⟩
  · intro W X phy chip x steps
    have hobserve : ∀ c : Lan87xxCall, c.Observes → ∀ o o' x y,
        PhyLan87xx.BothAt phy.addr o o' → x = y →
        (c.op o : Program Txn.Reply ε _).Agree chip.react (c.op o) x x
          fun r _ x' _ => PhyLan87xx.BothAt phy.addr r.2 o' ∧ x' = y := by
      rintro c hc o o' x _ ⟨ho, ho'⟩ rfl
      refine (PhyLan87xx.observer_agrees (fun r => PhyLan87xx.mdioRead_quiet x) hc o o x x
        ⟨ho, ho⟩ ⟨rfl, rfl⟩).mono ?_
      rintro r r' x' y' ⟨-, ⟨hr, -⟩, hx, -⟩
      exact ⟨⟨hr, ho'⟩, hx⟩
    obtain ⟨hlog, ⟨haddr, haddr'⟩, hcontents⟩ := observers_deletable
      (fun (f : X → X) (x : X) => f x) PhyLan87xx.op_agrees hobserve
      (fun f x y h => congrArg f h) steps (o := phy) (x := x) ⟨rfl, rfl⟩ rfl
    exact ⟨hlog, hcontents, haddr.trans haddr'.symm⟩

/-- A session of the simulated LAN8670. -/
def play867x (steps : List (Markable Lan867xCall.Observes (RegFile → RegFile) String Unit)) :
    PhyLan867x × Latch × RegFile :=
  (Machine.play (fun i : Markable Lan867xCall.Observes (RegFile → RegFile) String Unit =>
    Step.serve (Lan867xChip.lan8670.react 3) Lan867xCall.op (fun f x => (x.1, f x.2)) i.step)
    steps (PhyLan867x.new 3, ⟨fnctnData, 7, 2⟩, staleChip.mmd)).2

/-- A session of the simulated LAN8720A. -/
def play87xx (steps : List (Markable Lan87xxCall.Observes (Registers → Registers) String Unit)) :
    PhyLan87xx × Registers :=
  (Machine.play (fun i : Markable Lan87xxCall.Observes (Registers → Registers) String Unit =>
    Step.serve (Lan87xxChip.lan8720a 1).react Lan87xxCall.op (fun f x => f x) i.step)
    steps (PhyLan87xx.new 1, SimulatedLan87xx.lan8720a)).2

/-- The LAN8670 is initialised, a `plcaStatus` is lost half-way, PLCA is configured, and a
`pollLink` is not confirmed.  The two observers are to be deleted. -/
def observed867x : List (Markable Lan867xCall.Observes (RegFile → RegFile) String Unit) :=
  let lost : Script String Unit := fun n => if n = 5 then .lost "timeout" else .answered ()
  let unconfirmed : Script String Unit :=
    fun n => if n = 2 then .unconfirmed () "timeout" else .answered ()
  [⟨.call .init fun _ => .answered (), false, nofun⟩,
    ⟨.call .plcaStatus lost, true, fun _ => ⟨_, _, rfl, trivial⟩⟩,
    ⟨.call (.configurePlca ⟨1, 4, 0, 0⟩) fun _ => .answered (), false, nofun⟩,
    ⟨.call .pollLink unconfirmed, true, fun _ => ⟨_, _, rfl, trivial⟩⟩]

/-- The LAN8720A is initialised, its cable is pulled, and a poll finds so.  The poll is to
be deleted. -/
def observed87xx : List (Markable Lan87xxCall.Observes (Registers → Registers) String Unit) :=
  let unplug : Registers → Registers := fun c => Function.update c Ieee802_3.regs.bmsr 0
  [⟨.call .init fun _ => .answered (), false, nofun⟩, ⟨.environment unplug, false, nofun⟩,
    ⟨.call .pollLink fun _ => .answered (), true, fun _ => ⟨_, _, rfl, trivial⟩⟩]

/-- Both are conforming chips, and end as they do without the observers. -/
theorem observers_transparent_simulated :
    ((Lan867xChip.lan8670.react 3).handler.Conforms (Lan867x.device (ε := String) True
        (Lan867x.lan867x SimulatedChip.datasheet) 3) (fun s => Lan867xChip.silicon s.2) ∧
      (play867x observed867x).1 = ⟨3, some .lan8670, some 1⟩ ∧
      (play867x observed867x).2.2 =
        (play867x (observed867x.filter fun i => !i.deleted)).2.2) ∧
    ((Lan87xxChip.lan8720a 1).react.handler.Conforms (Device.faulty (ε := String) True
        (Registers.Drift ∅) (Registers.Effect ∅ 1)) (fun s => s.2) ∧
      (play87xx observed87xx).2 = (play87xx (observed87xx.filter fun i => !i.deleted)).2) := by
  have h867x : ∀ steps, (play867x steps).2.2 =
      (play867x (steps.filter fun i => !i.deleted)).2.2 := fun steps =>
    (observers_transparent.1 Unit RegFile Lan867xChip.lan8670 (PhyLan867x.new 3)
      (⟨fnctnData, 7, 2⟩, staleChip.mmd) steps).2.1
  have h87xx : ∀ steps, (play87xx steps).2 =
      (play87xx (steps.filter fun i => !i.deleted)).2 := fun steps =>
    (observers_transparent.2 Unit Registers (PhyLan87xx.new 1) (Lan87xxChip.lan8720a 1)
      SimulatedLan87xx.lan8720a steps).2.1
  exact ⟨⟨Lan867xChip.lan8670_conforms 3, by decide +kernel, h867x observed867x⟩,
    Lan87xxChip.lan8720a_conforms ∅ 1, h87xx observed87xx⟩

end EthPhy
