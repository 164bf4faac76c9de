import EthPhy.Operations
import EthPhy.Product

/-!
# Drivers on one bus do not interfere

Every transaction of a driver is addressed to its own PHY: each operation, and each
helper function called with the driver's address, only uses that address
(`Driver.op_uses`).  On a bus that is a product of devices, one for each address, two
drivers with different addresses therefore do not notice each other
(`drivers_do_not_interfere`).
-/

namespace EthPhy
open Interaction

variable {ε : Type}

/-- The transaction is addressed to PHY `a`. -/
def Addressed (a : U8) (t : Txn) : Prop := t.phyAddr = a

theorem mdioRead_uses (a r : U8) : (mdioRead a r : Mdio ε U16).Uses (Addressed a) :=
  Fallible.uses_request rfl

theorem mdioWrite_uses (a r : U8) (v : U16) : (mdioWrite a r v : Mdio ε Unit).Uses (Addressed a) :=
  Fallible.uses_request rfl

/-! ## Helper functions -/

namespace Ieee802_3

theorem softReset_uses (a : U8) (n : U32) : (softReset a n : Mdio ε Bool).Uses (Addressed a) := by
  refine (mdioWrite_uses _ _ _).bind fun _ => ?_
  induction n.toNat with
  | zero => exact Fallible.uses_pure false
  | succ n ih =>
    refine (mdioRead_uses a regs.bmcr).bind fun val => ?_
    split
    · exact Fallible.uses_pure true
    · exact ih

theorem isLinkUp_uses (a : U8) : (isLinkUp a : Mdio ε Bool).Uses (Addressed a) :=
  (mdioRead_uses _ _).bind fun _ => Fallible.uses_pure _

theorem enableAutoNegotiation_uses (a : U8) :
    (enableAutoNegotiation a : Mdio ε Unit).Uses (Addressed a) :=
  (mdioRead_uses _ _).bind fun _ => mdioWrite_uses _ _ _

theorem readPhyId_uses (a : U8) : (readPhyId a : Mdio ε U32).Uses (Addressed a) :=
  (mdioRead_uses _ _).bind fun _ => (mdioRead_uses _ _).bind fun _ => Fallible.uses_pure _

theorem readCapabilities_uses (a : U8) :
    (readCapabilities a : Mdio ε PhyCapabilities).Uses (Addressed a) :=
  (mdioRead_uses _ _).bind fun _ => Fallible.uses_pure _

theorem forceLink_uses (a : U8) (s : Speed) (d : Duplex) :
    (forceLink a s d : Mdio ε Unit).Uses (Addressed a) :=
  (mdioRead_uses _ _).bind fun _ => mdioWrite_uses _ _ _

end Ieee802_3

namespace Lan867x

theorem mmdSelect_uses (a d : U8) (r : U16) : (mmdSelect a d r : Mdio ε Unit).Uses (Addressed a) :=
  (mdioWrite_uses _ _ _).bind fun _ => (mdioWrite_uses _ _ _).bind fun _ => mdioWrite_uses _ _ _

theorem mmdRead_uses (a d : U8) (r : U16) : (mmdRead a d r : Mdio ε U16).Uses (Addressed a) :=
  (mmdSelect_uses a d r).bind fun _ => mdioRead_uses _ _

theorem mmdWrite_uses (a d : U8) (r v : U16) :
    (mmdWrite a d r v : Mdio ε Unit).Uses (Addressed a) :=
  (mmdSelect_uses a d r).bind fun _ => mdioWrite_uses _ _ _

theorem mmdRmw_uses (a d : U8) (r clear set : U16) :
    (mmdRmw a d r clear set : Mdio ε Unit).Uses (Addressed a) :=
  (mmdRead_uses a d r).bind fun _ => mmdWrite_uses _ _ _ _

end Lan867x

/-! ## The LAN867x driver -/

namespace PhyLan867x
open Lan867x Method

variable {a : U8}

theorem pollResetc_uses (n : Nat) : (pollResetc a n : Mdio ε Bool).Uses (Addressed a) := by
  induction n with
  | zero => exact Fallible.uses_pure false
  | succ n ih =>
    refine (mmdRead_uses _ _ _).bind fun sts2 => ?_
    split
    · exact Fallible.uses_pure true
    · exact ih

theorem init_uses : (init : DriverM ε PhyLan867x (PhyError ε) Unit).Uses (Addressed a)
    fun self => self.addr = a := by
  refine Uses.bind (uses_modify ?_) fun _ => uses_get_bind ?_
  · exact fun self h => h
  rintro self rfl
  refine Uses.bind (.lift (Ieee802_3.softReset_uses _ _)) fun cleared => ?_
  refine .ite (uses_throw_bind _ _) ?_
  refine Uses.bind (.lift (pollResetc_uses 500)) fun gotResetc => ?_
  refine .ite (uses_throw_bind _ _) ?_
  refine Uses.bind (.lift (Ieee802_3.readPhyId_uses _)) fun id => ?_
  refine .ite (uses_throw_bind _ _) ?_
  refine Uses.bind (.lift (mdioRead_uses _ _)) fun strap => ?_
  split
  · exact uses_throw _
  · refine Uses.bind (.lift (mmdRead_uses _ _ _)) fun midver => ?_
    refine .ite (uses_throw_bind _ _) ?_
    exact Uses.bind (.lift (mmdRmw_uses _ _ _ _ _)) fun _ => uses_modify fun _ h => h

theorem pollLink_uses : (pollLink : DriverM ε PhyLan867x (PhyError ε) LinkState).Uses
    (Addressed a) fun self => self.addr = a := by
  refine uses_get_bind ?_
  rintro self rfl
  split
  · exact uses_pure _
  · exact uses_pure _
  · refine Uses.bind (.lift (mmdRead_uses _ _ _)) fun sts => ?_
    exact .ite (uses_pure _) (uses_pure _)

theorem capabilities_uses : (capabilities : DriverM ε PhyLan867x (PhyError ε) PhyCapabilities).Uses
    (Addressed a) fun self => self.addr = a := by
  refine uses_get_bind ?_
  rintro self rfl
  exact .lift (Ieee802_3.readCapabilities_uses _)

theorem phyId_uses : (phyId : DriverM ε PhyLan867x (PhyError ε) U32).Uses
    (Addressed a) fun self => self.addr = a := by
  refine uses_get_bind ?_
  rintro self rfl
  exact .lift (Ieee802_3.readPhyId_uses _)

theorem configurePlca_uses (config : PlcaConfig) :
    (configurePlca config : DriverM ε PhyLan867x (PlcaError ε) Unit).Uses
      (Addressed a) fun self => self.addr = a := by
  refine .ite (uses_throw_bind _ _) (.ite (uses_throw_bind _ _) (uses_get_bind ?_))
  rintro self rfl
  refine Uses.bind (.lift (mmdWrite_uses _ _ _ _)) fun _ => ?_
  refine Uses.bind (.lift (mmdWrite_uses _ _ _ _)) fun _ => ?_
  exact Uses.bind (.lift (mmdRmw_uses _ _ _ _ _)) fun _ => uses_modify fun _ h => h

theorem disablePlca_uses : (disablePlca : DriverM ε PhyLan867x (PlcaError ε) Unit).Uses
    (Addressed a) fun self => self.addr = a := by
  refine uses_get_bind ?_
  rintro self rfl
  exact Uses.bind (.lift (mmdRmw_uses _ _ _ _ _)) fun _ => uses_modify fun _ h => h

theorem plcaStatus_uses : (plcaStatus : DriverM ε PhyLan867x (PlcaError ε) PlcaStatus).Uses
    (Addressed a) fun self => self.addr = a := by
  refine uses_get_bind ?_
  rintro self rfl
  refine Uses.bind (.lift (mmdRead_uses _ _ _)) fun _ => ?_
  refine Uses.bind (.lift (mmdRead_uses _ _ _)) fun _ => ?_
  exact Uses.bind (.lift (mmdRead_uses _ _ _)) fun _ => uses_pure _

end PhyLan867x

/-! ## The LAN87xx driver -/

namespace PhyLan87xx
open Lan87xx Ieee802_3 Method

variable {a : U8}

theorem setLoopback_uses (on : Bool) :
    (setLoopback on : DriverM ε PhyLan87xx (PhyError ε) Unit).Uses
      (Addressed a) fun self => self.addr = a := by
  refine uses_get_bind ?_
  rintro self rfl
  refine .ite ?_ ?_
  · exact Uses.bind (.lift (mdioWrite_uses _ _ _)) fun _ => uses_modify fun _ h => h
  · exact Uses.bind (.lift (mdioRead_uses _ _)) fun _ => .lift (mdioWrite_uses _ _ _)

theorem init_uses : (init : DriverM ε PhyLan87xx (PhyError ε) Unit).Uses
    (Addressed a) fun self => self.addr = a := by
  refine uses_get_bind ?_
  rintro self rfl
  refine Uses.bind (.lift (softReset_uses _ _)) fun cleared => ?_
  refine .ite (uses_throw_bind _ _) ?_
  refine Uses.bind (.lift (readPhyId_uses _)) fun id => ?_
  refine .ite (uses_throw_bind _ _) ?_
  refine Uses.bind (.lift (mdioRead_uses _ _)) fun mcsrVal => ?_
  refine Uses.bind (.lift (mdioWrite_uses _ _ _)) fun _ => ?_
  refine Uses.bind (.lift (mdioWrite_uses _ _ _)) fun _ => ?_
  exact Uses.bind (.lift (enableAutoNegotiation_uses _)) fun _ => uses_modify fun _ h => h

theorem reportDown_uses : (reportDown : DriverM ε PhyLan87xx (PhyError ε) LinkState).Uses
    (Addressed a) fun self => self.addr = a :=
  Uses.bind (uses_modify fun _ h => h) fun _ => uses_pure _

theorem reportUp_uses (s : Speed) (d : Duplex) :
    (reportUp s d : DriverM ε PhyLan87xx (PhyError ε) LinkState).Uses
      (Addressed a) fun self => self.addr = a :=
  Uses.bind (uses_modify fun _ h => h) fun _ => uses_pure _

theorem pollLink_uses : (pollLink : DriverM ε PhyLan87xx (PhyError ε) LinkState).Uses
    (Addressed a) fun self => self.addr = a := by
  refine uses_get_bind ?_
  rintro self rfl
  refine Uses.bind (.lift (isLinkUp_uses _)) fun up => .ite reportDown_uses ?_
  refine Uses.bind (.lift (mdioRead_uses _ _)) fun bmcrVal => ?_
  refine .ite ?_ (reportUp_uses _ _)
  refine Uses.bind (.lift (mdioRead_uses _ _)) fun pscsrVal => ?_
  refine .ite reportDown_uses ?_
  split
  · exact reportUp_uses _ _
  · exact reportDown_uses

theorem capabilities_uses : (capabilities : DriverM ε PhyLan87xx (PhyError ε) PhyCapabilities).Uses
    (Addressed a) fun self => self.addr = a := by
  refine uses_get_bind ?_
  rintro self rfl
  exact .lift (readCapabilities_uses _)

theorem phyId_uses : (phyId : DriverM ε PhyLan87xx (PhyError ε) U32).Uses
    (Addressed a) fun self => self.addr = a := by
  refine uses_get_bind ?_
  rintro self rfl
  exact .lift (readPhyId_uses _)

end PhyLan87xx

/-! ## The two drivers, with the helper functions -/

section Calls

variable {S α : Type} {value : α → Value} {Q : S → Prop} {P : Txn → Prop} {s : S}

theorem Operation.phy_uses {m : DriverM ε S (PhyError ε) α} (hm : m.Uses P Q) (hs : Q s) :
    (Operation.phy m value s).Uses P fun r => Q r.2 := (hm s hs).bind fun _ h => h

theorem Operation.plca_uses {m : DriverM ε S (PlcaError ε) α} (hm : m.Uses P Q) (hs : Q s) :
    (Operation.plca m value s).Uses P fun r => Q r.2 := (hm s hs).bind fun _ h => h

theorem Operation.raw_uses {x : Mdio ε α} (hx : x.Uses P) (hs : Q s) :
    (Operation.raw x value s).Uses P fun r => Q r.2 := Program.Uses.bind hx fun _ _ => hs

end Calls

open Operation in
theorem HelperCall.op_uses {S : Type} {Q : S → Prop} (call : HelperCall) (a : U8) {s : S}
    (hs : Q s) : (call.op a s : Program Txn.Reply ε _).Uses (Addressed a) fun r => Q r.2 := by
  cases call with
  | softReset n => exact raw_uses (Ieee802_3.softReset_uses a n) hs
  | isLinkUp => exact raw_uses (Ieee802_3.isLinkUp_uses a) hs
  | enableAutoNegotiation => exact raw_uses (Ieee802_3.enableAutoNegotiation_uses a) hs
  | readPhyId => exact raw_uses (Ieee802_3.readPhyId_uses a) hs
  | readCapabilities => exact raw_uses (Ieee802_3.readCapabilities_uses a) hs
  | forceLink sp d => exact raw_uses (Ieee802_3.forceLink_uses a sp d) hs

/-- A driver of either make. -/
inductive Driver where
  | lan867x
  | lan87xx
  deriving DecidableEq, Repr

namespace Driver

/-- The fields of the driver. -/
def Fields : Driver → Type
  | lan867x => PhyLan867x
  | lan87xx => PhyLan87xx

/-- The address the driver was constructed with. -/
def addr : (k : Driver) → k.Fields → U8
  | lan867x => PhyLan867x.addr
  | lan87xx => PhyLan87xx.addr

/-- What can be called: an operation of the driver, or a helper function with the
driver's address. -/
def Call : Driver → Type
  | lan867x => Lan867xCall ⊕ HelperCall
  | lan87xx => Lan87xxCall ⊕ HelperCall

/-- The operation a call stands for. -/
def op : (k : Driver) → k.Call → Operation ε k.Fields
  | lan867x, .inl call => call.op
  | lan867x, .inr call => fun self => call.op self.addr self
  | lan87xx, .inl call => call.op
  | lan87xx, .inr call => fun self => call.op self.addr self

open Operation in
/-- **Every operation keeps to the driver's own address.** -/
theorem op_uses {a : U8} (k : Driver) (call : k.Call) (self : k.Fields) (ha : k.addr self = a) :
    (k.op call self : Program Txn.Reply ε _).Uses (Addressed a) fun r => k.addr r.2 = a := by
  subst ha
  match k, call with
  | lan867x, .inl call =>
    cases call with
    | init => exact phy_uses PhyLan867x.init_uses rfl
    | pollLink => exact phy_uses PhyLan867x.pollLink_uses rfl
    | capabilities => exact phy_uses PhyLan867x.capabilities_uses rfl
    | phyId => exact phy_uses PhyLan867x.phyId_uses rfl
    | configurePlca config => exact plca_uses (PhyLan867x.configurePlca_uses config) rfl
    | disablePlca => exact plca_uses PhyLan867x.disablePlca_uses rfl
    | plcaStatus => exact plca_uses PhyLan867x.plcaStatus_uses rfl
  | lan867x, .inr call =>
    exact call.op_uses (Q := fun self' : PhyLan867x => self'.addr = self.addr) self.addr rfl
  | lan87xx, .inl call =>
    cases call with
    | init => exact phy_uses PhyLan87xx.init_uses rfl
    | pollLink => exact phy_uses PhyLan87xx.pollLink_uses rfl
    | capabilities => exact phy_uses PhyLan87xx.capabilities_uses rfl
    | phyId => exact phy_uses PhyLan87xx.phyId_uses rfl
    | setLoopback on => exact phy_uses (PhyLan87xx.setLoopback_uses on) rfl
  | lan87xx, .inr call =>
    exact call.op_uses (Q := fun self' : PhyLan87xx => self'.addr = self.addr) self.addr rfl

end Driver

/-! ## A bus of independent devices -/

/-- The device at one address: an arbitrary state machine with its own replies and
faults. -/
structure MdioDevice (ε σ : Type) where
  read (regAddr : U8) : σ → Except ε U16 × σ
  write (regAddr : U8) (value : U16) : σ → Except ε Unit × σ

/-- The device's answer to a transaction that has reached it. -/
def MdioDevice.handler {σ : Type} (dev : MdioDevice ε σ) : Handler Txn.Reply ε σ
  | .read _ r => dev.read r
  | .write _ r v => dev.write r v

/-- **A bus with a device of its own at each address.** -/
def productBus {σ : U8 → Type} (dev : (a : U8) → MdioDevice ε (σ a)) :
    MdioBus ε ((a : U8) → σ a) where
  read a r s := (((dev a).read r (s a)).1, Function.update s a ((dev a).read r (s a)).2)
  write a r v s := (((dev a).write r v (s a)).1, Function.update s a ((dev a).write r v (s a)).2)

theorem productBus_handler {σ : U8 → Type} (dev : (a : U8) → MdioDevice ε (σ a)) :
    (productBus dev).handler = Handler.product Txn.phyAddr fun a => (dev a).handler := by
  funext t s
  cases t <;> rfl

/-- **Drivers with different addresses do not interfere**: on a bus of independent
devices, however the calls of the two are interleaved, the results of each, its
fields and its device are in the end those of its own calls alone. -/
theorem drivers_do_not_interfere {σ : U8 → Type} (dev : (a : U8) → MdioDevice ε (σ a))
    (k l : Driver) (phy : k.Fields) (phy' : l.Fields) (haddr : k.addr phy ≠ l.addr phy')
    (calls : List (k.Call ⊕ l.Call)) (s : (a : U8) → σ a) :
    let bus := (productBus dev).handler
    let both := ((serve bus k.op).beside (serve bus l.op)).play calls (phy, phy', s)
    let left := (serve bus k.op).play (calls.filterMap Sum.getLeft?) (phy, s)
    let right := (serve bus l.op).play (calls.filterMap Sum.getRight?) (phy', s)
    (both.1.filterMap leftEntry = left.1 ∧ both.2.1 = left.2.1 ∧
      both.2.2.2 (k.addr phy) = left.2.2 (k.addr phy)) ∧
    (both.1.filterMap rightEntry = right.1 ∧ both.2.2.1 = right.2.1 ∧
      both.2.2.2 (l.addr phy') = right.2.2 (l.addr phy')) := by
  rw [productBus_handler]
  exact beside_product k.op_uses l.op_uses haddr calls rfl rfl rfl rfl

/-- A device that counts its transactions, and does not acknowledge every fifth. -/
def countingDevice : MdioDevice String Nat where
  read _ n := (if n % 5 = 4 then .error "nack" else .ok (BitVec.ofNat 16 n), n + 1)
  write _ _ n := (if n % 5 = 4 then .error "nack" else .ok (), n + 1)

/-- A LAN867x at address 3 does not notice a LAN87xx at address 1. -/
theorem drivers_do_not_interfere_counting :
    let bus := (productBus fun _ => countingDevice).handler
    let calls : List (Driver.lan867x.Call ⊕ Driver.lan87xx.Call) :=
      [.inl (.inl .init), .inr (.inr .enableAutoNegotiation), .inl (.inl .disablePlca),
        .inr (.inl .pollLink), .inl (.inr .readPhyId)]
    let both := ((serve bus Driver.lan867x.op).beside (serve bus Driver.lan87xx.op)).play calls
      (PhyLan867x.new 3, PhyLan87xx.new 1, fun _ => 0)
    let left := (serve bus Driver.lan867x.op).play (calls.filterMap Sum.getLeft?)
      (PhyLan867x.new 3, fun _ => 0)
    both.1.filterMap leftEntry = left.1 ∧ both.2.1 = left.2.1 ∧ both.2.2.2 3 = left.2.2 3 :=
  (drivers_do_not_interfere (fun _ => countingDevice) .lan867x .lan87xx (PhyLan867x.new 3)
    (PhyLan87xx.new 1) (show (3 : U8) ≠ 1 by decide) _ fun _ => 0).1

end EthPhy
