import EthPhy.Operations

/-!
# Every operation is fail-stop and passes bus errors on

No operation of the two drivers, and no helper function, retries a transaction,
drops an error or goes on after one.  Each is built with the `?` operator from
single transactions, so each is fail-stop; the drivers' own errors are never
mistaken for errors of the bus.
-/

namespace EthPhy
open Interaction

variable {ε : Type}

theorem mdioRead_failStop (a r : U8) : (mdioRead a r : Mdio ε U16).FailStop :=
  Fallible.failStop_request _

theorem mdioWrite_failStop (a r : U8) (v : U16) : (mdioWrite a r v : Mdio ε Unit).FailStop :=
  Fallible.failStop_request _

/-! ## Helper functions -/

namespace Ieee802_3

theorem pollReset_failStop (a : U8) (n : Nat) : (pollReset a n : Mdio ε Bool).FailStop := by
  induction n with
  | zero => exact Fallible.failStop_pure false
  | succ n ih =>
    refine (mdioRead_failStop a regs.bmcr).bind fun val => ?_
    split
    · exact Fallible.failStop_pure true
    · exact ih

theorem softReset_failStop (a : U8) (n : U32) : (softReset a n : Mdio ε Bool).FailStop :=
  (mdioWrite_failStop _ _ _).bind fun _ => pollReset_failStop a n.toNat

theorem isLinkUp_failStop (a : U8) : (isLinkUp a : Mdio ε Bool).FailStop :=
  (mdioRead_failStop _ _).bind fun _ => Fallible.failStop_pure _

theorem enableAutoNegotiation_failStop (a : U8) :
    (enableAutoNegotiation a : Mdio ε Unit).FailStop :=
  (mdioRead_failStop _ _).bind fun _ => mdioWrite_failStop _ _ _

theorem readPhyId_failStop (a : U8) : (readPhyId a : Mdio ε U32).FailStop :=
  (mdioRead_failStop _ _).bind fun _ => (mdioRead_failStop _ _).bind fun _ =>
    Fallible.failStop_pure _

theorem readCapabilities_failStop (a : U8) :
    (readCapabilities a : Mdio ε PhyCapabilities).FailStop :=
  (mdioRead_failStop _ _).bind fun _ => Fallible.failStop_pure _

theorem forceLink_failStop (a : U8) (s : Speed) (d : Duplex) :
    (forceLink a s d : Mdio ε Unit).FailStop :=
  (mdioRead_failStop _ _).bind fun _ => mdioWrite_failStop _ _ _

end Ieee802_3

namespace Lan867x

theorem mmdSelect_failStop (a d : U8) (r : U16) : (mmdSelect a d r : Mdio ε Unit).FailStop :=
  (mdioWrite_failStop _ _ _).bind fun _ => (mdioWrite_failStop _ _ _).bind fun _ =>
    mdioWrite_failStop _ _ _

theorem mmdRead_failStop (a d : U8) (r : U16) : (mmdRead a d r : Mdio ε U16).FailStop :=
  (mmdSelect_failStop a d r).bind fun _ => mdioRead_failStop _ _

theorem mmdWrite_failStop (a d : U8) (r v : U16) : (mmdWrite a d r v : Mdio ε Unit).FailStop :=
  (mmdSelect_failStop a d r).bind fun _ => mdioWrite_failStop _ _ _

theorem mmdRmw_failStop (a d : U8) (r clear set : U16) :
    (mmdRmw a d r clear set : Mdio ε Unit).FailStop :=
  (mmdRead_failStop a d r).bind fun _ => mmdWrite_failStop _ _ _ _

end Lan867x

/-! ## The LAN867x driver -/

/-- A helper function called from a `PhyDriver` operation. -/
theorem failStop_lift_phy {S α : Type} {x : Mdio ε α} (hx : x.FailStop) :
    (Method.lift .mdio x : DriverM ε S (PhyError ε) α).FailStop PhyError.bus? :=
  Method.FailStop.lift hx fun _ => rfl

/-- A helper function called from a PLCA operation. -/
theorem failStop_lift_plca {S α : Type} {x : Mdio ε α} (hx : x.FailStop) :
    (Method.lift .mdio x : DriverM ε S (PlcaError ε) α).FailStop PlcaError.bus? :=
  Method.FailStop.lift hx fun _ => rfl

namespace PhyLan867x
open Lan867x Method

theorem pollResetc_failStop (a : U8) (n : Nat) : (pollResetc a n : Mdio ε Bool).FailStop := by
  induction n with
  | zero => exact Fallible.failStop_pure false
  | succ n ih =>
    refine (mmdRead_failStop _ _ _).bind fun sts2 => ?_
    split
    · exact Fallible.failStop_pure true
    · exact ih

theorem init_failStop :
    (init : DriverM ε PhyLan867x (PhyError ε) Unit).FailStop PhyError.bus? := by
  refine (failStop_modify _).bind fun _ => failStop_get.bind fun self => ?_
  refine (failStop_lift_phy (Ieee802_3.softReset_failStop _ _)).bind fun cleared => ?_
  refine .ite (failStop_throw_bind rfl _) ?_
  refine (failStop_lift_phy (pollResetc_failStop _ _)).bind fun gotResetc => ?_
  refine .ite (failStop_throw_bind rfl _) ?_
  refine (failStop_lift_phy (Ieee802_3.readPhyId_failStop _)).bind fun id => ?_
  refine .ite (failStop_throw_bind rfl _) ?_
  refine (failStop_lift_phy (mdioRead_failStop _ _)).bind fun strap => ?_
  split
  · exact failStop_throw rfl
  · refine (failStop_lift_phy (mmdRead_failStop _ _ _)).bind fun midver => ?_
    refine .ite (failStop_throw_bind rfl _) ?_
    exact (failStop_lift_phy (mmdRmw_failStop _ _ _ _ _)).bind fun _ => failStop_modify _

theorem pollLink_failStop :
    (pollLink : DriverM ε PhyLan867x (PhyError ε) LinkState).FailStop PhyError.bus? := by
  refine failStop_get.bind fun self => ?_
  split
  · exact failStop_pure _
  · exact failStop_pure _
  · refine (failStop_lift_phy (mmdRead_failStop _ _ _)).bind fun sts => ?_
    exact .ite (failStop_pure _) (failStop_pure _)

theorem configurePlca_failStop (config : PlcaConfig) :
    (configurePlca config : DriverM ε PhyLan867x (PlcaError ε) Unit).FailStop PlcaError.bus? := by
  refine .ite (failStop_throw_bind rfl _) (.ite (failStop_throw_bind rfl _) ?_)
  refine failStop_get.bind fun self => ?_
  refine (failStop_lift_plca (mmdWrite_failStop _ _ _ _)).bind fun _ => ?_
  refine (failStop_lift_plca (mmdWrite_failStop _ _ _ _)).bind fun _ => ?_
  exact (failStop_lift_plca (mmdRmw_failStop _ _ _ _ _)).bind fun _ => failStop_modify _

theorem disablePlca_failStop :
    (disablePlca : DriverM ε PhyLan867x (PlcaError ε) Unit).FailStop PlcaError.bus? :=
  failStop_get.bind fun _ =>
    (failStop_lift_plca (mmdRmw_failStop _ _ _ _ _)).bind fun _ => failStop_modify _

theorem plcaStatus_failStop :
    (plcaStatus : DriverM ε PhyLan867x (PlcaError ε) PlcaStatus).FailStop PlcaError.bus? :=
  failStop_get.bind fun _ =>
    (failStop_lift_plca (mmdRead_failStop _ _ _)).bind fun _ =>
      (failStop_lift_plca (mmdRead_failStop _ _ _)).bind fun _ =>
        (failStop_lift_plca (mmdRead_failStop _ _ _)).bind fun _ => failStop_pure _

end PhyLan867x

/-! ## The LAN87xx driver -/

namespace PhyLan87xx
open Lan87xx Ieee802_3 Method

theorem setLoopback_failStop (on : Bool) :
    (setLoopback on : DriverM ε PhyLan87xx (PhyError ε) Unit).FailStop PhyError.bus? := by
  refine failStop_get.bind fun self => .ite ?_ ?_
  · exact (failStop_lift_phy (mdioWrite_failStop _ _ _)).bind fun _ => failStop_modify _
  · exact (failStop_lift_phy (mdioRead_failStop _ _)).bind fun _ =>
      failStop_lift_phy (mdioWrite_failStop _ _ _)

theorem init_failStop :
    (init : DriverM ε PhyLan87xx (PhyError ε) Unit).FailStop PhyError.bus? := by
  refine failStop_get.bind fun self => ?_
  refine (failStop_lift_phy (softReset_failStop _ _)).bind fun cleared => ?_
  refine .ite (failStop_throw_bind rfl _) ?_
  refine (failStop_lift_phy (readPhyId_failStop _)).bind fun id => ?_
  refine .ite (failStop_throw_bind rfl _) ?_
  refine (failStop_lift_phy (mdioRead_failStop _ _)).bind fun mcsrVal => ?_
  refine (failStop_lift_phy (mdioWrite_failStop _ _ _)).bind fun _ => ?_
  refine (failStop_lift_phy (mdioWrite_failStop _ _ _)).bind fun _ => ?_
  exact (failStop_lift_phy (enableAutoNegotiation_failStop _)).bind fun _ => failStop_modify _

theorem reportDown_failStop :
    (reportDown : DriverM ε PhyLan87xx (PhyError ε) LinkState).FailStop PhyError.bus? :=
  (failStop_modify _).bind fun _ => failStop_pure _

theorem reportUp_failStop (s : Speed) (d : Duplex) :
    (reportUp s d : DriverM ε PhyLan87xx (PhyError ε) LinkState).FailStop PhyError.bus? :=
  (failStop_modify _).bind fun _ => failStop_pure _

theorem pollLink_failStop :
    (pollLink : DriverM ε PhyLan87xx (PhyError ε) LinkState).FailStop PhyError.bus? := by
  refine failStop_get.bind fun self => ?_
  refine (failStop_lift_phy (isLinkUp_failStop _)).bind fun up => .ite reportDown_failStop ?_
  refine (failStop_lift_phy (mdioRead_failStop _ _)).bind fun bmcrVal => ?_
  refine .ite ?_ (reportUp_failStop _ _)
  refine (failStop_lift_phy (mdioRead_failStop _ _)).bind fun pscsrVal => ?_
  refine .ite reportDown_failStop ?_
  split
  · exact reportUp_failStop _ _
  · exact reportDown_failStop

end PhyLan87xx

/-! ## Every operation -/

section Operations

variable {S α : Type} {value : α → Value}

theorem reported_map {E : Type} (bus? : E → Option ε) (r : Except E α) :
    reported bus? (r.map value) = reported bus? r := by
  cases r <;> rfl

/-- A fail-stop `PhyDriver` operation, as a call. -/
theorem Operation.phy_failStop {m : DriverM ε S (PhyError ε) α}
    (hm : m.FailStop PhyError.bus?) (s : S) :
    (Operation.phy m value s).FailStop (fun r => r.1.bus?) :=
  (hm s).map fun r => reported_map _ r.1

/-- A fail-stop PLCA operation, as a call. -/
theorem Operation.plca_failStop {m : DriverM ε S (PlcaError ε) α}
    (hm : m.FailStop PlcaError.bus?) (s : S) :
    (Operation.plca m value s).FailStop (fun r => r.1.bus?) :=
  (hm s).map fun r => reported_map _ r.1

/-- A fail-stop helper function, as a call. -/
theorem Operation.raw_failStop {x : Mdio ε α} (hx : x.FailStop) (s : S) :
    (Operation.raw x value s).FailStop (fun r => r.1.bus?) :=
  Program.FailStop.map hx fun r => reported_map _ r

end Operations

open Operation in
theorem Lan867xCall.op_failStop (call : Lan867xCall) (self : PhyLan867x) :
    (call.op self : Program Txn.Reply ε _).FailStop (fun r => r.1.bus?) := by
  cases call with
  | init => exact phy_failStop PhyLan867x.init_failStop self
  | pollLink => exact phy_failStop PhyLan867x.pollLink_failStop self
  | capabilities =>
    exact phy_failStop (Method.failStop_get.bind fun _ =>
      failStop_lift_phy (Ieee802_3.readCapabilities_failStop _)) self
  | phyId =>
    exact phy_failStop (Method.failStop_get.bind fun _ =>
      failStop_lift_phy (Ieee802_3.readPhyId_failStop _)) self
  | configurePlca config => exact plca_failStop (PhyLan867x.configurePlca_failStop config) self
  | disablePlca => exact plca_failStop PhyLan867x.disablePlca_failStop self
  | plcaStatus => exact plca_failStop PhyLan867x.plcaStatus_failStop self

open Operation in
theorem Lan87xxCall.op_failStop (call : Lan87xxCall) (self : PhyLan87xx) :
    (call.op self : Program Txn.Reply ε _).FailStop (fun r => r.1.bus?) := by
  cases call with
  | init => exact phy_failStop PhyLan87xx.init_failStop self
  | pollLink => exact phy_failStop PhyLan87xx.pollLink_failStop self
  | capabilities =>
    exact phy_failStop (Method.failStop_get.bind fun _ =>
      failStop_lift_phy (Ieee802_3.readCapabilities_failStop _)) self
  | phyId =>
    exact phy_failStop (Method.failStop_get.bind fun _ =>
      failStop_lift_phy (Ieee802_3.readPhyId_failStop _)) self
  | setLoopback on => exact phy_failStop (PhyLan87xx.setLoopback_failStop on) self

open Operation in
theorem HelperCall.op_failStop {S : Type} (call : HelperCall) (phyAddr : U8) (s : S) :
    (call.op phyAddr s : Program Txn.Reply ε _).FailStop (fun r => r.1.bus?) := by
  cases call with
  | softReset n => exact raw_failStop (Ieee802_3.softReset_failStop _ n) s
  | isLinkUp => exact raw_failStop (Ieee802_3.isLinkUp_failStop _) s
  | enableAutoNegotiation => exact raw_failStop (Ieee802_3.enableAutoNegotiation_failStop _) s
  | readPhyId => exact raw_failStop (Ieee802_3.readPhyId_failStop _) s
  | readCapabilities => exact raw_failStop (Ieee802_3.readCapabilities_failStop _) s
  | forceLink sp d => exact raw_failStop (Ieee802_3.forceLink_failStop _ sp d) s

/-- **Every operation is fail-stop and error-transparent, on every bus**: what it
returns reports exactly the bus errors of its transactions, a transaction that
failed is the last it issued, and unless it reports a bus error every
transaction succeeded. -/
theorem operations_transparent {σ : Type} (bus : MdioBus ε σ) (s : σ) :
    (∀ (self : PhyLan867x) (call : Lan867xCall),
      ((call.op self).run bus.handler s).Transparent (fun r => r.1.bus?)) ∧
    (∀ (self : PhyLan87xx) (call : Lan87xxCall),
      ((call.op self).run bus.handler s).Transparent (fun r => r.1.bus?)) ∧
    (∀ (phyAddr : U8) (call : HelperCall),
      ((call.op phyAddr ()).run bus.handler s).Transparent (fun r => r.1.bus?)) :=
  ⟨fun self call => (call.op_failStop self).transparent bus.handler s,
    fun self call => (call.op_failStop self).transparent bus.handler s,
    fun phyAddr call => (call.op_failStop phyAddr ()).transparent bus.handler s⟩

end EthPhy
