import EthPhy.FailStop
import EthPhy.Lan867x
import EthPhy.Lan87xx
import EthPhy.Plan

/-!
# Operations as data

A run of a driver is a list of calls, so each driver's operations are gathered
in one type, with the program each stands for.  A call answers with a
`Response`: what the operation returned, under the error type it has in the
source.
-/

namespace EthPhy
open Interaction

variable {ε : Type}

/-- What an operation returns when it succeeds. -/
inductive Value where
  | unit
  | link (l : LinkState)
  | capabilities (c : PhyCapabilities)
  | id (i : U32)
  | status (s : PlcaStatus)
  | flag (b : Bool)
  deriving DecidableEq, Repr

/-- What an operation returns: a `PhyDriver` operation, a PLCA operation, or a
helper function of `ieee802_3`, which passes the bus error on as it is. -/
inductive Response (ε : Type) where
  | phy (r : Except (PhyError ε) Value)
  | plca (r : Except (PlcaError ε) Value)
  | raw (r : Except ε Value)

/-- The bus error a response reports. -/
def Response.bus? : Response ε → Option ε
  | phy r => reported PhyError.bus? r
  | plca r => reported PlcaError.bus? r
  | raw r => reported some r

/-- The operation succeeded. -/
def Response.isOk : Response ε → Bool
  | phy (.ok _) | plca (.ok _) | raw (.ok _) => true
  | _ => false

/-- An operation of a driver, answering with its response and the driver's new
fields. -/
abbrev Operation (ε S : Type) : Type := S → Program Txn.Reply ε (Response ε × S)

namespace Operation

variable {S α : Type}

/-- A `PhyDriver` operation. -/
def phy (m : DriverM ε S (PhyError ε) α) (value : α → Value) : Operation ε S :=
  fun s => (m.on s).bind (fun r => .done (.phy (r.1.map value), r.2))

/-- A PLCA operation. -/
def plca (m : DriverM ε S (PlcaError ε) α) (value : α → Value) : Operation ε S :=
  fun s => (m.on s).bind (fun r => .done (.plca (r.1.map value), r.2))

/-- A helper function, called beside the driver. -/
def raw (x : Mdio ε α) (value : α → Value) : Operation ε S :=
  fun s => x.run.bind (fun r => .done (.raw (r.map value), s))

end Operation

/-- The operations of `PhyLan867x`. -/
inductive Lan867xCall where
  | init
  | pollLink
  | capabilities
  | phyId
  | configurePlca (config : PlcaConfig)
  | disablePlca
  | plcaStatus
  deriving DecidableEq, Repr

/-- The operation a call stands for. -/
def Lan867xCall.op : Lan867xCall → Operation ε PhyLan867x
  | init => .phy PhyLan867x.init fun _ => .unit
  | pollLink => .phy PhyLan867x.pollLink .link
  | capabilities => .phy PhyLan867x.capabilities .capabilities
  | phyId => .phy PhyLan867x.phyId .id
  | configurePlca config => .plca (PhyLan867x.configurePlca config) fun _ => .unit
  | disablePlca => .plca PhyLan867x.disablePlca fun _ => .unit
  | plcaStatus => .plca PhyLan867x.plcaStatus .status

/-- The operations of `PhyLan87xx`. -/
inductive Lan87xxCall where
  | init
  | pollLink
  | capabilities
  | phyId
  | setLoopback (on : Bool)
  deriving DecidableEq, Repr

/-- The operation a call stands for. -/
def Lan87xxCall.op : Lan87xxCall → Operation ε PhyLan87xx
  | init => .phy PhyLan87xx.init fun _ => .unit
  | pollLink => .phy PhyLan87xx.pollLink .link
  | capabilities => .phy PhyLan87xx.capabilities .capabilities
  | phyId => .phy PhyLan87xx.phyId .id
  | setLoopback on => .phy (PhyLan87xx.setLoopback on) fun _ => .unit

/-- The helper functions of `ieee802_3`. -/
inductive HelperCall where
  | softReset (maxAttempts : U32)
  | isLinkUp
  | enableAutoNegotiation
  | readPhyId
  | readCapabilities
  | forceLink (speed : Speed) (duplex : Duplex)
  deriving DecidableEq, Repr

/-- The operation a call stands for, on the PHY at `phyAddr`. -/
def HelperCall.op {S : Type} (phyAddr : U8) : HelperCall → Operation ε S
  | softReset n => .raw (Ieee802_3.softReset phyAddr n) .flag
  | isLinkUp => .raw (Ieee802_3.isLinkUp phyAddr) .flag
  | enableAutoNegotiation => .raw (Ieee802_3.enableAutoNegotiation phyAddr) fun _ => .unit
  | readPhyId => .raw (Ieee802_3.readPhyId phyAddr) .id
  | readCapabilities => .raw (Ieee802_3.readCapabilities phyAddr) .capabilities
  | forceLink s d => .raw (Ieee802_3.forceLink phyAddr s d) fun _ => .unit

/-! ## Operations that follow a plan -/

namespace Operation

variable {S α σ F : Type} {D : Device Txn.Reply ε σ} {R : F → σ → Prop} {strict strict' : Prop}
  {f : F} {p : List F} {s : S} {Q : Response ε → S → Prop} {value : α → Value} {c : σ}

/-- A `PhyDriver` operation that follows a plan, as a call. -/
theorem phy_follows {m : DriverM ε S (PhyError ε) α}
    (hm : m.Follows D R strict f s p fun r s' => Q (.phy (r.map value)) s')
    (hs : strict' → strict) (hc : R f c) :
    (Operation.phy m value s).Ensures D c fun l r c' =>
      Progress R strict' f p (r.1.isOk = true) l c' ∧ Q r.1 r.2 := by
  refine (Program.ensures_map _ _ c).mpr ((hm c hc).mono ?_)
  rintro l ⟨r, s'⟩ c' ⟨hprog, hQ⟩
  cases r <;> exact ⟨hprog.relax hs, hQ⟩

/-- A PLCA operation that follows a plan, as a call. -/
theorem plca_follows {m : DriverM ε S (PlcaError ε) α}
    (hm : m.Follows D R strict f s p fun r s' => Q (.plca (r.map value)) s')
    (hs : strict' → strict) (hc : R f c) :
    (Operation.plca m value s).Ensures D c fun l r c' =>
      Progress R strict' f p (r.1.isOk = true) l c' ∧ Q r.1 r.2 := by
  refine (Program.ensures_map _ _ c).mpr ((hm c hc).mono ?_)
  rintro l ⟨r, s'⟩ c' ⟨hprog, hQ⟩
  cases r <;> exact ⟨hprog.relax hs, hQ⟩

/-- A helper function that follows a plan, as a call. -/
theorem raw_follows {x : Mdio ε α} {Φ : α → Prop} (hx : x.Follows D R strict f p Φ)
    (hs : strict' → strict) (hc : R f c) :
    (Operation.raw x value s).Ensures D c fun l r c' =>
      Progress R strict' f p (r.1.isOk = true) l c' ∧ r.2 = s := by
  refine (Program.ensures_map _ _ c).mpr ((hx c hc).mono ?_)
  rintro l r c' ⟨hprog, -⟩
  cases r <;> exact ⟨hprog.relax hs, rfl⟩

end Operation

end EthPhy
