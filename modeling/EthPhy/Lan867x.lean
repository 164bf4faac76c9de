import EthPhy.Ieee8023

/-!
# The LAN867x driver

Registers, Annex 22D MMD indirection, PLCA types and the `PhyLan867x` driver of
`eth-phy-lan867x`, a driver for 10BASE-T1S PHYs.  Most of the chip's state lives
in MMD registers, which a Clause 22 bus reaches in four steps through `MMDCTRL`
and `MMDAD`.
-/

namespace EthPhy
open Interaction

variable {ε : Type}

/-! ## Registers -/

namespace Lan867x

/-- `(PHY_ID0 << 16) | PHY_ID1` under `phyOuiModelMask`, for every family member
and silicon revision. -/
def phyOuiModelLan867x : U32 := 0x0000C560
/-- Mask isolating OUI and model, dropping the silicon-revision nibble. -/
def phyOuiModelMask : U32 := 0xFFFFFFF0

/-- MMD device 1: PMA / PMD layer. -/
def mmdPmaPmd : U8 := 0x01
/-- MMD device 31: Vendor Specific 2. -/
def mmdVs2 : U8 := 0x1F

/-- `FNCTN = 00b`: write the address of the MMD register to access. -/
def mmdctrlFnctnAddr : U16 := 0b00 <<< 14
/-- `FNCTN = 01b`: read or write the MMD register data, no auto-increment. -/
def mmdctrlFnctnData : U16 := 0b01 <<< 14
/-- Mask for the `DEVAD[4:0]` field within `MMDCTRL`. -/
def mmdctrlDevadMask : U16 := 0x001F

/-- Annex 22D indirection control. -/
def regMmdctrl : U8 := 0x0D
/-- Annex 22D address/data window. -/
def regMmdad : U8 := 0x0E
/-- Readback of the `MITYP`, `PKGTYP` and `SMIADR` straps. -/
def regStrapCtrl0 : U8 := 0x12

/-- `STRAP_CTRL0.PKGTYP[1:0]` mask (bits 6:5). -/
def strapCtrl0PkgtypMask : U16 := 0b11 <<< 5
def strapCtrl0PkgtypLan8670 : U16 := 0b01 <<< 5
def strapCtrl0PkgtypLan8671 : U16 := 0b10 <<< 5
def strapCtrl0PkgtypLan8672 : U16 := 0b11 <<< 5

/-- `T1SPMACTL` (MMD 1): 10BASE-T1S PMA control. -/
def mmdRegT1spmactl : U16 := 0x08F9
/-- `T1SPMACTL.MDE`: multidrop enable. -/
def t1spmactlMde : U16 := 1 <<< 10

/-- `STS2` (MMD 31): reset-complete status. -/
def mmdRegSts2 : U16 := 0x0019
/-- `MIDVER` (MMD 31): OPEN Alliance map identifier. -/
def mmdRegMidver : U16 := 0xCA00
/-- `PLCA_CTRL0` (MMD 31): PLCA enable. -/
def mmdRegPlcaCtrl0 : U16 := 0xCA01
/-- `PLCA_CTRL1` (MMD 31): `NCNT` and local `ID`. -/
def mmdRegPlcaCtrl1 : U16 := 0xCA02
/-- `PLCA_STS` (MMD 31): `PST`. -/
def mmdRegPlcaSts : U16 := 0xCA03
/-- `PLCA_BURST` (MMD 31): `MAXBC` and `BTMR`. -/
def mmdRegPlcaBurst : U16 := 0xCA05

/-- `STS2.RESETC`: reset-complete sticky bit.  Reading `STS2` clears it. -/
def sts2Resetc : U16 := 1 <<< 11
/-- `MIDVER` reset value. -/
def midverExpected : U16 := 0x0A10
/-- `PLCA_CTRL0.EN`: PLCA reconciliation sublayer enable. -/
def plcaCtrl0En : U16 := 1 <<< 15
/-- Position of `PLCA_CTRL1.NCNT[7:0]` (bits 15:8). -/
def plcaCtrl1NcntShift : Nat := 8
/-- `PLCA_CTRL1.ID[7:0]` mask (bits 7:0). -/
def plcaCtrl1IdMask : U16 := 0x00FF
/-- `PLCA_STS.PST`: BEACONs are being transmitted or received. -/
def plcaStsPst : U16 := 1 <<< 15
/-- `PLCA_CTRL1.ID` value that disables PLCA even when `EN = 1`. -/
def plcaIdDisabled : U8 := 0xFF
/-- PLCA coordinator `ID` value. -/
def plcaIdCoordinator : U8 := 0x00

/-! ## MMD indirection -/

/-- The `DEVAD` field that selects an MMD. -/
def devadField (devad : U8) : U16 := devad.setWidth 16 &&& mmdctrlDevadMask

/-- Steps 1 to 3 of an access: set the register address under `FNCTN_ADDR`, then
switch to `FNCTN_DATA`. -/
def mmdSelect (phyAddr devad : U8) (reg : U16) : Mdio ε Unit := do
  mdioWrite phyAddr regMmdctrl (mmdctrlFnctnAddr ||| devadField devad)
  mdioWrite phyAddr regMmdad reg
  mdioWrite phyAddr regMmdctrl (mmdctrlFnctnData ||| devadField devad)

/-- Read a 16-bit MMD register at `(devad, reg)`. -/
def mmdRead (phyAddr devad : U8) (reg : U16) : Mdio ε U16 := do
  mmdSelect phyAddr devad reg
  mdioRead phyAddr regMmdad

/-- Write a 16-bit value to the MMD register at `(devad, reg)`. -/
def mmdWrite (phyAddr devad : U8) (reg value : U16) : Mdio ε Unit := do
  mmdSelect phyAddr devad reg
  mdioWrite phyAddr regMmdad value

/-- Read-modify-write of an MMD register: clear `clearMask`, then set
`setMask`. -/
def mmdRmw (phyAddr devad : U8) (reg clearMask setMask : U16) : Mdio ε Unit := do
  let current ← mmdRead phyAddr devad reg
  mmdWrite phyAddr devad reg ((current &&& ~~~clearMask) ||| setMask)

end Lan867x

/-! ## PLCA types -/

/-- PLCA configuration. -/
structure PlcaConfig where
  /-- Local node ID; `0` is the bus coordinator. -/
  nodeId : U8
  /-- Total node count on the segment. -/
  nodeCount : U8
  /-- Burst-mode max additional packets per transmit opportunity. -/
  burstCount : U8
  /-- Burst timer; `0` stands for the chip default. -/
  burstTimer : U8
  deriving DecidableEq, Repr

/-- `PlcaConfig::default()`: coordinator with an 8-node segment, no burst. -/
def PlcaConfig.default : PlcaConfig := ⟨0, 8, 0, 0⟩

/-- PLCA runtime state. -/
structure PlcaStatus where
  enabled : Bool
  nodeId : U8
  isCoordinator : Bool
  stable : Bool
  deriving DecidableEq, Repr

/-- Errors from PLCA-related driver methods. -/
inductive PlcaError (ε : Type) where
  /-- MDIO bus error (passthrough). -/
  | mdio (e : ε)
  /-- Configuration values are invalid. -/
  | invalidConfig
  deriving DecidableEq, Repr

/-- The bus error a PLCA error passes on, if it passes one on. -/
def PlcaError.bus? : PlcaError ε → Option ε
  | mdio e => some e
  | invalidConfig => none

/-! ## The driver -/

/-- Concrete LAN867x family member. -/
inductive Chip where
  | lan8670
  | lan8671
  | lan8672
  deriving DecidableEq, Repr

/-- LAN867x PHY driver (software-only, no reset pin). -/
structure PhyLan867x where
  addr : U8
  /-- `some` once `init` has succeeded. -/
  chip : Option Chip
  /-- `some id` once `configurePlca` has succeeded. -/
  plcaId : Option U8
  deriving DecidableEq, Repr

namespace PhyLan867x
open Lan867x

/-- A new driver bound to the given MDIO address. -/
def new (addr : U8) : PhyLan867x := ⟨addr, none, none⟩

/-- The package `STRAP_CTRL0.PKGTYP` names, if it is one of the three. -/
def chipOfStrap (strap : U16) : Option Chip :=
  if strap &&& strapCtrl0PkgtypMask = strapCtrl0PkgtypLan8670 then some .lan8670
  else if strap &&& strapCtrl0PkgtypMask = strapCtrl0PkgtypLan8671 then some .lan8671
  else if strap &&& strapCtrl0PkgtypMask = strapCtrl0PkgtypLan8672 then some .lan8672
  else none

/-- The RESETC handshake loop of `init`: up to `n` reads of `STS2`, ending at the
first with RESETC set. -/
def pollResetc (addr : U8) : Nat → Mdio ε Bool
  | 0 => pure false
  | n + 1 => do
    let sts2 ← mmdRead addr mmdVs2 mmdRegSts2
    if sts2 &&& sts2Resetc ≠ 0 then
      pure true
    else
      pollResetc addr n

/-- `PhyDriver::init`. -/
def init : DriverM ε PhyLan867x (PhyError ε) Unit := do
  -- 0. drop the cached driver state: a failure below must not leave a stale chip
  modify fun self => { self with plcaId := none, chip := none }
  let self ← get
  -- 1. software reset
  let cleared ← Method.lift .mdio (Ieee802_3.softReset self.addr 500)
  if ¬cleared then
    throw .resetTimeout
  -- 2. reset-complete handshake
  let gotResetc ← Method.lift .mdio (pollResetc self.addr 500)
  if ¬gotResetc then
    throw .resetTimeout
  -- 3. family identity
  let id ← Method.lift .mdio (Ieee802_3.readPhyId self.addr)
  if id &&& phyOuiModelMask ≠ phyOuiModelLan867x then
    throw (.unsupportedChip id)
  -- 4. package
  let strap ← Method.lift .mdio (mdioRead self.addr regStrapCtrl0)
  match chipOfStrap strap with
  | none => throw (.unsupportedPackage (strap.setWidth 32))
  | some chip =>
    -- 5. OPEN Alliance map identifier
    let midver ← Method.lift .mdio (mmdRead self.addr mmdVs2 mmdRegMidver)
    if midver ≠ midverExpected then
      throw (.unsupportedChip id)
    -- 6. multidrop enable
    Method.lift .mdio (mmdRmw self.addr mmdPmaPmd mmdRegT1spmactl 0 t1spmactlMde)
    -- 7. commit
    modify fun self => { self with chip := some chip }

/-- `PhyDriver::poll_link`. -/
def pollLink : DriverM ε PhyLan867x (PhyError ε) LinkState := do
  let self ← get
  match self.chip, self.plcaId with
  | none, _ => return .down
  | some _, none => return .upAt ._10M .half
  | some _, some _ =>
    let sts ← Method.lift .mdio (mmdRead self.addr mmdVs2 mmdRegPlcaSts)
    if sts &&& plcaStsPst ≠ 0 then
      return .upAt ._10M .half
    else
      return .down

/-- `PhyDriver::capabilities`. -/
def capabilities : DriverM ε PhyLan867x (PhyError ε) PhyCapabilities := do
  let self ← get
  Method.lift .mdio (Ieee802_3.readCapabilities self.addr)

/-- `PhyDriver::phy_id`. -/
def phyId : DriverM ε PhyLan867x (PhyError ε) U32 := do
  let self ← get
  Method.lift .mdio (Ieee802_3.readPhyId self.addr)

/-- The `PLCA_CTRL1` value of a configuration: `NCNT[15:8] | ID[7:0]`. -/
def ctrl1Of (config : PlcaConfig) : U16 :=
  (config.nodeCount.setWidth 16 <<< plcaCtrl1NcntShift) ||| config.nodeId.setWidth 16

/-- The `BTMR` field of a configuration, with the sentinel `0` replaced by the
chip default. -/
def btmrOf (config : PlcaConfig) : U16 :=
  if config.burstTimer = 0 then 0x80 else config.burstTimer.setWidth 16

/-- The `PLCA_BURST` value of a configuration: `MAXBC[15:8] | BTMR[7:0]`. -/
def burstOf (config : PlcaConfig) : U16 :=
  (config.burstCount.setWidth 16 <<< 8) ||| btmrOf config

/-- Configure and enable PLCA on this node. -/
def configurePlca (config : PlcaConfig) : DriverM ε PhyLan867x (PlcaError ε) Unit := do
  if config.nodeId = plcaIdDisabled then
    throw .invalidConfig
  if config.nodeCount ≠ 0 ∧ config.nodeId ≥ config.nodeCount then
    throw .invalidConfig
  let self ← get
  Method.lift .mdio (mmdWrite self.addr mmdVs2 mmdRegPlcaCtrl1 (ctrl1Of config))
  -- always written, so that a burst setting left by an earlier call is cleared
  Method.lift .mdio (mmdWrite self.addr mmdVs2 mmdRegPlcaBurst (burstOf config))
  -- the enable bit last
  Method.lift .mdio (mmdRmw self.addr mmdVs2 mmdRegPlcaCtrl0 0 plcaCtrl0En)
  modify fun self => { self with plcaId := some config.nodeId }

/-- Disable PLCA. -/
def disablePlca : DriverM ε PhyLan867x (PlcaError ε) Unit := do
  let self ← get
  Method.lift .mdio (mmdRmw self.addr mmdVs2 mmdRegPlcaCtrl0 plcaCtrl0En 0)
  modify fun self => { self with plcaId := none }

/-- Snapshot the chip's PLCA registers. -/
def plcaStatus : DriverM ε PhyLan867x (PlcaError ε) PlcaStatus := do
  let self ← get
  let ctrl0 ← Method.lift .mdio (mmdRead self.addr mmdVs2 mmdRegPlcaCtrl0)
  let ctrl1 ← Method.lift .mdio (mmdRead self.addr mmdVs2 mmdRegPlcaCtrl1)
  let sts ← Method.lift .mdio (mmdRead self.addr mmdVs2 mmdRegPlcaSts)
  let id := (ctrl1 &&& plcaCtrl1IdMask).setWidth 8
  return {
    enabled := ctrl0 &&& plcaCtrl0En != 0
    nodeId := id
    isCoordinator := id == plcaIdCoordinator
    stable := sts &&& plcaStsPst != 0 }

end PhyLan867x
end EthPhy
