import EthPhy.Ieee8023

/-!
# The LAN87xx driver

Vendor registers and the `PhyLan87xx` driver of `eth-phy-lan87xx`, a driver for
10/100 Ethernet PHYs.  Everything it needs is in Clause 22 registers.
-/

namespace EthPhy
open Interaction

variable {ε : Type}

namespace Lan87xx

/-- PHY OUI of the family, under `phyOuiMask`. -/
def phyOui : U32 := 0x0007C000
/-- Mask to extract the OUI portion of a PHY ID. -/
def phyOuiMask : U32 := 0xFFFFFC00

namespace mcsr

/-- Mode Control/Status Register (vendor register 17). -/
def addr : U8 := 17
/-- Energy Detect Power-Down enable. -/
def edpdEn : U16 := 1 <<< 14

end mcsr

namespace pscsr

/-- PHY Special Control/Status Register (vendor register 31). -/
def addr : U8 := 31
/-- Auto-negotiation done; the speed/duplex field is valid only once it is
set. -/
def autodone : U16 := 1 <<< 12
/-- Mask for the speed/duplex indication field (bits [4:2]). -/
def speedDuplexMask : U16 := 0b111 <<< 2
def speed10Hd : U16 := 0b001 <<< 2
def speed10Fd : U16 := 0b101 <<< 2
def speed100Hd : U16 := 0b010 <<< 2
def speed100Fd : U16 := 0b110 <<< 2

end pscsr
end Lan87xx

/-- LAN87xx PHY driver (software-only, no reset pin). -/
structure PhyLan87xx where
  addr : U8
  linkUp : Bool
  deriving DecidableEq, Repr

namespace PhyLan87xx
open Lan87xx Ieee802_3

/-- A new driver for the PHY at the given MDIO address. -/
def new (addr : U8) : PhyLan87xx := ⟨addr, false⟩

/-- Decode the PSCSR speed/duplex indication field; `none` for a reserved
value. -/
def parsePscsr (pscsrVal : U16) : Option (Speed × Duplex) :=
  if pscsrVal &&& pscsr.speedDuplexMask = pscsr.speed10Hd then some (._10M, .half)
  else if pscsrVal &&& pscsr.speedDuplexMask = pscsr.speed10Fd then some (._10M, .full)
  else if pscsrVal &&& pscsr.speedDuplexMask = pscsr.speed100Hd then some (._100M, .half)
  else if pscsrVal &&& pscsr.speedDuplexMask = pscsr.speed100Fd then some (._100M, .full)
  else none

/-- The BMCR value that turns loopback on. -/
def loopbackOn : U16 := bmcr.loopback ||| bmcr.speed100 ||| bmcr.duplexFull

/-- Enable or disable MII loopback: a full overwrite of BMCR to turn it on, a
read-modify-write of the one bit to turn it off. -/
def setLoopback (on : Bool) : DriverM ε PhyLan87xx (PhyError ε) Unit := do
  let self ← get
  if on then
    Method.lift .mdio (mdioWrite self.addr regs.bmcr loopbackOn)
    modify fun self => { self with linkUp := false }
  else
    let cur ← Method.lift .mdio (mdioRead self.addr regs.bmcr)
    Method.lift .mdio (mdioWrite self.addr regs.bmcr (cur &&& ~~~bmcr.loopback))

/-- The standard 10/100 advertisement `init` writes. -/
def advertisement : U16 :=
  anar.txFd ||| anar.txHd ||| anar.t10Fd ||| anar.t10Hd ||| anar.selectorIeee802_3

/-- `PhyDriver::init`. -/
def init : DriverM ε PhyLan87xx (PhyError ε) Unit := do
  let self ← get
  -- 1. soft reset
  let cleared ← Method.lift .mdio (softReset self.addr 500)
  if ¬cleared then
    throw .resetTimeout
  -- 2. family identity
  let id ← Method.lift .mdio (readPhyId self.addr)
  if id &&& phyOuiMask ≠ phyOui then
    throw (.unsupportedChip id)
  -- 3. disable Energy Detect Power-Down
  let mcsrVal ← Method.lift .mdio (mdioRead self.addr mcsr.addr)
  Method.lift .mdio (mdioWrite self.addr mcsr.addr (mcsrVal &&& ~~~mcsr.edpdEn))
  -- 4. the reset does not always restore ANAR, so write it
  Method.lift .mdio (mdioWrite self.addr regs.anar advertisement)
  -- 5. auto-negotiation
  Method.lift .mdio (enableAutoNegotiation self.addr)
  modify fun self => { self with linkUp := false }

/-- The speed and duplex BMCR selects when the link is forced. -/
def decodeBmcr (bmcrVal : U16) : Speed × Duplex :=
  (if bmcrVal &&& bmcr.speed100 ≠ 0 then ._100M else ._10M,
    if bmcrVal &&& bmcr.duplexFull ≠ 0 then .full else .half)

/-- The link is down: forget it and report so. -/
def reportDown : DriverM ε PhyLan87xx (PhyError ε) LinkState := do
  modify fun self => { self with linkUp := false }
  return .down

/-- The link is up: remember it and report so. -/
def reportUp (speed : Speed) (duplex : Duplex) :
    DriverM ε PhyLan87xx (PhyError ε) LinkState := do
  modify fun self => { self with linkUp := true }
  return .upAt speed duplex

/-- `PhyDriver::poll_link`. -/
def pollLink : DriverM ε PhyLan87xx (PhyError ε) LinkState := do
  let self ← get
  let up ← Method.lift .mdio (isLinkUp self.addr)
  if ¬up then
    reportDown
  else
    let bmcrVal ← Method.lift .mdio (mdioRead self.addr regs.bmcr)
    if bmcrVal &&& bmcr.anEnable ≠ 0 then
      -- PSCSR is only valid once auto-negotiation is done
      let pscsrVal ← Method.lift .mdio (mdioRead self.addr pscsr.addr)
      if pscsrVal &&& pscsr.autodone = 0 then
        reportDown
      else
        match parsePscsr pscsrVal with
        | some (speed, duplex) => reportUp speed duplex
        | none => reportDown
    else
      -- forced link: speed and duplex straight from BMCR
      reportUp (decodeBmcr bmcrVal).1 (decodeBmcr bmcrVal).2

/-- `PhyDriver::capabilities`. -/
def capabilities : DriverM ε PhyLan87xx (PhyError ε) PhyCapabilities := do
  let self ← get
  Method.lift .mdio (readCapabilities self.addr)

/-- `PhyDriver::phy_id`. -/
def phyId : DriverM ε PhyLan87xx (PhyError ε) U32 := do
  let self ← get
  Method.lift .mdio (readPhyId self.addr)

end PhyLan87xx
end EthPhy
