import EthPhy.Mdio

/-!
# IEEE 802.3 Clause 22 registers and helper functions

The standard registers a PHY of any make has, and the helper functions of
`eth-mdio-phy` that work on them: soft reset, link check, auto-negotiation, ID
read, capability query, forced link.
-/

namespace EthPhy
open Interaction

variable {ε : Type}

namespace Ieee802_3

/-! ## Register addresses and bits -/

namespace regs

/-- Basic Mode Control Register. -/
def bmcr : U8 := 0
/-- Basic Mode Status Register. -/
def bmsr : U8 := 1
/-- PHY Identifier Register 1. -/
def phyidr1 : U8 := 2
/-- PHY Identifier Register 2. -/
def phyidr2 : U8 := 3
/-- Auto-Negotiation Advertisement Register. -/
def anar : U8 := 4

end regs

namespace bmcr

/-- Software reset.  Self-clearing. -/
def reset : U16 := 1 <<< 15
/-- Loopback mode. -/
def loopback : U16 := 1 <<< 14
/-- Speed select: 1 = 100 Mbps, 0 = 10 Mbps. -/
def speed100 : U16 := 1 <<< 13
/-- Auto-negotiation enable. -/
def anEnable : U16 := 1 <<< 12
/-- Electrically isolate PHY from MII/RMII. -/
def isolate : U16 := 1 <<< 10
/-- Restart auto-negotiation.  Self-clearing. -/
def anRestart : U16 := 1 <<< 9
/-- Duplex mode: 1 = full, 0 = half. -/
def duplexFull : U16 := 1 <<< 8

end bmcr

namespace bmsr

/-- 100BASE-TX full duplex capable. -/
def txFdCapable : U16 := 1 <<< 14
/-- 100BASE-TX half duplex capable. -/
def txHdCapable : U16 := 1 <<< 13
/-- 10BASE-T full duplex capable. -/
def t10FdCapable : U16 := 1 <<< 12
/-- 10BASE-T half duplex capable. -/
def t10HdCapable : U16 := 1 <<< 11
/-- Auto-negotiation ability. -/
def anAbility : U16 := 1 <<< 3
/-- Link status (1 = link up). -/
def linkStatus : U16 := 1 <<< 2

end bmsr

namespace anar

/-- Advertise 100BASE-TX full duplex. -/
def txFd : U16 := 1 <<< 8
/-- Advertise 100BASE-TX half duplex. -/
def txHd : U16 := 1 <<< 7
/-- Advertise 10BASE-T full duplex. -/
def t10Fd : U16 := 1 <<< 6
/-- Advertise 10BASE-T half duplex. -/
def t10Hd : U16 := 1 <<< 5
/-- IEEE 802.3 selector field. -/
def selectorIeee802_3 : U16 := 0x0001

end anar

/-! ## Helper functions -/

/-- The polling loop of `softReset`: up to `n` reads of BMCR, ending at the first
with RESET clear. -/
def pollReset (phyAddr : U8) : Nat → Mdio ε Bool
  | 0 => pure false
  | n + 1 => do
    let val ← mdioRead phyAddr regs.bmcr
    if val &&& bmcr.reset = 0 then
      pure true
    else
      pollReset phyAddr n

/-- Perform a software reset: a raw write of RESET, then up to `maxAttempts`
polls.  Returns whether the bit cleared. -/
def softReset (phyAddr : U8) (maxAttempts : U32) : Mdio ε Bool := do
  mdioWrite phyAddr regs.bmcr bmcr.reset
  pollReset phyAddr maxAttempts.toNat

/-- Check whether the PHY link is up. -/
def isLinkUp (phyAddr : U8) : Mdio ε Bool := do
  let val ← mdioRead phyAddr regs.bmsr
  return val &&& bmsr.linkStatus != 0

/-- The BMCR value `enableAutoNegotiation` writes back. -/
def anRestarted (val : U16) : U16 :=
  (val ||| (bmcr.anEnable ||| bmcr.anRestart)) &&& ~~~bmcr.isolate

/-- Enable auto-negotiation and restart it. -/
def enableAutoNegotiation (phyAddr : U8) : Mdio ε Unit := do
  let val ← mdioRead phyAddr regs.bmcr
  mdioWrite phyAddr regs.bmcr (anRestarted val)

/-- Read the 32-bit PHY identifier, `(id1 << 16) | id2`. -/
def readPhyId (phyAddr : U8) : Mdio ε U32 := do
  let id1 ← mdioRead phyAddr regs.phyidr1
  let id2 ← mdioRead phyAddr regs.phyidr2
  return (id1.setWidth 32 <<< 16) ||| id2.setWidth 32

/-- Read PHY hardware capabilities from BMSR.  BMSR has no PAUSE bit, so `pause`
is always `false`. -/
def readCapabilities (phyAddr : U8) : Mdio ε PhyCapabilities := do
  let val ← mdioRead phyAddr regs.bmsr
  return {
    speed100Fd := val &&& bmsr.txFdCapable != 0
    speed100Hd := val &&& bmsr.txHdCapable != 0
    speed10Fd := val &&& bmsr.t10FdCapable != 0
    speed10Hd := val &&& bmsr.t10HdCapable != 0
    autoNegotiation := val &&& bmsr.anAbility != 0
    pause := false }

/-- The BMCR bits that select a speed. -/
def speedBits : Speed → U16
  | ._100M => bmcr.speed100
  | ._10M => 0

/-- The BMCR bits that select a duplex mode. -/
def duplexBits : Duplex → U16
  | .full => bmcr.duplexFull
  | .half => 0

/-- The BMCR value `forceLink` writes back. -/
def forced (speed : Speed) (duplex : Duplex) (val : U16) : U16 :=
  (val &&& ~~~(bmcr.anEnable ||| bmcr.anRestart ||| bmcr.isolate ||| bmcr.speed100 |||
    bmcr.duplexFull)) ||| speedBits speed ||| duplexBits duplex

/-- Force link speed and duplex (disable auto-negotiation). -/
def forceLink (phyAddr : U8) (speed : Speed) (duplex : Duplex) : Mdio ε Unit := do
  let val ← mdioRead phyAddr regs.bmcr
  mdioWrite phyAddr regs.bmcr (forced speed duplex val)

end Ieee802_3
end EthPhy
