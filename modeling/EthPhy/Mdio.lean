import EthPhy.History
import Mathlib.Data.BitVec

/-!
# The MDIO bus and the shared PHY types

The contract between a MAC and its PHY drivers, as `eth-mdio-phy` declares it.
A `MdioBus` reads and writes 16-bit registers of the PHY at an address, and
either call may fail with the bus's own error.  Driver code is generic over the
bus, so here it is a program over the two kinds of transaction, and a bus is
what such a program runs on (`MdioBus.handler`).
-/

namespace EthPhy
open Interaction

abbrev U8 := BitVec 8
abbrev U16 := BitVec 16
abbrev U32 := BitVec 32

/-! ## Transactions and buses -/

/-- A Clause 22 transaction. -/
inductive Txn where
  | read (phyAddr regAddr : U8)
  | write (phyAddr regAddr : U8) (value : U16)
  deriving DecidableEq, Repr

namespace Txn

/-- What a transaction that succeeds returns. -/
abbrev Reply : Txn → Type
  | read _ _ => U16
  | write _ _ _ => Unit

/-- The PHY the transaction is addressed to. -/
def phyAddr : Txn → U8
  | read a _ => a
  | write a _ _ => a

end Txn

/-- **The MDIO bus trait**: one implementation for each MAC, with a state `σ` and
an error type `ε` of its own. -/
structure MdioBus (ε σ : Type) where
  /-- Read a 16-bit PHY register. -/
  read (phyAddr regAddr : U8) : σ → Except ε U16 × σ
  /-- Write a 16-bit PHY register. -/
  write (phyAddr regAddr : U8) (value : U16) : σ → Except ε Unit × σ

/-- A bus answers each transaction with its `read` or its `write`. -/
def MdioBus.handler {ε σ : Type} (bus : MdioBus ε σ) : Handler Txn.Reply ε σ
  | .read a r => bus.read a r
  | .write a r v => bus.write a r v

/-- A transaction with its reply. -/
abbrev TxnEvent (ε : Type) := Event Txn.Reply ε

/-- A function generic over the bus that returns a value or the error of the
bus. -/
abbrev Mdio (ε α : Type) : Type := Fallible Txn.Reply ε α

/-- A method of a driver with state `S` and error type `E`, generic over the
bus. -/
abbrev DriverM (ε S E α : Type) : Type := Method Txn.Reply ε S E α

variable {ε : Type}

/-- `mdio.read(phy_addr, reg_addr)`. -/
def mdioRead (phyAddr regAddr : U8) : Mdio ε U16 := request (Txn.read phyAddr regAddr)

/-- `mdio.write(phy_addr, reg_addr, value)`. -/
def mdioWrite (phyAddr regAddr : U8) (value : U16) : Mdio ε Unit :=
  request (Txn.write phyAddr regAddr value)

/-! ## Shared types -/

/-- Ethernet link speed. -/
inductive Speed where
  | _10M
  | _100M
  deriving DecidableEq, Repr

/-- Ethernet duplex mode. -/
inductive Duplex where
  | half
  | full
  deriving DecidableEq, Repr

/-- Link state reported by the PHY.  `speed` and `duplex` mean nothing unless
`up` is set. -/
structure LinkState where
  up : Bool
  speed : Speed
  duplex : Duplex
  deriving DecidableEq, Repr

namespace LinkState

/-- The link is down; the other two fields are a fixed default. -/
def down : LinkState := ⟨false, ._100M, .full⟩

/-- `LinkState::up(speed, duplex)`. -/
def upAt (speed : Speed) (duplex : Duplex) : LinkState := ⟨true, speed, duplex⟩

end LinkState

/-- PHY hardware capabilities. -/
structure PhyCapabilities where
  speed100Fd : Bool
  speed100Hd : Bool
  speed10Fd : Bool
  speed10Hd : Bool
  autoNegotiation : Bool
  pause : Bool
  deriving DecidableEq, Repr

/-- Common error type of PHY driver operations. -/
inductive PhyError (ε : Type) where
  /-- MDIO bus error (passthrough). -/
  | mdio (e : ε)
  /-- Soft reset did not complete within the allowed attempts. -/
  | resetTimeout
  /-- The PHY ID does not match the expected chip family. -/
  | unsupportedChip (id : U32)
  /-- The PHY ID matched, but a package or variant strap did not. -/
  | unsupportedPackage (strap : U32)
  deriving DecidableEq, Repr

/-- The bus error a driver error passes on, if it passes one on. -/
def PhyError.bus? : PhyError ε → Option ε
  | mdio e => some e
  | _ => none

end EthPhy
