import EthPhy.Lan867x
import EthPhy.Bits
import Mathlib.Data.Set.Basic

/-!
# The LAN867x behind its MDIO registers

The chip as its driver may rely on it: a file of MMD registers, reached through
the latch that `MMDCTRL` and `MMDAD` drive.  `Silicon.Access` is the documented
effect of one transaction.  It says nothing about `MMDAD` under a function code
other than `FNCTN_ADDR` and `FNCTN_DATA`, and nothing about what Clause 22
registers read: the chip may do anything there.  Registers in `volatile` may
change at any time.

The bus may lose any transaction (`Lan867x.device`): a failed transaction has
had no effect, or, on an ambiguous bus, may have had its effect all the same.

The second half gives each indirect access one specification lemma against this
device.  Everything a driver operation does to the chip is put together from
these.
-/

namespace EthPhy
open Interaction Lan867x

/-- The address of an MMD register: its MMD and its number there. -/
abbrev MmdAddr := BitVec 5 × U16

/-- The register `(devad, reg)`; only `DEVAD[4:0]` reaches the chip. -/
def mmdAddr (devad : U8) (reg : U16) : MmdAddr := (devad.setWidth 5, reg)

/-- The `MMDCTRL.FNCTN` code under which `MMDAD` takes a register address. -/
def fnctnAddr : BitVec 2 := 0b00

/-- The `MMDCTRL.FNCTN` code under which `MMDAD` is the selected register. -/
def fnctnData : BitVec 2 := 0b01

/-- The state of the chip: the latch of the indirection, and the MMD registers
behind it. -/
@[ext] structure Silicon where
  /-- `MMDCTRL.FNCTN`. -/
  fnctn : BitVec 2
  /-- `MMDCTRL.DEVAD`. -/
  devad : BitVec 5
  /-- The register address last written under `FNCTN_ADDR`. -/
  regAddr : U16
  /-- The MMD registers. -/
  mmd : MmdAddr → U16

namespace Silicon

/-- A write of `MMDCTRL`. -/
def select (c : Silicon) (v : U16) : Silicon :=
  { c with fnctn := v.extractLsb' 14 2, devad := v.setWidth 5 }

/-- A write of `MMDAD` under `FNCTN_ADDR`. -/
def pointTo (c : Silicon) (v : U16) : Silicon := { c with regAddr := v }

/-- A write of `MMDAD` under `FNCTN_DATA`. -/
def store (c : Silicon) (v : U16) : Silicon :=
  { c with mmd := Function.update c.mmd (c.devad, c.regAddr) v }

/-- The register `MMDAD` shows under `FNCTN_DATA`. -/
def load (c : Silicon) : U16 := c.mmd (c.devad, c.regAddr)

/-- The two silicons hold the same registers, volatile ones aside. -/
def Agree (volatile : Set MmdAddr) (c c' : Silicon) : Prop :=
  ∀ x, x ∉ volatile → c'.mmd x = c.mmd x

/-- What the chip may do on its own: change volatile registers. -/
def Drift (volatile : Set MmdAddr) (c c' : Silicon) : Prop :=
  c'.fnctn = c.fnctn ∧ c'.devad = c.devad ∧ c'.regAddr = c.regAddr ∧ Agree volatile c c'

end Silicon

/-- What one kind of chip behind the indirection is like. -/
structure ChipModel where
  /-- The registers that may change at any time. -/
  volatile : Set MmdAddr
  /-- What a write of BMCR with RESET set may do. -/
  reset : Silicon → Silicon → Prop

namespace ChipModel

/-- The bare indirection: a flat file of plain registers, and no reset. -/
def flat : ChipModel := ⟨∅, Eq⟩

end ChipModel

/-- **The documented effect of a transaction** on the chip at address `addr`. -/
def Silicon.Access (M : ChipModel) (addr : U8) (c : Silicon) :
    (t : Txn) → t.Reply → Silicon → Prop
  | .write a r v, _, c' =>
      if a ≠ addr then c' = c
      else if r = regMmdctrl then c' = c.select v
      else if r = regMmdad then
        (c.fnctn = fnctnAddr → c' = c.pointTo v) ∧ (c.fnctn = fnctnData → c' = c.store v)
      else if r = Ieee802_3.regs.bmcr ∧ v &&& Ieee802_3.bmcr.reset ≠ 0 then M.reset c c'
      else c' = c
  | .read a r, v, c' =>
      if a = addr ∧ r = regMmdad then
        (c.fnctn = fnctnAddr → v = c.regAddr ∧ c' = c) ∧ (c.fnctn = fnctnData → v = c.load ∧ c' = c)
      else c' = c

/-- The documented effect, with volatile registers changing afterwards. -/
def Silicon.Effect (M : ChipModel) (addr : U8) (c : Silicon) (t : Txn) (v : t.Reply)
    (c' : Silicon) : Prop :=
  ∃ m, c.Access M addr t v m ∧ m.Drift M.volatile c'

/-- **The chip at `addr` behind a bus that may lose any transaction.** -/
def Lan867x.device {ε : Type} (ambiguous : Prop) (M : ChipModel) (addr : U8) :
    Device Txn.Reply ε Silicon :=
  Device.faulty ambiguous (Silicon.Drift M.volatile) (Silicon.Effect M addr)

namespace Silicon

variable {V : Set MmdAddr} {c c' c'' : Silicon}

theorem Agree.refl (c : Silicon) : Agree V c c := fun _ _ => rfl

theorem Agree.trans (h : Agree V c c') (h' : Agree V c' c'') : Agree V c c'' :=
  fun x hx => (h' x hx).trans (h x hx)

theorem Drift.refl (c : Silicon) : Drift V c c := ⟨rfl, rfl, rfl, Agree.refl c⟩

theorem Drift.agree (h : Drift V c c') : Agree V c c' := h.2.2.2

end Silicon

/-! ## Single transactions

What one transaction does to the chip, whatever became of it on the bus. -/

section Steps

variable {ε : Type} {ambiguous : Prop} {M : ChipModel} {addr : U8} {c c' : Silicon}

/-- A transaction with only one documented outcome `m`: it failed and had no
effect, or the chip went to `m`, and on an unambiguous bus the transaction then
succeeded. -/
theorem device_step {t : Txn} {r : Except ε t.Reply} {m : Silicon}
    (h : device ambiguous M addr c t r c') (hm : ∀ v c₁, c.Access M addr t v c₁ → c₁ = m) :
    ((∃ e, r = .error e) ∧ c.Drift M.volatile c') ∨
      ((ambiguous ∨ ∃ v, r = .ok v) ∧ m.Drift M.volatile c') := by
  cases r with
  | ok v =>
    obtain ⟨c₁, hc₁, hd⟩ := h
    obtain rfl := hm v c₁ hc₁
    exact .inr ⟨.inr ⟨v, rfl⟩, hd⟩
  | error e =>
    rcases h with hd | ⟨ha, v, c₁, hc₁, hd⟩
    · exact .inl ⟨⟨e, rfl⟩, hd⟩
    · obtain rfl := hm v c₁ hc₁
      exact .inr ⟨.inl ha, hd⟩

/-- A write of `MMDCTRL` moves the latch and no register. -/
theorem ctrl_step {v : U16} {r : Except ε Unit}
    (h : device ambiguous M addr c (.write addr regMmdctrl v) r c') :
    c.Agree M.volatile c' ∧
      (r = .ok () → c'.fnctn = v.extractLsb' 14 2 ∧ c'.devad = v.setWidth 5 ∧
        c'.regAddr = c.regAddr) := by
  have hm : ∀ u c₁, c.Access M addr (.write addr regMmdctrl v) u c₁ → c₁ = c.select v :=
    fun u c₁ hc₁ => by simpa [Silicon.Access] using hc₁
  rcases device_step h hm with ⟨⟨e, rfl⟩, hd⟩ | ⟨-, hd⟩
  · exact ⟨hd.agree, fun hr => by cases hr⟩
  · exact ⟨hd.agree, fun _ => ⟨hd.1, hd.2.1, hd.2.2.1⟩⟩

/-- A write of `MMDAD` under `FNCTN_ADDR` moves the latch and no register. -/
theorem pointTo_step {v : U16} {r : Except ε Unit} (hf : c.fnctn = fnctnAddr)
    (h : device ambiguous M addr c (.write addr regMmdad v) r c') :
    c.Agree M.volatile c' ∧ (r = .ok () → c'.regAddr = v) := by
  have hm : ∀ u c₁, c.Access M addr (.write addr regMmdad v) u c₁ → c₁ = c.pointTo v := by
    intro u c₁ hc₁
    simp only [Silicon.Access, ne_eq, not_true_eq_false, if_false,
      show regMmdad ≠ regMmdctrl by decide, if_true] at hc₁
    exact hc₁.1 hf
  rcases device_step h hm with ⟨⟨e, rfl⟩, hd⟩ | ⟨-, hd⟩
  · exact ⟨hd.agree, fun hr => by cases hr⟩
  · exact ⟨hd.agree, fun _ => hd.2.2.1⟩

/-- **The data write** of an access stores the value in the selected register. -/
theorem store_step {v : U16} {r : Except ε Unit} (hf : c.fnctn = fnctnData)
    (h : device ambiguous M addr c (.write addr regMmdad v) r c') :
    ((∃ e, r = .error e) ∧ c.Agree M.volatile c') ∨
      ((ambiguous ∨ r = .ok ()) ∧ (c.store v).Agree M.volatile c') := by
  have hm : ∀ u c₁, c.Access M addr (.write addr regMmdad v) u c₁ → c₁ = c.store v := by
    intro u c₁ hc₁
    simp only [Silicon.Access, ne_eq, not_true_eq_false, if_false,
      show regMmdad ≠ regMmdctrl by decide, if_true] at hc₁
    exact hc₁.2 hf
  rcases device_step h hm with ⟨he, hd⟩ | ⟨hr, hd⟩
  · exact .inl ⟨he, hd.agree⟩
  · exact .inr ⟨hr.imp id (fun ⟨_, hv⟩ => hv), hd.agree⟩

/-- The data read of an access returns the selected register. -/
theorem load_step {r : Except ε U16} (hf : c.fnctn = fnctnData)
    (h : device ambiguous M addr c (.read addr regMmdad) r c') :
    c.Agree M.volatile c' ∧ ∀ v, r = .ok v → v = c.load := by
  have hload : ∀ v c₁, c.Access M addr (.read addr regMmdad) v c₁ → v = c.load ∧ c₁ = c := by
    intro v c₁ hc₁
    simp only [Silicon.Access, and_self, if_true] at hc₁
    exact hc₁.2 hf
  refine ⟨?_, ?_⟩
  · rcases device_step h (fun v c₁ hc₁ => (hload v c₁ hc₁).2) with ⟨-, hd⟩ | ⟨-, hd⟩
    · exact hd.agree
    · exact hd.agree
  · rintro v rfl
    obtain ⟨c₁, hc₁, -⟩ := h
    exact (hload v c₁ hc₁).1

/-- A read of any other register changes no MMD register. -/
theorem read_step {reg : U8} {r : Except ε U16} (hreg : reg ≠ regMmdad)
    (h : device ambiguous M addr c (.read addr reg) r c') : c.Agree M.volatile c' := by
  have hm : ∀ v c₁, c.Access M addr (.read addr reg) v c₁ → c₁ = c := by
    intro v c₁ hc₁
    simpa only [Silicon.Access, hreg, and_false, if_false] using hc₁
  rcases device_step h hm with ⟨-, hd⟩ | ⟨-, hd⟩
  · exact hd.agree
  · exact hd.agree

/-- A write of RESET to BMCR resets the chip, unless it was lost. -/
theorem reset_step {r : Except ε Unit}
    (h : device ambiguous M addr c (.write addr Ieee802_3.regs.bmcr Ieee802_3.bmcr.reset) r c') :
    ((∃ e, r = .error e) ∧ c.Agree M.volatile c') ∨
      ((ambiguous ∨ r = .ok ()) ∧ ∃ m, M.reset c m ∧ m.Agree M.volatile c') := by
  have hm : ∀ u c₁, c.Access M addr (.write addr Ieee802_3.regs.bmcr Ieee802_3.bmcr.reset) u c₁ →
      M.reset c c₁ := by
    intro u c₁ hc₁
    have hset : Ieee802_3.bmcr.reset &&& Ieee802_3.bmcr.reset ≠ 0 := by decide
    simp only [Silicon.Access, ne_eq, not_true_eq_false, if_false, true_and,
      show Ieee802_3.regs.bmcr ≠ regMmdctrl by decide,
      show Ieee802_3.regs.bmcr ≠ regMmdad by decide] at hc₁
    rwa [if_pos hset] at hc₁
  cases r with
  | ok u =>
    obtain ⟨m, hc₁, hd⟩ := h
    exact .inr ⟨.inr rfl, m, hm u m hc₁, hd.agree⟩
  | error e =>
    rcases h with hd | ⟨ha, u, m, hc₁, hd⟩
    · exact .inl ⟨⟨e, rfl⟩, hd.agree⟩
    · exact .inr ⟨.inl ha, m, hm u m hc₁, hd.agree⟩

end Steps

/-! ## The LAN867x -/

namespace Lan867x

def t1spmactl : MmdAddr := mmdAddr mmdPmaPmd mmdRegT1spmactl
def sts2 : MmdAddr := mmdAddr mmdVs2 mmdRegSts2
def midver : MmdAddr := mmdAddr mmdVs2 mmdRegMidver
def plcaCtrl0 : MmdAddr := mmdAddr mmdVs2 mmdRegPlcaCtrl0
def plcaCtrl1 : MmdAddr := mmdAddr mmdVs2 mmdRegPlcaCtrl1
def plcaSts : MmdAddr := mmdAddr mmdVs2 mmdRegPlcaSts
def plcaBurst : MmdAddr := mmdAddr mmdVs2 mmdRegPlcaBurst

end Lan867x

/-- The contents of the MMD registers. -/
abbrev RegFile := MmdAddr → U16

/-- A read-modify-write of one register. -/
def RegFile.rmw (f : RegFile) (x : MmdAddr) (clearMask setMask : U16) : RegFile :=
  Function.update f x ((f x &&& ~~~clearMask) ||| setMask)

theorem RegFile.rmw_self (f : RegFile) (x : MmdAddr) (clearMask setMask : U16) :
    f.rmw x clearMask setMask x = (f x &&& ~~~clearMask) ||| setMask :=
  Function.update_self x _ f

theorem RegFile.rmw_of_ne (f : RegFile) {x y : MmdAddr} (h : y ≠ x) (clearMask setMask : U16) :
    f.rmw x clearMask setMask y = f y :=
  Function.update_of_ne h _ f

/-- Multidrop mode is on. -/
def RegFile.MultidropOn (f : RegFile) : Prop := f t1spmactl &&& t1spmactlMde ≠ 0

/-- PLCA is on. -/
def RegFile.PlcaOn (f : RegFile) : Prop := f plcaCtrl0 &&& plcaCtrl0En ≠ 0

/-- The chip's registers are `f`, volatile ones aside. -/
def Silicon.Holds (V : Set MmdAddr) (f : RegFile) (c : Silicon) : Prop :=
  ∀ x, x ∉ V → c.mmd x = f x

/-- **What the data sheet of a LAN867x says of its registers**: their reset defaults,
with PLCA and multidrop mode off, and which of them show status and may change at any
time.  The registers the driver configures are none of these. -/
structure Lan867x.Datasheet where
  defaults : RegFile
  status : Set MmdAddr
  plcaOff : defaults plcaCtrl0 &&& plcaCtrl0En = 0
  multidropOff : defaults t1spmactl &&& t1spmactlMde = 0
  t1spmactl_not_status : t1spmactl ∉ status
  plcaCtrl0_not_status : plcaCtrl0 ∉ status
  plcaCtrl1_not_status : plcaCtrl1 ∉ status
  plcaBurst_not_status : plcaBurst ∉ status

section Datasheet

variable {d : Datasheet} {f : RegFile} {c : Silicon}

theorem Silicon.Holds.multidropOn (h : c.Holds d.status f) :
    RegFile.MultidropOn c.mmd ↔ f.MultidropOn := by
  unfold RegFile.MultidropOn
  rw [h _ d.t1spmactl_not_status]

theorem Silicon.Holds.plcaOn (h : c.Holds d.status f) :
    RegFile.PlcaOn c.mmd ↔ f.PlcaOn := by
  unfold RegFile.PlcaOn
  rw [h _ d.plcaCtrl0_not_status]

end Datasheet

/-- **A conforming LAN867x.** -/
def Lan867x.lan867x (d : Datasheet) : ChipModel :=
  ⟨d.status, fun _ c' => c'.mmd = d.defaults⟩

end EthPhy
