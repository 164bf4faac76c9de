import EthPhy.RegisterAccess
import EthPhy.SimulatedChip
import EthPhy.TwoRuns

/-!
# The LAN867x under given circumstances

A conforming LAN867x as a function of its environment: what a transaction does depends on
the state of the chip and on what the environment contributes to it, and on nothing else.
The contents of the registers are of any kind, and so is the contribution of the
environment.  The latch of the indirection is kept apart from them.

The latch is all an observer may leave different.  So each access is compared with itself
from two states with any two latches: the four transactions of an indirect access set the
latch before they use it.
-/

namespace EthPhy
open Interaction Lan867x

variable {ε W Γ : Type}

/-! ## The chip -/

namespace Lan867x

/-- The Clause 22 registers the observers read. -/
def observedRegs : List U8 :=
  [Ieee802_3.regs.bmsr, Ieee802_3.regs.bmcr, Ieee802_3.regs.phyidr1, Ieee802_3.regs.phyidr2]

/-- The MMD registers the observers read. -/
def observedMmd : List MmdAddr := [plcaCtrl0, plcaCtrl1, plcaSts]

end Lan867x

/-- **A conforming LAN867x whose observed registers have no read side effects**: `Γ` is
what its registers can contain, and `W` what its environment contributes to a
transaction. -/
structure Lan867xChip (W Γ : Type) where
  /-- A read of a Clause 22 register. -/
  read : U8 → W → Γ → U16 × Γ
  /-- A write of a Clause 22 register. -/
  write : U8 → U16 → W → Γ → Γ
  /-- What such a write, a reset perhaps, does to the latch. -/
  disturb : U8 → U16 → W → Latch × Γ → Latch
  /-- A read of the selected MMD register. -/
  mmdLoad : MmdAddr → W → Γ → U16 × Γ
  /-- A write of the selected MMD register. -/
  mmdStore : MmdAddr → U16 → W → Γ → Γ
  /-- What is left open: `MMDAD` under other function codes, reads of `MMDCTRL`, and
  transactions that are addressed to another PHY. -/
  other : (t : Txn) → W → Latch × Γ → t.Reply × Latch × Γ
  read_quiet : ∀ r ∈ observedRegs, ∀ w γ, (read r w γ).2 = γ
  mmdLoad_quiet : ∀ x ∈ observedMmd, ∀ w γ, (mmdLoad x w γ).2 = γ

namespace Lan867xChip

variable (chip : Lan867xChip W Γ) (addr : U8)

/-- **What the chip at address `addr` does.** -/
def react : Reaction Txn.Reply W (Latch × Γ)
  | .read a r, w, (l, γ) =>
    if a = addr ∧ r = regMmdad ∧ l.fnctn = fnctnAddr then (l.regAddr, l, γ)
    else if a = addr ∧ r = regMmdad ∧ l.fnctn = fnctnData then
      ((chip.mmdLoad l.target w γ).1, l, (chip.mmdLoad l.target w γ).2)
    else if a = addr ∧ r ≠ regMmdctrl ∧ r ≠ regMmdad then
      ((chip.read r w γ).1, l, (chip.read r w γ).2)
    else chip.other (.read a r) w (l, γ)
  | .write a r v, w, (l, γ) =>
    if a = addr ∧ (r = regMmdctrl ∨ r = regMmdad ∧ l.fnctn = fnctnAddr) then
      ((), l.after addr (.write a r v), γ)
    else if a = addr ∧ r = regMmdad ∧ l.fnctn = fnctnData then
      ((), l, chip.mmdStore l.target v w γ)
    else if a = addr ∧ r ≠ regMmdctrl ∧ r ≠ regMmdad then
      ((), chip.disturb r v w (l, γ), chip.write r v w γ)
    else chip.other (.write a r v) w (l, γ)

section Reactions

variable {chip addr} {w : W} {l : Latch} {γ : Γ} {r : U8} {v : U16}

theorem react_ctrl :
    chip.react addr (.write addr regMmdctrl v) w (l, γ) =
      ((), { l with fnctn := v.extractLsb' 14 2, devad := v.setWidth 5 }, γ) := by
  simp [react, Latch.after]

theorem react_pointTo (hl : l.fnctn = fnctnAddr) :
    chip.react addr (.write addr regMmdad v) w (l, γ) =
      ((), { l with regAddr := v }, γ) := by
  simp [react, hl, Latch.after, show regMmdad ≠ regMmdctrl by decide]

theorem react_store (hl : l.fnctn = fnctnData) :
    chip.react addr (.write addr regMmdad v) w (l, γ) =
      ((), l, chip.mmdStore l.target v w γ) := by
  simp [react, hl, show regMmdad ≠ regMmdctrl by decide, show fnctnData ≠ fnctnAddr by decide]

theorem react_load (hl : l.fnctn = fnctnData) :
    chip.react addr (.read addr regMmdad) w (l, γ) =
      ((chip.mmdLoad l.target w γ).1, l, (chip.mmdLoad l.target w γ).2) := by
  simp [react, hl, show fnctnData ≠ fnctnAddr by decide]

theorem react_read (hctrl : r ≠ regMmdctrl) (hmmdad : r ≠ regMmdad) :
    chip.react addr (.read addr r) w (l, γ) =
      ((chip.read r w γ).1, l, (chip.read r w γ).2) := by
  simp [react, hctrl, hmmdad]

theorem react_write (hctrl : r ≠ regMmdctrl) (hmmdad : r ≠ regMmdad) :
    chip.react addr (.write addr r v) w (l, γ) =
      ((), chip.disturb r v w (l, γ), chip.write r v w γ) := by
  simp [react, hctrl, hmmdad]

end Reactions

/-! ## Accesses -/

/-- The contents are related by `C`; the latches need not be. -/
def OnContents (C : Γ → Γ → Prop) (x y : Latch × Γ) : Prop := C x.2 y.2

/-- `MMDAD` is a window on the register `z`. -/
def Window (z : MmdAddr) (x : Latch × Γ) : Prop := x.1.fnctn = fnctnData ∧ x.1.target = z

/-- A read that returns the same from related contents, and keeps them related. -/
def Insensitive (C : Γ → Γ → Prop) (load : W → Γ → U16 × Γ) : Prop :=
  ∀ w γ γ', C γ γ' → (load w γ).1 = (load w γ').1 ∧ C (load w γ).2 (load w γ').2

theorem insensitive_eq (load : W → Γ → U16 × Γ) : Insensitive Eq load := by
  rintro w γ _ rfl
  exact ⟨rfl, rfl⟩

/-- A read without side effects. -/
theorem insensitive_of_quiet {C : Γ → Γ → Prop} (hC : ∀ γ γ', C γ γ' → γ = γ')
    {load : W → Γ → U16 × Γ} (hload : ∀ w γ, (load w γ).2 = γ) : Insensitive C load := by
  intro w γ γ' h
  rw [hload, hload]
  obtain rfl := hC γ γ' h
  exact ⟨rfl, h⟩

section Accesses

variable {chip addr} {C : Γ → Γ → Prop}

theorem mdioRead_agrees {r : U8} (hctrl : r ≠ regMmdctrl) (hmmdad : r ≠ regMmdad)
    (hread : Insensitive C (chip.read r)) :
    (mdioRead addr r : Mdio ε U16).Agrees (chip.react addr) (OnContents C) (OnContents C)
      fun _ => OnContents C := by
  refine Fallible.agrees_request ?_ (fun _ _ h => h) (fun _ _ _ h => h)
  rintro w ⟨l, γ⟩ ⟨l', γ'⟩ h
  rw [react_read hctrl hmmdad, react_read hctrl hmmdad]
  exact hread w γ γ' h

theorem mdioWrite_agrees {r : U8} (v : U16) (hctrl : r ≠ regMmdctrl) (hmmdad : r ≠ regMmdad) :
    (mdioWrite addr r v : Mdio ε Unit).Agrees (chip.react addr) (OnContents Eq) (OnContents Eq)
      fun _ => OnContents Eq := by
  refine Fallible.agrees_request ?_ (fun _ _ h => h) (fun _ _ _ h => h)
  rintro w ⟨l, γ⟩ ⟨l', γ'⟩ h
  rw [react_write hctrl hmmdad, react_write hctrl hmmdad]
  exact ⟨rfl, congrArg (chip.write r v w) h⟩

/-- **Steps 1 to 3 leave the contents alone, from any latches**, and once they have
succeeded both latches select the register. -/
theorem mmdSelect_agrees (devad : U8) (reg : U16) :
    (mmdSelect addr devad reg : Mdio ε Unit).Agrees (chip.react addr) (OnContents C)
      (OnContents C) fun _ x y => OnContents C x y ∧ Window (mmdAddr devad reg) x ∧
        Window (mmdAddr devad reg) y := by
  -- the latches before the second and before the third of them
  let afterCtrl : Latch × Γ → Latch × Γ → Prop := fun x y =>
    OnContents C x y ∧ x.1.fnctn = fnctnAddr ∧ y.1.fnctn = fnctnAddr
  let afterPoint : Latch × Γ → Latch × Γ → Prop := fun x y =>
    OnContents C x y ∧ x.1.regAddr = reg ∧ y.1.regAddr = reg
  have hctrl : (mdioWrite addr regMmdctrl (mmdctrlFnctnAddr ||| devadField devad) :
      Mdio ε Unit).Agrees (chip.react addr) (OnContents C) (OnContents C)
      fun _ => afterCtrl := by
    refine Fallible.agrees_request ?_ (fun _ _ h => h) (fun _ _ _ h => h.1)
    rintro w ⟨l, γ⟩ ⟨l', γ'⟩ h
    rw [react_ctrl, react_ctrl]
    exact ⟨rfl, h, fnctn_addr devad, fnctn_addr devad⟩
  have hpoint : (mdioWrite addr regMmdad reg : Mdio ε Unit).Agrees (chip.react addr)
      afterCtrl (OnContents C) fun _ => afterPoint := by
    refine Fallible.agrees_request ?_ (fun _ _ h => h.1) (fun _ _ _ h => h.1)
    rintro w ⟨l, γ⟩ ⟨l', γ'⟩ ⟨h, hl, hl'⟩
    rw [react_pointTo hl, react_pointTo hl']
    exact ⟨rfl, h, rfl, rfl⟩
  have hdata : (mdioWrite addr regMmdctrl (mmdctrlFnctnData ||| devadField devad) :
      Mdio ε Unit).Agrees (chip.react addr) afterPoint (OnContents C) fun _ x y =>
        OnContents C x y ∧ Window (mmdAddr devad reg) x ∧ Window (mmdAddr devad reg) y := by
    refine Fallible.agrees_request ?_ (fun _ _ h => h.1) (fun _ _ _ h => h.1)
    rintro w ⟨l, γ⟩ ⟨l', γ'⟩ ⟨h, hl, hl'⟩
    rw [react_ctrl, react_ctrl]
    refine ⟨rfl, h, ⟨fnctn_data devad, ?_⟩, fnctn_data devad, ?_⟩
    · exact Prod.ext (devad_data devad) hl
    · exact Prod.ext (devad_data devad) hl'
  exact hctrl.bind fun _ => hpoint.bind fun _ => hdata

/-- **A read of an MMD register does not see the latch.** -/
theorem mmdRead_agrees (devad : U8) (reg : U16)
    (hload : Insensitive C (chip.mmdLoad (mmdAddr devad reg))) :
    (mmdRead addr devad reg : Mdio ε U16).Agrees (chip.react addr) (OnContents C)
      (OnContents C) fun _ => OnContents C := by
  refine (mmdSelect_agrees devad reg).bind fun _ => ?_
  refine Fallible.agrees_request ?_ (fun _ _ h => h.1) (fun _ _ _ h => h)
  rintro w ⟨l, γ⟩ ⟨l', γ'⟩ ⟨h, ⟨hl, hreg⟩, hl', hreg'⟩
  rw [react_load hl, react_load hl', show l.target = _ from hreg,
    show l'.target = _ from hreg']
  exact hload w γ γ' h

/-- **A write of an MMD register does not see the latch.** -/
theorem mmdWrite_agrees (devad : U8) (reg value : U16) :
    (mmdWrite addr devad reg value : Mdio ε Unit).Agrees (chip.react addr) (OnContents Eq)
      (OnContents Eq) fun _ => OnContents Eq := by
  refine (mmdSelect_agrees devad reg).bind fun _ => ?_
  refine Fallible.agrees_request ?_ (fun _ _ h => h.1) (fun _ _ _ h => h)
  rintro w ⟨l, γ⟩ ⟨l', γ'⟩ ⟨h, ⟨hl, hreg⟩, hl', hreg'⟩
  rw [react_store hl, react_store hl', show l.target = _ from hreg,
    show l'.target = _ from hreg']
  exact ⟨rfl, congrArg (chip.mmdStore (mmdAddr devad reg) value w) h⟩

theorem mmdRmw_agrees (devad : U8) (reg clearMask setMask : U16) :
    (mmdRmw addr devad reg clearMask setMask : Mdio ε Unit).Agrees (chip.react addr)
      (OnContents Eq) (OnContents Eq) fun _ => OnContents Eq :=
  (mmdRead_agrees devad reg (insensitive_eq _)).bind fun _ => mmdWrite_agrees devad reg _

end Accesses

/-! ## The simulated chip -/

/-- The simulated LAN8670, whose `STS2` is cleared when it is read. -/
def lan8670 : Lan867xChip Unit RegFile where
  read r _ f := (SimulatedChip.lan8670.clause22 r, f)
  write r v _ f :=
    if r = Ieee802_3.regs.bmcr ∧ v &&& Ieee802_3.bmcr.reset ≠ 0 then
      SimulatedChip.datasheet.defaults
    else f
  disturb _ _ _ x := x.1
  mmdLoad z _ f := (f z, if z = sts2 then Function.update f sts2 0 else f)
  mmdStore z v _ f := Function.update f z v
  other t _ x := match t with
    | .read _ _ => (0xFFFF, x)
    | .write _ _ _ => ((), x)
  read_quiet _ _ _ _ := rfl
  mmdLoad_quiet x hx _ f := if_neg fun h => absurd (h ▸ hx) (by decide)

/-- The chip with the latch and the contents. -/
def silicon (x : Latch × RegFile) : Silicon := ⟨x.1.fnctn, x.1.devad, x.1.regAddr, x.2⟩

/-- Reading a register changes no more of it than its status. -/
theorem lan8670_load_drift (l : Latch) (f : RegFile) (z : MmdAddr) :
    (silicon (l, f)).Drift SimulatedChip.statusRegs
      (silicon (l, (lan8670.mmdLoad z () f).2)) := by
  refine ⟨rfl, rfl, rfl, fun x hx => ?_⟩
  show (if z = sts2 then Function.update f sts2 0 else f) x = f x
  split
  · exact Function.update_of_ne (fun h => hx (.inl h)) _ _
  · rfl

theorem lan8670_effect (t : Txn) (x : Latch × RegFile) :
    (silicon x).Effect (lan867x SimulatedChip.datasheet) addr t (lan8670.react addr t () x).1
      (silicon (lan8670.react addr t () x).2) := by
  obtain ⟨l, f⟩ := x
  cases t with
  | read a r =>
    refine ⟨silicon (l, f), ?_, ?_⟩
    · by_cases hr : a = addr ∧ r = regMmdad
      · obtain ⟨rfl, rfl⟩ := hr
        simp only [Silicon.Access, and_self, if_true]
        constructor
        · intro hl
          have hl : l.fnctn = fnctnAddr := hl
          simp [react, hl, silicon]
        · intro hl
          have hl : l.fnctn = fnctnData := hl
          rw [react_load hl]
          exact ⟨rfl, trivial⟩
      · simp [Silicon.Access, hr]
    · simp only [react]
      split
      · exact .refl _
      · split
        · exact lan8670_load_drift l f l.target
        · split
          · exact .refl _
          · exact .refl _
  | write a r v =>
    refine ⟨silicon (lan8670.react addr (.write a r v) () (l, f)).2, ?_, .refl _⟩
    by_cases ha : a = addr
    · subst ha
      by_cases hctrl : r = regMmdctrl
      · subst hctrl
        rw [react_ctrl]
        simp [Silicon.Access, silicon, Silicon.select]
      by_cases hmmdad : r = regMmdad
      · subst hmmdad
        simp only [Silicon.Access, ne_eq, not_true_eq_false, if_false, hctrl, if_true]
        constructor
        · intro hl
          have hl : l.fnctn = fnctnAddr := hl
          rw [react_pointTo hl]
          rfl
        · intro hl
          have hl : l.fnctn = fnctnData := hl
          rw [react_store hl]
          rfl
      · rw [react_write hctrl hmmdad]
        simp only [Silicon.Access, ne_eq, not_true_eq_false, if_false, hctrl, hmmdad]
        by_cases hreset : r = Ieee802_3.regs.bmcr ∧ v &&& Ieee802_3.bmcr.reset ≠ 0
        · rw [if_pos hreset]
          exact if_pos hreset
        · rw [if_neg hreset]
          exact congrArg (fun g => silicon (l, g)) (if_neg hreset)
    · simp [Silicon.Access, ha, react, lan8670]

/-- **The simulated chip is a conforming LAN867x**, whatever the script. -/
theorem lan8670_conforms :
    (lan8670.react addr).handler.Conforms
      (device (ε := ε) True (lan867x SimulatedChip.datasheet) addr) (fun s => silicon s.2) :=
  Reaction.handler_conforms silicon Silicon.Drift.refl fun t _ x => lan8670_effect addr t x

end Lan867xChip
end EthPhy
