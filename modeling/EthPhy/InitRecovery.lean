import EthPhy.Lan867xPlan
import EthPhy.Reliable

/-!
# init recovers from every history

A chip that completes its reset in time: BMCR.RESET has cleared by the 500th read of
BMCR, and RESETC is reported by the 500th read of `STS2`, once.  `Part` is what is
particular to one chip, and `Part.device` adds the progress of the reset to the
device the driver is proved against elsewhere.

Against it a fault-free `init` succeeds, whatever the driver remembered and whatever
state the chip was in, and what it leaves depends on the part alone
(`init_recovers`): both polling loops end within their bounds, and the first write
of `init` has erased everything the later steps could depend on.
-/

namespace EthPhy
open Interaction Lan867x

variable {ε : Type}

/-! ## A chip that completes its reset -/

/-- The `PKGTYP` code of each package. -/
def pkgtyp : Chip → U16
  | .lan8670 => strapCtrl0PkgtypLan8670
  | .lan8671 => strapCtrl0PkgtypLan8671
  | .lan8672 => strapCtrl0PkgtypLan8672

/-- **What is particular to one LAN867x.** -/
structure Part where
  datasheet : Datasheet
  package : Chip
  phyId1 : U16
  phyId2 : U16
  strap : U16
  /-- Of the family, whatever the revision nibble. -/
  family : ((phyId1.setWidth 32 <<< 16) ||| phyId2.setWidth 32) &&& phyOuiModelMask =
    phyOuiModelLan867x
  strap_pkgtyp : strap &&& strapCtrl0PkgtypMask = pkgtyp package
  midver_not_status : midver ∉ datasheet.status
  midver_default : datasheet.defaults midver = midverExpected

/-- The chip, and how far it has got since its last reset. -/
structure Booting where
  chip : Silicon
  bmcrReads : Nat
  sts2Reads : Nat
  /-- Reset completion has not been reported yet. -/
  pending : Bool

namespace Booting

/-- The reset has not moved on. -/
def Same (s s' : Booting) : Prop :=
  s'.bmcrReads = s.bmcrReads ∧ s'.sts2Reads = s.sts2Reads ∧ s'.pending = s.pending

theorem Same.trans {s s' s'' : Booting} (h : s.Same s') (h' : s'.Same s'') : s.Same s'' :=
  ⟨h'.1.trans h.1, h'.2.1.trans h.2.1, h'.2.2.trans h.2.2⟩

/-- `MMDAD` is a window on `STS2`. -/
def OnSts2 (s : Booting) : Prop :=
  s.chip.fnctn = fnctnData ∧ (s.chip.devad, s.chip.regAddr) = sts2

instance (s : Booting) : Decidable s.OnSts2 := inferInstanceAs (Decidable (_ ∧ _))

end Booting

namespace Part

variable (p : Part)

/-- **What a transaction has to do with the reset and the identity of the chip.** -/
def Boots (addr : U8) (s : Booting) : (t : Txn) → t.Reply → Booting → Prop
  | .write a r v, _, s' =>
    if a = addr ∧ r = Ieee802_3.regs.bmcr ∧ v &&& Ieee802_3.bmcr.reset ≠ 0 then
      s'.bmcrReads = 0 ∧ s'.sts2Reads = 0 ∧ s'.pending = true
    else s.Same s'
  | .read a r, v, s' =>
    if a = addr ∧ r = Ieee802_3.regs.bmcr then
      s'.bmcrReads = s.bmcrReads + 1 ∧ s'.sts2Reads = s.sts2Reads ∧ s'.pending = s.pending ∧
        (500 ≤ s'.bmcrReads → v &&& Ieee802_3.bmcr.reset = 0)
    else if a = addr ∧ r = regMmdad ∧ s.OnSts2 then
      s'.bmcrReads = s.bmcrReads ∧ s'.sts2Reads = s.sts2Reads + 1 ∧
        s'.pending = (s.pending && v &&& sts2Resetc == 0) ∧
        (s.pending = true → 500 ≤ s'.sts2Reads → v &&& sts2Resetc ≠ 0)
    else
      s.Same s' ∧ (a = addr →
        (r = Ieee802_3.regs.phyidr1 → v = p.phyId1) ∧ (r = Ieee802_3.regs.phyidr2 → v = p.phyId2) ∧
        (r = regStrapCtrl0 → v = p.strap))

/-- **The chip behind a bus that may lose any transaction.**  Once reset completion
has been reported, RESETC stays clear. -/
def device (addr : U8) : Device Txn.Reply ε Booting := fun s t r s' =>
  Lan867x.device True (lan867x p.datasheet) addr s.chip t r s'.chip ∧
    ∀ v, r = .ok v → p.Boots addr s t v s' ∧
      (s'.pending = false → s'.chip.mmd sts2 &&& sts2Resetc = 0)

end Part

/-! ## Helper functions -/

section Helpers

variable {p : Part} {addr : U8} {s : Booting}

/-- What is ensured of the chip alone. -/
theorem ensures_chip {α : Type} {x : Mdio ε α}
    {Q : List (Exchange Txn.Reply ε Silicon) → Except ε α → Silicon → Prop}
    (h : x.run.Ensures (device True (lan867x p.datasheet) addr) s.chip Q) :
    x.run.Ensures (p.device addr).reliable s fun l r s' =>
      Q (l.map (Exchange.map Booting.chip)) r s'.chip :=
  (h.pull fun _ _ _ _ hr => hr.1).reliable

/-- A write that is not a reset. -/
theorem write_same {r : U8} {v : U16} {s' : Booting} (hr : r ≠ Ieee802_3.regs.bmcr)
    (h : p.device addr s (.write addr r v) (.ok () : Except ε Unit) s') : s.Same s' := by
  have hb := (h.2 () rfl).1
  simpa only [Part.Boots, hr, false_and, and_false, if_false] using hb

/-- Selecting a register leaves the reset alone. -/
theorem mmdSelect_boots (devad : U8) (reg : U16) :
    (mmdSelect addr devad reg : Mdio ε Unit).run.Ensures (p.device addr).reliable s
      fun _ r s' => ∃ u, r = .ok u ∧ s.Same s' ∧ s.chip.Agree p.datasheet.status s'.chip ∧
        s'.chip.fnctn = fnctnData ∧
        (s'.chip.devad, s'.chip.regAddr) = mmdAddr devad reg := by
  have hsame : (mmdSelect addr devad reg : Mdio ε Unit).run.Ensures (p.device addr).reliable s
      fun _ r s' => r = .ok () ∧ s.Same s' := by
    refine Fallible.reliable_request_bind fun _ s₁ h₁ => ?_
    refine Fallible.reliable_request_bind fun _ s₂ h₂ => ?_
    refine Fallible.reliable_request fun _ s₃ h₃ => ⟨rfl, ?_⟩
    exact ((write_same (by decide) h₁).trans (write_same (by decide) h₂)).trans
      (write_same (by decide) h₃)
  refine (hsame.and (ensures_chip (mmdSelect_ensures addr devad reg s.chip))).mono ?_
  rintro l r s' ⟨⟨rfl, hs⟩, hquiet, hsel⟩
  exact ⟨(), rfl, hs, hquiet.1, (hsel rfl).2.1, (hsel rfl).2.2⟩

/-- Reading a register other than `STS2` leaves the reset alone. -/
theorem mmdRead_boots {devad : U8} {reg : U16} (hx : mmdAddr devad reg ≠ sts2) :
    (mmdRead addr devad reg : Mdio ε U16).run.Ensures (p.device addr).reliable s
      fun _ r s' => ∃ v, r = .ok v ∧ s.Same s' ∧ s.chip.Agree p.datasheet.status s'.chip ∧
        (mmdAddr devad reg ∉ p.datasheet.status → v = s.chip.mmd (mmdAddr devad reg)) := by
  have hsame : (mmdRead addr devad reg : Mdio ε U16).run.Ensures (p.device addr).reliable s
      fun _ r s' => (∃ v, r = .ok v) ∧ s.Same s' := by
    refine Fallible.reliable_bind (mmdSelect_boots devad reg) ?_
    rintro l u s₁ ⟨hs, -, -, hsel⟩
    refine Fallible.reliable_request fun v s' h => ⟨⟨v, rfl⟩, hs.trans ?_⟩
    have hb := (h.2 v rfl).1
    have hnot : ¬s₁.OnSts2 := fun hon => hx (hsel.symm.trans hon.2)
    rw [Part.Boots, if_neg fun h => absurd h.2 (by decide), if_neg fun h => hnot h.2.2] at hb
    exact hb.1
  refine (hsame.and (ensures_chip (mmdRead_ensures addr devad reg s.chip))).mono ?_
  rintro l r s' ⟨⟨⟨v, rfl⟩, hs⟩, hquiet, hfetch⟩
  exact ⟨v, rfl, hs, hquiet.1, fun hst => (hfetch v rfl).eq hst⟩

/-- Reading `STS2` counts, and reports reset completion at most once. -/
theorem mmdRead_sts2 :
    (mmdRead addr mmdVs2 mmdRegSts2 : Mdio ε U16).run.Ensures (p.device addr).reliable s
      fun _ r s' => ∃ v, r = .ok v ∧ s.chip.Agree p.datasheet.status s'.chip ∧
        s'.sts2Reads = s.sts2Reads + 1 ∧ s'.pending = (s.pending && v &&& sts2Resetc == 0) ∧
        (s.pending = true → 500 ≤ s'.sts2Reads → v &&& sts2Resetc ≠ 0) := by
  have hcount : (mmdRead addr mmdVs2 mmdRegSts2 : Mdio ε U16).run.Ensures (p.device addr).reliable s
      fun _ r s' => ∃ v, r = .ok v ∧ s'.sts2Reads = s.sts2Reads + 1 ∧
        s'.pending = (s.pending && v &&& sts2Resetc == 0) ∧
        (s.pending = true → 500 ≤ s'.sts2Reads → v &&& sts2Resetc ≠ 0) := by
    refine Fallible.reliable_bind (mmdSelect_boots mmdVs2 mmdRegSts2) ?_
    rintro l u s₁ ⟨⟨-, hn, hp⟩, -, hf, hsel⟩
    refine Fallible.reliable_request fun v s' h => ⟨v, rfl, ?_⟩
    have hb := (h.2 v rfl).1
    rw [Part.Boots, if_neg fun h => absurd h.2 (by decide), if_pos ⟨rfl, rfl, hf, hsel⟩, hn,
      hp] at hb
    exact hb.2
  refine (hcount.and (ensures_chip (mmdRead_ensures addr mmdVs2 mmdRegSts2 s.chip))).mono ?_
  rintro l r s' ⟨⟨v, rfl, hn, hp, hv⟩, hquiet, -⟩
  exact ⟨v, rfl, hquiet.1, hn, hp, hv⟩

/-- A read-modify-write leaves the reset alone. -/
theorem mmdRmw_boots {devad : U8} {reg : U16} (clearMask setMask : U16)
    (hx : mmdAddr devad reg ∉ p.datasheet.status) (hsts2 : mmdAddr devad reg ≠ sts2)
    {f : RegFile} (hf : s.chip.Holds p.datasheet.status f) :
    (mmdRmw addr devad reg clearMask setMask : Mdio ε Unit).run.Ensures (p.device addr).reliable s
      fun _ r s' => ∃ u, r = .ok u ∧ s.Same s' ∧
        s'.chip.Holds p.datasheet.status (f.rmw (mmdAddr devad reg) clearMask setMask) ∧
        (s'.pending = false → s'.chip.mmd sts2 &&& sts2Resetc = 0) := by
  have hsame : (mmdRmw addr devad reg clearMask setMask : Mdio ε Unit).run.Ensures
      (p.device addr).reliable s fun _ r s' => r = .ok () ∧ s.Same s' ∧
        (s'.pending = false → s'.chip.mmd sts2 &&& sts2Resetc = 0) := by
    refine Fallible.reliable_bind (mmdRead_boots hsts2) ?_
    rintro l v s₁ ⟨hs₁, -, -⟩
    refine Fallible.reliable_bind (mmdSelect_boots devad reg) ?_
    rintro l u s₂ ⟨hs₂, -, -⟩
    refine Fallible.reliable_request fun _ s' h => ⟨rfl, ?_, (h.2 () rfl).2⟩
    exact (hs₁.trans hs₂).trans (write_same (by decide) h)
  refine (hsame.and (ensures_chip
    (mmdRmw_follows addr devad reg clearMask setMask hx s.chip hf))).mono ?_
  rintro l r s' ⟨⟨rfl, hs, hclear⟩, hprog, -⟩
  exact ⟨(), rfl, hs, hprog.reached rfl, hclear⟩

/-- From the reset defaults, with reset completion still to be reported. -/
def Fresh (p : Part) (s : Booting) : Prop :=
  s.chip.Holds p.datasheet.status p.datasheet.defaults ∧ s.sts2Reads = 0 ∧ s.pending = true

/-- **RESET clears within the bound.** -/
theorem pollReset_boots (n : Nat) (hn : 0 < n) (hbound : 500 ≤ s.bmcrReads + n)
    (hs : Fresh p s) :
    (Ieee802_3.pollReset addr n : Mdio ε Bool).run.Ensures (p.device addr).reliable s
      fun _ r s' => ∃ b, r = .ok b ∧ b = true ∧ Fresh p s' := by
  induction n generalizing s with
  | zero => omega
  | succ n ih =>
    refine Fallible.reliable_request_bind fun v s₁ h => ?_
    obtain ⟨hreads, hsts2, hpending, hclear⟩ := by
      simpa only [Part.Boots, and_self, if_true] using (h.2 v rfl).1
    have hfresh : Fresh p s₁ :=
      ⟨hs.1.of_agree (read_step (by decide) h.1), hsts2.trans hs.2.1, hpending.trans hs.2.2⟩
    by_cases hv : v &&& Ieee802_3.bmcr.reset = 0
    · rw [if_pos hv]
      exact ⟨true, rfl, rfl, hfresh⟩
    · rw [if_neg hv]
      have hlt : s₁.bmcrReads < 500 := by
        by_contra hge
        exact hv (hclear (by omega))
      exact ih (by omega) (by omega) hfresh

/-- **RESETC is reported within the bound**, and consumed. -/
theorem pollResetc_boots (n : Nat) (hn : 0 < n) (hbound : 500 ≤ s.sts2Reads + n)
    (hs : s.chip.Holds p.datasheet.status p.datasheet.defaults) (hpending : s.pending = true) :
    (PhyLan867x.pollResetc addr n : Mdio ε Bool).run.Ensures (p.device addr).reliable s
      fun _ r s' => ∃ b, r = .ok b ∧ b = true ∧
        s'.chip.Holds p.datasheet.status p.datasheet.defaults ∧ s'.pending = false := by
  induction n generalizing s with
  | zero => omega
  | succ n ih =>
    refine Fallible.reliable_bind mmdRead_sts2 ?_
    rintro l v s₁ ⟨hagree, hreads, hp, hv⟩
    rw [hpending, Bool.true_and] at hp
    by_cases hset : v &&& sts2Resetc ≠ 0
    · rw [if_pos hset]
      exact ⟨true, rfl, rfl, hs.of_agree hagree, hp.trans (beq_eq_false_iff_ne.mpr hset)⟩
    · rw [if_neg hset]
      have hlt : s₁.sts2Reads < 500 := by
        by_contra hge
        exact hset (hv hpending (by omega))
      refine ih (by omega) (by omega) (hs.of_agree hagree) ?_
      rw [hp, beq_iff_eq]
      exact not_not.mp hset

/-- **A soft reset completes.** -/
theorem softReset_boots :
    (Ieee802_3.softReset addr 500 : Mdio ε Bool).run.Ensures (p.device addr).reliable s
      fun _ r s' => ∃ b, r = .ok b ∧ b = true ∧ Fresh p s' := by
  refine Fallible.reliable_request_bind fun u s₁ h => ?_
  have hreset : Ieee802_3.bmcr.reset &&& Ieee802_3.bmcr.reset ≠ 0 := by decide
  obtain ⟨hreads, hsts2, hpending⟩ := by
    simpa only [Part.Boots, hreset, ne_eq, not_false_eq_true, and_self, if_true] using
      (h.2 u rfl).1
  refine pollReset_boots 500 (by omega) (by omega) ⟨?_, hsts2, hpending⟩
  rcases reset_step h.1 with ⟨⟨e, he⟩, -⟩ | ⟨-, m, hm, hag⟩
  · cases he
  · exact fun x hx => (hag x hx).trans (congrFun hm x)

/-- Any other read leaves the reset alone, and returns what the part is. -/
theorem read_part {r : U8} (hr : r ≠ Ieee802_3.regs.bmcr) (hr' : r ≠ regMmdad) {v : U16}
    {s' : Booting} (h : p.device addr s (.read addr r) (.ok v : Except ε U16) s') :
    s.Same s' ∧ s.chip.Agree p.datasheet.status s'.chip ∧
      (r = Ieee802_3.regs.phyidr1 → v = p.phyId1) ∧ (r = Ieee802_3.regs.phyidr2 → v = p.phyId2) ∧
      (r = regStrapCtrl0 → v = p.strap) := by
  have hb := (h.2 v rfl).1
  rw [Part.Boots, if_neg fun h => hr h.2, if_neg fun h => hr' h.2.1] at hb
  exact ⟨hb.1, read_step hr' h.1, hb.2 rfl⟩

theorem readPhyId_boots :
    (Ieee802_3.readPhyId addr : Mdio ε U32).run.Ensures (p.device addr).reliable s
      fun _ r s' => ∃ id, r = .ok id ∧ id &&& phyOuiModelMask = phyOuiModelLan867x ∧
        s.Same s' ∧ s.chip.Agree p.datasheet.status s'.chip := by
  refine Fallible.reliable_request_bind fun id1 s₁ h₁ => ?_
  obtain ⟨hs₁, hagree₁, hid1, -, -⟩ := read_part (by decide) (by decide) h₁
  refine Fallible.reliable_request_bind fun id2 s₂ h₂ => ?_
  obtain ⟨hs₂, hagree₂, -, hid2, -⟩ := read_part (by decide) (by decide) h₂
  obtain rfl := hid1 rfl
  obtain rfl := hid2 rfl
  exact ⟨_, rfl, p.family, hs₁.trans hs₂, hagree₁.trans hagree₂⟩

theorem readStrap_boots :
    (mdioRead addr regStrapCtrl0 : Mdio ε U16).run.Ensures (p.device addr).reliable s
      fun _ r s' => ∃ v, r = .ok v ∧ v = p.strap ∧ s.Same s' ∧
        s.chip.Agree p.datasheet.status s'.chip := by
  refine Fallible.reliable_request fun v s' h => ?_
  obtain ⟨hs, hagree, -, -, hstrap⟩ := read_part (by decide) (by decide) h
  exact ⟨v, rfl, hstrap rfl, hs, hagree⟩

end Helpers

/-! ## init -/

/-- The package the strap of a part names. -/
theorem Part.chipOfStrap (p : Part) : PhyLan867x.chipOfStrap p.strap = some p.package := by
  unfold PhyLan867x.chipOfStrap
  rw [p.strap_pkgtyp]
  cases p.package <;> rfl

/-- **What a fault-free init leaves depends on the part alone.** -/
structure Recovered (p : Part) (addr : U8) (phy : PhyLan867x) (s : Booting) : Prop where
  driver : phy = ⟨addr, some p.package, none⟩
  registers : s.chip.Holds p.datasheet.status (p.datasheet.defaults.rmw t1spmactl 0 t1spmactlMde)
  consumed : s.chip.mmd sts2 &&& sts2Resetc = 0

theorem init_boots (p : Part) (phy : PhyLan867x) (s : Booting) :
    ((PhyLan867x.init : DriverM ε PhyLan867x (PhyError ε) Unit).on phy).Ensures
      (p.device phy.addr).reliable s fun _ r s' =>
        r.1 = .ok () ∧ Recovered p phy.addr r.2 s' := by
  refine Method.reliable_lift_bind softReset_boots ?_
  rintro l _ s₁ ⟨rfl, hregs₁, hreads₁, hpending₁⟩
  refine Method.reliable_lift_bind
    (pollResetc_boots 500 (by omega) (by omega) hregs₁ hpending₁) ?_
  rintro l _ s₂ ⟨rfl, hregs₂, hpending₂⟩
  refine Method.reliable_lift_bind readPhyId_boots ?_
  rintro l id s₃ ⟨hid, hs₃, hagree₃⟩
  rw [if_neg (not_not.mpr hid)]
  refine Method.reliable_lift_bind readStrap_boots ?_
  rintro l _ s₄ ⟨rfl, hs₄, hagree₄⟩
  rw [p.chipOfStrap]
  refine Method.reliable_lift_bind (mmdRead_boots (by decide)) ?_
  rintro l v s₅ ⟨hs₅, hagree₅, hv⟩
  have hregs₄ : s₄.chip.Holds p.datasheet.status p.datasheet.defaults :=
    (hregs₂.of_agree hagree₃).of_agree hagree₄
  have hmidver : v = midverExpected := by
    rw [hv p.midver_not_status]
    exact (hregs₄ _ p.midver_not_status).trans p.midver_default
  rw [if_neg (not_not.mpr hmidver)]
  refine Method.reliable_lift_bind
    (mmdRmw_boots 0 t1spmactlMde p.datasheet.t1spmactl_not_status (by decide)
      (hregs₄.of_agree hagree₅)) ?_
  rintro l _ s₆ ⟨hs₆, hregs₆, hconsumed⟩
  have hsame := ((hs₃.trans hs₄).trans hs₅).trans hs₆
  exact ⟨rfl, rfl, hregs₆, hconsumed (hsame.2.2.trans hpending₂)⟩

/-- Two recovered chips of one part cannot be told apart. -/
theorem Recovered.agree {p : Part} {addr : U8} {phy phy' : PhyLan867x} {s s' : Booting}
    (h : Recovered p addr phy s) (h' : Recovered p addr phy' s') :
    phy = phy' ∧ s.chip.Agree p.datasheet.status s'.chip :=
  ⟨h.driver.trans h'.driver.symm,
    fun x hx => (h'.registers x hx).trans (h.registers x hx).symm⟩

/-- The same of a call of `init`. -/
theorem init_op_boots (p : Part) (phy : PhyLan867x) (s : Booting) :
    (Lan867xCall.init.op phy : Program Txn.Reply ε _).Ensures (p.device phy.addr).reliable s
      fun _ r s' => r.1 = .phy (.ok .unit) ∧ Recovered p phy.addr r.2 s' := by
  refine (Program.ensures_map _ _ _).mpr ((init_boots p phy s).mono ?_)
  rintro l ⟨r, phy'⟩ s' ⟨hr, hrec⟩
  obtain rfl : r = .ok () := hr
  exact ⟨rfl, hrec⟩

/-- What a fault-free call of `init` leaves. -/
theorem recovered_of_faultFree {σ : Type} {p : Part} {bus : MdioBus ε σ} {view : σ → Booting}
    {phy : PhyLan867x} (hbus : bus.handler.Conforms (p.device phy.addr) view) {s : σ}
    (hff : ((Lan867xCall.init.op phy).run bus.handler s).FaultFree) :
    let o := (Lan867xCall.init.op phy).run bus.handler s
    o.value.1 = .phy (.ok .unit) ∧ Recovered p phy.addr o.value.2 (view o.state) :=
  (init_op_boots p phy (view s)).run_faultFree hbus hff

/-- **A fault-free init recovers from every history, and erases it**: whatever the
driver remembered and whatever state the chip was in, it succeeds, and after two of
them driver and registers are the same. -/
theorem init_recovers {σ : Type} (p : Part) (bus : MdioBus ε σ) (view : σ → Booting) (addr : U8)
    (hbus : bus.handler.Conforms (p.device addr) view) (phy : PhyLan867x)
    (hphy : phy.addr = addr) (s : σ) :
    let o := (Lan867xCall.init.op phy).run bus.handler s
    o.FaultFree →
      o.value.1 = .phy (.ok .unit) ∧ Recovered p addr o.value.2 (view o.state) ∧
      ∀ (phy' : PhyLan867x) (s' : σ), phy'.addr = addr →
        let o' := (Lan867xCall.init.op phy').run bus.handler s'
        o'.FaultFree →
          o.value = o'.value ∧
            (view o.state).chip.Agree p.datasheet.status (view o'.state).chip := by
  intro o hff
  subst hphy
  obtain ⟨hok, hrec⟩ := recovered_of_faultFree hbus hff
  refine ⟨hok, hrec, ?_⟩
  intro phy' s' hphy' o' hff'
  rw [← hphy'] at hbus
  obtain ⟨hok', hrec'⟩ := recovered_of_faultFree hbus hff'
  rw [hphy'] at hrec'
  obtain ⟨hdriver, hregs⟩ := hrec.agree hrec'
  exact ⟨Prod.ext (hok.trans hok'.symm) hdriver, hregs⟩

/-! ## The slowest chip

It takes the 500 reads it has, both times. -/

namespace Booting

/-- The state, with the RESETC bit its counters call for. -/
def settled (s : Booting) : Booting :=
  { s with chip := { s.chip with
      mmd := Function.update s.chip.mmd sts2
        (if s.pending ∧ 499 ≤ s.sts2Reads then sts2Resetc else 0) } }

/-- A read at address `addr` of the slowest LAN8670. -/
def slowRead (addr a r : U8) (s : Booting) : U16 × Booting :=
  let x := SimulatedChip.lan8670.afterRead addr s.settled.chip a r
  if a = addr ∧ r = Ieee802_3.regs.bmcr then
    (if s.bmcrReads < 499 then Ieee802_3.bmcr.reset else 0,
      { s with chip := x.2, bmcrReads := s.bmcrReads + 1 })
  else if a = addr ∧ r = regMmdad ∧ s.settled.OnSts2 then
    (x.1, { s with
      chip := x.2, sts2Reads := s.sts2Reads + 1, pending := s.pending && x.1 &&& sts2Resetc == 0 })
  else (x.1, { s with chip := x.2 })

/-- A write. -/
def slowWrite (addr a r : U8) (v : U16) (s : Booting) : Booting :=
  let c := SimulatedChip.lan8670.afterWrite addr s.settled.chip a r v
  if a = addr ∧ r = Ieee802_3.regs.bmcr ∧ v &&& Ieee802_3.bmcr.reset ≠ 0 then ⟨c, 0, 0, true⟩
  else { s with chip := c }

/-- The bus in front of the slowest LAN8670; it never fails. -/
def slowBus (addr : U8) : MdioBus String Booting where
  read a r s := (.ok (slowRead addr a r s).1, (slowRead addr a r s).2)
  write a r v s := (.ok (), slowWrite addr a r v s)

/-- Settling is something the chip may do on its own. -/
theorem settled_drift (s : Booting) : s.chip.Drift SimulatedChip.statusRegs s.settled.chip := by
  refine ⟨rfl, rfl, rfl, fun x hx => Function.update_of_ne ?_ _ _⟩
  rintro rfl
  exact hx (.inl rfl)

end Booting

/-- A LAN8670 of silicon revision 2. -/
def slowPart : Part where
  datasheet := SimulatedChip.datasheet
  package := .lan8670
  phyId1 := 0
  phyId2 := 0xC562
  strap := strapCtrl0PkgtypLan8670
  family := by decide
  strap_pkgtyp := by decide
  midver_not_status := SimulatedChip.not_status (by decide) (by decide)
  midver_default := by decide

section Slow

variable {addr a r : U8} {v : U16} {s : Booting}

/-- A chip that does what was asked of it, and settles, is still the device. -/
theorem settled_effect {t : Txn} {v : t.Reply} {s s' : Booting}
    (h : s.chip.Effect (lan867x slowPart.datasheet) addr t v s'.chip) :
    s.chip.Effect (lan867x slowPart.datasheet) addr t v s'.settled.chip := by
  obtain ⟨m, hm, hd⟩ := h
  obtain ⟨hf, hv, hr, hmmd⟩ := s'.settled_drift
  exact ⟨m, hm, hf.trans hd.1, hv.trans hd.2.1, hr.trans hd.2.2.1, hd.agree.trans hmmd⟩

/-- What `STS2` reads on the slowest chip. -/
theorem settled_sts2 (s : Booting) : s.settled.chip.mmd sts2 =
    if s.pending ∧ 499 ≤ s.sts2Reads then sts2Resetc else 0 := by
  simp only [Booting.settled, Function.update_self]

/-- Once reset completion has been reported, RESETC reads zero. -/
theorem settled_consumed (h : s.settled.pending = false) :
    s.settled.chip.mmd sts2 &&& sts2Resetc = 0 := by
  have hnot : ¬(s.pending = true ∧ 499 ≤ s.sts2Reads) := fun h' => absurd (h'.1.symm.trans h) nofun
  rw [settled_sts2, if_neg hnot]
  rfl

theorem slowRead_effect : s.settled.chip.Effect (lan867x slowPart.datasheet) addr (.read a r)
    (Booting.slowRead addr a r s).1 (Booting.slowRead addr a r s).2.chip := by
  have heff := SimulatedChip.lan8670.afterRead_effect addr s.settled.chip a r
  unfold Booting.slowRead
  dsimp only
  split
  · -- the reply is not that of `lan8670`, but only the reply of `MMDAD` matters
    obtain ⟨-, rfl⟩ := ‹_›
    have hnot : ¬(a = addr ∧ Ieee802_3.regs.bmcr = regMmdad) := fun h => absurd h.2 (by decide)
    simp only [Silicon.Effect, Silicon.Access, if_neg hnot] at heff ⊢
    exact heff
  · split
    · exact heff
    · exact heff

theorem slowRead_boots : slowPart.Boots addr s.settled (.read a r)
    (Booting.slowRead addr a r s).1 (Booting.slowRead addr a r s).2.settled := by
  unfold Part.Boots Booting.slowRead
  dsimp only
  split
  · refine ⟨rfl, rfl, rfl, fun hge => ?_⟩
    have hlast : ¬s.bmcrReads < 499 := Nat.not_lt.mpr (Nat.le_of_succ_le_succ hge)
    simp only [hlast, if_false]
    rfl
  · split
    · obtain ⟨rfl, rfl, hf, hsel⟩ := ‹_›
      refine ⟨rfl, rfl, rfl, fun hpending hge => ?_⟩
      have hload : (SimulatedChip.lan8670.afterRead a s.settled.chip a regMmdad).1 =
          s.settled.chip.mmd sts2 := by
        simp [SimulatedChip.afterRead, hf, show fnctnData ≠ fnctnAddr by decide, Silicon.load, hsel]
      dsimp only
      rw [hload, settled_sts2, if_pos ⟨hpending, Nat.le_of_succ_le_succ hge⟩]
      exact show sts2Resetc &&& sts2Resetc ≠ 0 by decide
    · refine ⟨⟨rfl, rfl, rfl⟩, ?_⟩
      rintro rfl
      simp only [SimulatedChip.afterRead, true_and]
      refine ⟨?_, ?_, ?_⟩
      · rintro rfl
        rfl
      · rintro rfl
        rfl
      · rintro rfl
        rfl

theorem slowWrite_effect : s.settled.chip.Effect (lan867x slowPart.datasheet) addr (.write a r v) ()
    (Booting.slowWrite addr a r v s).chip := by
  have heff := SimulatedChip.lan8670.afterWrite_effect addr s.settled.chip a r v
  unfold Booting.slowWrite
  dsimp only
  split
  · exact heff
  · exact heff

theorem slowWrite_boots : slowPart.Boots addr s.settled (.write a r v) ()
    (Booting.slowWrite addr a r v s).settled := by
  unfold Part.Boots Booting.slowWrite
  dsimp only
  split
  · exact ⟨rfl, rfl, rfl⟩
  · exact ⟨rfl, rfl, rfl⟩

end Slow

theorem slowBus_conforms (addr : U8) :
    (Booting.slowBus addr).handler.Conforms (slowPart.device addr) Booting.settled := by
  intro t s
  cases t with
  | read a r =>
    refine ⟨settled_effect slowRead_effect, ?_⟩
    intro v hv
    obtain rfl := Except.ok.inj hv
    exact ⟨slowRead_boots, settled_consumed⟩
  | write a r v =>
    exact ⟨settled_effect slowWrite_effect, fun _ _ => ⟨slowWrite_boots, settled_consumed⟩⟩

theorem slowBus_reliable (addr : U8) (t : Txn) (s : Booting) :
    ∃ v, ((Booting.slowBus addr).handler t s).1 = .ok v := by
  cases t with
  | read a r => exact ⟨_, rfl⟩
  | write a r v => exact ⟨_, rfl⟩

/-- A chip new to the driver, and one left half-way through an access by a driver
that takes it for a LAN8672 with PLCA on. -/
theorem init_recovers_slow :
    let o := (Lan867xCall.init.op (PhyLan867x.new 3)).run (Booting.slowBus 3).handler
      ⟨⟨0, 0, 0, SimulatedChip.datasheet.defaults⟩, 0, 0, true⟩
    let o' := (Lan867xCall.init.op ⟨3, some .lan8672, some 5⟩).run (Booting.slowBus 3).handler
      ⟨staleChip, 700, 2, false⟩
    o.value.1 = .phy (.ok .unit) ∧ o.value = o'.value ∧
      o.state.settled.chip.Agree SimulatedChip.statusRegs o'.state.settled.chip := by
  intro o o'
  have hff : ∀ (p : Program Txn.Reply String (Response String × PhyLan867x)) (s : Booting),
      (p.run (Booting.slowBus 3).handler s).FaultFree :=
    Program.run_faultFree_of_reliable (slowBus_reliable 3)
  have h := init_recovers slowPart (Booting.slowBus 3) Booting.settled 3 (slowBus_conforms 3)
    (PhyLan867x.new 3) rfl ⟨⟨0, 0, 0, SimulatedChip.datasheet.defaults⟩, 0, 0, true⟩ (hff _ _)
  exact ⟨h.1, h.2.2 ⟨3, some .lan8672, some 5⟩ ⟨staleChip, 700, 2, false⟩ rfl (hff _ _)⟩

end EthPhy
