import EthPhy.Lan867xPlan

/-!
# How far configurePlca gets

`configurePlca` makes its changes one register at a time, `PLCA_CTRL1` with its fourth
transaction, `PLCA_BURST` with the eighth, and the enable bit of `PLCA_CTRL0` with the
sixteenth.  When a transaction fails, what the chip holds is told by the number of the
transaction: the registers whose data write came before it are new, the others old.

This is for a bus whose failed transactions have no effect.
-/

namespace EthPhy
open Interaction Lan867x Lan867xCall

variable {ε σ : Type}

/-! ## One access -/

section Accesses

variable {M : ChipModel} {addr devad : U8} {reg : U16} {f : RegFile} {c : Silicon}

/-- An access that takes `n` transactions has left the registers `f'`, or it has stopped
at a transaction that failed and left the registers `f`. -/
def Stops (V : Set MmdAddr) (f f' : RegFile) (n : Nat)
    (l : List (Exchange Txn.Reply ε Silicon)) (c' : Silicon) : Except ε Unit → Prop
  | .ok _ => l.length = n ∧ c'.Holds V f'
  | .error _ => 1 ≤ l.length ∧ l.length ≤ n ∧ c'.Holds V f

/-- Where a failed transaction has no effect, an access stores or stops. -/
theorem stops_of_stored {V : Set MmdAddr} {x : MmdAddr} {v : U16} {n : Nat}
    {access : Mdio ε Unit} (hc : c.Holds V f)
    (hend : access.run.Ensures (device False M addr) c fun l r c' =>
      ((∃ e, r = .error e) ∧ c.Quiet V l c') ∨ ((False ∨ r = .ok ()) ∧ c.Stored V addr x v n l c'))
    (htakes : access.Takes n n) :
    access.run.Ensures (device False M addr) c fun l r c' =>
      Stops V f (Function.update f x v) n l c' r := by
  refine (hend.and (htakes.ensures (device False M addr) c)).mono ?_
  rintro l r c' ⟨hend, hlen⟩
  cases r with
  | ok u =>
    rcases hend with ⟨⟨e, he⟩, -⟩ | ⟨-, -, -, -, -, -, -, hm⟩
    · cases he
    · exact ⟨Nat.le_antisymm hlen.2 hlen.1, hc.update hm⟩
  | error e =>
    rcases hend with ⟨-, hq⟩ | ⟨hno | he, -⟩
    · exact ⟨hlen.1, hlen.2, hc.of_agree hq.1⟩
    · exact hno.elim
    · cases he

/-- **A write that fails has no effect**, and fails with one of its four transactions. -/
theorem mmdWrite_stops (value : U16) (hc : c.Holds M.volatile f) :
    (mmdWrite addr devad reg value : Mdio ε Unit).run.Ensures (device False M addr) c
      fun l r c' => Stops M.volatile f (Function.update f (mmdAddr devad reg) value) 4 l c' r :=
  stops_of_stored hc (mmdWrite_ensures addr devad reg c value)
    (mmdWrite_takes addr devad reg value)

/-- A read-modify-write that fails has no effect, and fails with one of its eight. -/
theorem mmdRmw_stops (clear set : U16) (hx : mmdAddr devad reg ∉ M.volatile)
    (hc : c.Holds M.volatile f) :
    (mmdRmw addr devad reg clear set : Mdio ε Unit).run.Ensures (device False M addr) c
      fun l r c' => Stops M.volatile f (f.rmw (mmdAddr devad reg) clear set) 8 l c' r := by
  have hrmw : f.rmw (mmdAddr devad reg) clear set = Function.update f (mmdAddr devad reg)
      ((c.mmd (mmdAddr devad reg) &&& ~~~clear) ||| set) := by
    rw [hc _ hx]
    rfl
  rw [hrmw]
  exact stops_of_stored hc (mmdRmw_ensures addr devad reg c clear set hx)
    (mmdRmw_takes addr devad reg clear set)

end Accesses

/-! ## The three accesses of configurePlca -/

section Stops

variable (config : PlcaConfig) (f : RegFile)

/-- The registers when `PLCA_CTRL1` has been written. -/
def withCtrl1 : RegFile := Function.update f plcaCtrl1 (PhyLan867x.ctrl1Of config)

/-- The registers when `PLCA_BURST` has been written, too. -/
def withBurst : RegFile :=
  Function.update (withCtrl1 config f) plcaBurst (PhyLan867x.burstOf config)

/-- The registers when PLCA has been enabled. -/
def withEnable : RegFile := (withBurst config f).rmw plcaCtrl0 0 plcaCtrl0En

/-- What the registers are when the `n`-th transaction has failed. -/
def stoppedAt (n : Nat) : RegFile :=
  if n ≤ 4 then f else if n ≤ 8 then withCtrl1 config f else withBurst config f

variable {config f}

/-- How a call of `configurePlca` ends that has made `n` transactions. -/
def PlcaEnd (d : Datasheet) (config : PlcaConfig) (phy : PhyLan867x) (f : RegFile) (n : Nat)
    (self : PhyLan867x) (c' : Silicon) : Except (PlcaError ε) Unit → Prop
  | .ok _ => n = 16 ∧ self = { phy with plcaId := some config.nodeId } ∧
      c'.Holds d.status (withEnable config f)
  | .error e => (∃ b, e = .mdio b) ∧ 1 ≤ n ∧ n ≤ 16 ∧ self = phy ∧
      c'.Holds d.status (stoppedAt config f n)

/-- **`configurePlca` stops where a transaction fails**, and not before. -/
theorem configurePlca_stops (d : Datasheet) (phy : PhyLan867x) (hvalid : config.Valid)
    {c : Silicon} (hc : c.Holds d.status f) :
    ((PhyLan867x.configurePlca config : DriverM ε PhyLan867x (PlcaError ε) Unit).on phy).Ensures
      (device False (lan867x d) phy.addr) c fun l r c' =>
        PlcaEnd d config phy f l.length r.2 c' r.1 := by
  obtain ⟨hid, hcount⟩ := hvalid
  have hcount : ¬(config.nodeCount ≠ 0 ∧ config.nodeId ≥ config.nodeCount) :=
    fun h => BitVec.not_lt.mpr h.2 (hcount.resolve_left h.1)
  unfold PhyLan867x.configurePlca
  rw [if_neg hid, if_neg hcount]
  refine Method.ensures_lift_bind (mmdWrite_stops (PhyLan867x.ctrl1Of config) hc) ?_ ?_
  · rintro l₁ ⟨⟩ c₁ ⟨hlen₁, hc₁⟩
    refine Method.ensures_lift_bind (mmdWrite_stops (PhyLan867x.burstOf config) hc₁) ?_ ?_
    · rintro l₂ ⟨⟩ c₂ ⟨hlen₂, hc₂⟩
      refine Method.ensures_lift_bind (mmdRmw_stops 0 plcaCtrl0En d.plcaCtrl0_not_status hc₂) ?_ ?_
      · rintro l₃ ⟨⟩ c₃ ⟨hlen₃, hc₃⟩
        refine ⟨?_, rfl, hc₃⟩
        simp [hlen₁, hlen₂, hlen₃]
      · rintro l₃ e c₃ ⟨hlo, hhi, hc₃⟩
        have hlen : (l₁ ++ (l₂ ++ l₃)).length = 8 + l₃.length := by
          simp [hlen₁, hlen₂]
          omega
        refine ⟨⟨e, rfl⟩, by omega, by omega, rfl, ?_⟩
        rw [hlen, stoppedAt, if_neg (by omega), if_neg (by omega)]
        exact hc₃
    · rintro l₂ e c₂ ⟨hlo, hhi, hc₂⟩
      have hlen : (l₁ ++ l₂).length = 4 + l₂.length := by simp [hlen₁]
      refine ⟨⟨e, rfl⟩, by omega, by omega, rfl, ?_⟩
      rw [hlen, stoppedAt, if_neg (by omega), if_pos (by omega)]
      exact hc₂
  · rintro l₁ e c₁ ⟨hlo, hhi, hc₁⟩
    refine ⟨⟨e, rfl⟩, hlo, by omega, rfl, ?_⟩
    rw [stoppedAt, if_pos hhi]
    exact hc₁

end Stops

/-! ## What a failure leaves -/

/-- The three registers of PLCA, in the order in which they are written. -/
def RegFile.plca (f : RegFile) : U16 × U16 × U16 := (f plcaCtrl1, f plcaBurst, f plcaCtrl0)

/-- **What a call of `configurePlca` with a valid configuration leaves** of the registers
`old`: the new `PLCA_CTRL1` is `NCNT[15:8] | ID[7:0]`, the new `PLCA_BURST`
`MAXBC[15:8] | BTMR[7:0]`, with the timer `0x80` for zero. -/
structure PlcaOutcome (d : Datasheet) (config : PlcaConfig) (phy : PhyLan867x) (old new : RegFile)
    (o : Outcome Txn.Reply ε σ (Except (PlcaError ε) Unit × PhyLan867x)) : Prop where
  completed : o.FaultFree →
    o.value = (.ok (), { phy with plcaId := some config.nodeId }) ∧ o.trace.length = 16 ∧
      new.plca = ((config.nodeCount.setWidth 16 <<< 8) ||| config.nodeId.setWidth 16,
        (config.burstCount.setWidth 16 <<< 8) |||
          (if config.burstTimer = 0 then 0x80 else config.burstTimer.setWidth 16),
        old plcaCtrl0 ||| 0x8000)
  /-- The `n`-th transaction fails, `n` being counted from one. -/
  stopped : ∀ l x l' e n, o.trace = l ++ x :: l' → x.fault = some e → l.length + 1 = n →
    l' = [] ∧ n ≤ 16 ∧ o.value = (.error (.mdio e), phy) ∧
      (n ≤ 4 → new.plca = old.plca) ∧
      (5 ≤ n → n ≤ 8 → new.plca =
        ((config.nodeCount.setWidth 16 <<< 8) ||| config.nodeId.setWidth 16, old plcaBurst,
          old plcaCtrl0)) ∧
      (9 ≤ n → new.plca =
        ((config.nodeCount.setWidth 16 <<< 8) ||| config.nodeId.setWidth 16,
          (config.burstCount.setWidth 16 <<< 8) |||
            (if config.burstTimer = 0 then 0x80 else config.burstTimer.setWidth 16),
          old plcaCtrl0))
  /-- No other register changes, but for those that show status and change by
  themselves. -/
  others : ∀ x, x ∉ d.status → x ≠ plcaCtrl1 → x ≠ plcaBurst → x ≠ plcaCtrl0 → new x = old x
  /-- No bit of `PLCA_CTRL0` other than EN changes. -/
  enable : new plcaCtrl0 &&& ~~~0x8000 = old plcaCtrl0 &&& ~~~0x8000

section Outcome

variable {d : Datasheet} {config : PlcaConfig} {f : RegFile} {c : Silicon}

theorem Silicon.Holds.plca_eq (h : c.Holds d.status f) : RegFile.plca c.mmd = f.plca := by
  unfold RegFile.plca
  rw [h _ d.plcaCtrl1_not_status, h _ d.plcaBurst_not_status, h _ d.plcaCtrl0_not_status]

theorem withCtrl1_plca : (withCtrl1 config f).plca =
    (PhyLan867x.ctrl1Of config, f plcaBurst, f plcaCtrl0) := by
  simp (disch := decide) [RegFile.plca, withCtrl1]

theorem withBurst_plca : (withBurst config f).plca =
    (PhyLan867x.ctrl1Of config, PhyLan867x.burstOf config, f plcaCtrl0) := by
  simp (disch := decide) [RegFile.plca, withBurst, withCtrl1]

theorem withEnable_plca : (withEnable config f).plca =
    (PhyLan867x.ctrl1Of config, PhyLan867x.burstOf config, f plcaCtrl0 ||| plcaCtrl0En) := by
  unfold RegFile.plca withEnable
  rw [RegFile.rmw_self, Bits.and_not_zero]
  simp (disch := decide) [RegFile.rmw_of_ne, withBurst, withCtrl1]

/-- The two register files differ in the PLCA registers only, and in `PLCA_CTRL0` only in
the enable bit. -/
structure SameButPlca (f f' : RegFile) : Prop where
  others : ∀ x, x ≠ plcaCtrl1 → x ≠ plcaBurst → x ≠ plcaCtrl0 → f' x = f x
  enable : f' plcaCtrl0 &&& ~~~plcaCtrl0En = f plcaCtrl0 &&& ~~~plcaCtrl0En

theorem withCtrl1_same : SameButPlca f (withCtrl1 config f) where
  others x h₁ _ _ := Function.update_of_ne h₁ _ _
  enable := by simp (disch := decide) [withCtrl1]

theorem withBurst_same : SameButPlca f (withBurst config f) where
  others x h₁ h₂ h₃ := (Function.update_of_ne h₂ _ _).trans (withCtrl1_same.others x h₁ h₂ h₃)
  enable := by simp (disch := decide) [withBurst, withCtrl1]

theorem withEnable_same : SameButPlca f (withEnable config f) where
  others x h₁ h₂ h₃ := (RegFile.rmw_of_ne _ h₃ _ _).trans (withBurst_same.others x h₁ h₂ h₃)
  enable := by
    rw [withEnable, RegFile.rmw_self, Bits.or_and_not, Bits.and_not_zero]
    exact withBurst_same.enable

theorem stoppedAt_same (n : Nat) : SameButPlca f (stoppedAt config f n) := by
  unfold stoppedAt
  split
  · exact ⟨fun _ _ _ _ => rfl, rfl⟩
  · split
    · exact withCtrl1_same
    · exact withBurst_same

/-- What the two checks of `configurePlca` reject. -/
theorem PlcaConfig.not_valid_iff : ¬config.Valid ↔
    config.nodeId = plcaIdDisabled ∨
      (config.nodeCount ≠ 0 ∧ config.nodeId ≥ config.nodeCount) := by
  unfold PlcaConfig.Valid
  rw [not_and_or, not_not, not_or, BitVec.not_lt]

theorem Silicon.Holds.same {f' : RegFile} (hc : c.Holds d.status f')
    (h : SameButPlca f f') :
    (∀ x, x ∉ d.status → x ≠ plcaCtrl1 → x ≠ plcaBurst → x ≠ plcaCtrl0 → c.mmd x = f x) ∧
      c.mmd plcaCtrl0 &&& ~~~plcaCtrl0En = f plcaCtrl0 &&& ~~~plcaCtrl0En := by
  refine ⟨fun x hx h₁ h₂ h₃ => (hc x hx).trans (h.others x h₁ h₂ h₃), ?_⟩
  rw [hc _ d.plcaCtrl0_not_status]
  exact h.enable

/-- A call that completed leaves what it should. -/
theorem PlcaOutcome.of_completed {phy : PhyLan867x}
    {o : Outcome Txn.Reply ε σ (Except (PlcaError ε) Unit × PhyLan867x)} (hfree : o.FaultFree)
    (hvalue : o.value = (.ok (), { phy with plcaId := some config.nodeId }))
    (hlen : o.trace.length = 16) (hregs : c.Holds d.status (withEnable config f)) :
    PlcaOutcome d config phy f c.mmd o := by
  obtain ⟨hothers, henable⟩ := hregs.same withEnable_same
  refine ⟨fun _ => ⟨hvalue, hlen, hregs.plca_eq.trans withEnable_plca⟩, ?_, hothers, henable⟩
  intro l x l' e n htrace hx _
  have hnone := hfree x (by rw [htrace]; simp)
  rw [hx] at hnone
  cases hnone

/-- So does a call that stopped at a transaction that failed, the last one it made. -/
theorem PlcaOutcome.of_stopped {phy : PhyLan867x} {b : ε}
    {o : Outcome Txn.Reply ε σ (Except (PlcaError ε) Unit × PhyLan867x)} (hfault : ¬o.FaultFree)
    (hstop : ∀ l x l' e, o.trace = l ++ x :: l' → x.fault = some e → l' = [] ∧ b = e)
    (hvalue : o.value = (.error (.mdio b), phy)) (hlen : o.trace.length ≤ 16)
    (hregs : c.Holds d.status (stoppedAt config f o.trace.length)) :
    PlcaOutcome d config phy f c.mmd o := by
  obtain ⟨hothers, henable⟩ := hregs.same (stoppedAt_same _)
  refine ⟨fun hfree => absurd hfree hfault, ?_, hothers, henable⟩
  intro l x l' e n htrace hx hn
  obtain ⟨hnil, rfl⟩ := hstop l x l' e htrace hx
  have hn : o.trace.length = n := by simp [htrace, hnil, hn]
  rw [hn] at hlen hregs
  have hplca := hregs.plca_eq
  refine ⟨hnil, hlen, hvalue, ?_, ?_, ?_⟩
  · intro h4
    rw [hplca, stoppedAt, if_pos h4]
  · intro h5 h8
    rw [hplca, stoppedAt, if_neg (by omega), if_pos h8]
    exact withCtrl1_plca
  · intro h9
    rw [hplca, stoppedAt, if_neg (by omega), if_neg (by omega)]
    exact withBurst_plca

end Outcome

/-- **A partial failure of `configurePlca` leaves exactly the documented states**, for
every conforming LAN867x on a bus whose failed transactions have no effect. -/
theorem configure_plca_partial_failure (d : Datasheet) (bus : MdioBus ε σ) (view : σ → Silicon)
    (phy : PhyLan867x)
    (hbus : bus.handler.Conforms (device False (lan867x d) phy.addr) view)
    (config : PlcaConfig) (s : σ) :
    let o := ((PhyLan867x.configurePlca config).on phy).run bus.handler s
    let invalid := config.nodeId = 0xFF ∨
      (config.nodeCount ≠ 0 ∧ config.nodeId ≥ config.nodeCount)
    (invalid → o.trace = [] ∧ o.value = (.error .invalidConfig, phy) ∧ o.state = s) ∧
      (¬invalid → PlcaOutcome d config phy (view s).mmd (view o.state).mmd o) := by
  intro o invalid
  have hvalid : ¬config.Valid ↔ invalid := PlcaConfig.not_valid_iff
  constructor
  · intro hinvalid
    have hdone := PhyLan867x.configurePlca_invalid (ε := ε) phy (hvalid.mpr hinvalid)
    simp only [o, hdone]
    exact ⟨rfl, rfl, rfl⟩
  · intro hno
    have hconfig : config.Valid := not_not.mp (mt hvalid.mp hno)
    have hold : (view s).Holds d.status (view s).mmd := fun _ _ => rfl
    have hend := (configurePlca_stops (ε := ε) d phy hconfig hold).run hbus
    have hstop := PhyLan867x.configurePlca_failStop (ε := ε) config phy
    have hfree : o.FaultFree ↔ reported PlcaError.bus? o.value.1 = none :=
      hstop.faultFree_iff bus.handler s
    simp only [Outcome.map_trace, Outcome.map_value, Outcome.map_state, List.length_map] at hend
    change PlcaEnd d config phy (view s).mmd o.trace.length o.value.2 (view o.state) o.value.1
      at hend
    rcases hr : o.value with ⟨r, self⟩
    rw [hr] at hend hfree
    cases r with
    | ok u =>
      obtain ⟨hlen, hself, hregs⟩ := hend
      exact .of_completed (hfree.mpr rfl) (by rw [hr, show self = _ from hself]) hlen hregs
    | error e =>
      obtain ⟨⟨b, rfl⟩, -, hhi, hself, hregs⟩ := hend
      have hvalue : o.value = (.error (.mdio b), phy) := by rw [hr, show self = _ from hself]
      refine .of_stopped (fun hff => ?_) ?_ hvalue hhi hregs
      · cases hfree.mp hff
      · intro l x l' e htrace hx
        obtain ⟨hnil, hreported⟩ := hstop.stopped bus.handler s htrace hx
        change reported PlcaError.bus? o.value.1 = some e at hreported
        rw [hr] at hreported
        exact ⟨hnil, Option.some.inj hreported⟩

/-- A LAN8670 with the reset defaults, and a bus that loses the sixth transaction. -/
def sixthLost : SimState Unit :=
  ⟨⟨fnctnData, 7, 2, SimulatedChip.datasheet.defaults⟩,
    List.replicate 5 .delivered ++ [.lost ()]⟩

/-- On it `configurePlca` stops with its sixth transaction, the new `PLCA_CTRL1` already
in place. -/
theorem configure_plca_partial_failure_sixth :
    let bus := (SimulatedChip.lan8670.bus 3 false : MdioBus Unit (SimState Unit))
    let phy := PhyLan867x.new 3
    let o := ((PhyLan867x.configurePlca ⟨1, 4, 0, 0⟩).on phy).run bus.handler sixthLost
    PlcaOutcome SimulatedChip.datasheet ⟨1, 4, 0, 0⟩ phy sixthLost.chip.mmd o.state.chip.mmd o ∧
      o.value = (.error (.mdio ()), phy) ∧ RegFile.plca o.state.chip.mmd = (0x0401, 0, 0) :=
  ⟨(configure_plca_partial_failure SimulatedChip.datasheet _ SimState.chip _
    (SimulatedChip.lan8670.conforms 3 false fun h => by cases h) ⟨1, 4, 0, 0⟩ sixthLost).2
    (by decide), by decide, by decide⟩

end EthPhy
