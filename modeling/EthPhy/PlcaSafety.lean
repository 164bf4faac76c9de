import EthPhy.Lan867xPlan
import EthPhy.Session

/-!
# PLCA is never on with an invalid or stale identity

`configurePlca` writes the identity of the node first and turns PLCA on last.  So
in every state of the chip, between any two transactions and on a bus that may lose
any of them, PLCA is on only with a valid identity, and a transaction that turns it
on finds the identity and the burst setting of the call in progress.

Both are facts about the plans: they hold in every place (`plan_sound`) and on
every step (`plan_rising`), and a run only moves along its plan.
-/

namespace EthPhy
open Interaction Lan867x

/-! ## Fields -/

/-- `PLCA_CTRL1.ID`. -/
def idField (ctrl1 : U16) : U8 := (ctrl1 &&& plcaCtrl1IdMask).setWidth 8

/-- `PLCA_CTRL1.NCNT`. -/
def ncntField (ctrl1 : U16) : U8 := (ctrl1 >>> plcaCtrl1NcntShift).setWidth 8

/-- `PLCA_BURST.BTMR`. -/
def btmrField (burst : U16) : U8 := burst.setWidth 8

theorem idField_ctrl1Of (config : PlcaConfig) :
    idField (PhyLan867x.ctrl1Of config) = config.nodeId := by
  unfold idField
  rw [BitVec.setWidth_and, show plcaCtrl1IdMask.setWidth 8 = BitVec.allOnes 8 by decide,
    BitVec.and_allOnes]
  exact Bits.low_byte config.nodeCount config.nodeId

theorem ncntField_ctrl1Of (config : PlcaConfig) :
    ncntField (PhyLan867x.ctrl1Of config) = config.nodeCount :=
  Bits.high_byte config.nodeCount config.nodeId

/-- The burst timer is never programmed as zero. -/
theorem btmrField_burstOf (config : PlcaConfig) :
    btmrField (PhyLan867x.burstOf config) ≠ 0 := by
  unfold btmrField PhyLan867x.burstOf PhyLan867x.btmrOf
  split
  · rw [show (0x80 : U16) = (0x80 : U8).setWidth 16 from rfl, Bits.low_byte]
    decide
  · rw [Bits.low_byte]
    assumption

/-! ## Sound register files -/

/-- **PLCA is on only with a valid identity.** -/
def RegFile.Sound (f : RegFile) : Prop :=
  f.PlcaOn → idField (f plcaCtrl1) ≠ plcaIdDisabled ∧
    (ncntField (f plcaCtrl1) = 0 ∨ idField (f plcaCtrl1) < ncntField (f plcaCtrl1)) ∧
    btmrField (f plcaBurst) ≠ 0

/-- **What one transaction of a call may do**: it leaves a sound register file, and
if it turns PLCA on, the call is `configurePlca` and the registers are those of its
configuration, a burst timer of zero standing for `0x80`. -/
structure RegFile.Guarded (call : Lan867xCall) (f f' : RegFile) : Prop where
  before : f.Sound
  after : f'.Sound
  rising : ¬f.PlcaOn → f'.PlcaOn → ∃ config, call = .configurePlca config ∧
    f' plcaCtrl1 = (config.nodeCount.setWidth 16 <<< 8) ||| config.nodeId.setWidth 16 ∧
    f' plcaBurst = (config.burstCount.setWidth 16 <<< 8) |||
      (if config.burstTimer = 0 then 0x80 else config.burstTimer.setWidth 16)

namespace RegFile

variable {call : Lan867xCall} {f f' g g' : RegFile}

theorem sound_of_off (h : ¬f.PlcaOn) : f.Sound := fun hon => absurd hon h

/-- A transaction that turns nothing on. -/
theorem Guarded.of_imp (h : f.Sound) (h' : f'.Sound) (himp : f'.PlcaOn → f.PlcaOn) :
    Guarded call f f' := ⟨h, h', fun hoff hon => absurd (himp hon) hoff⟩

/-- Being sound is a matter of the three PLCA registers. -/
theorem Sound.congr (h : f.Sound) (h₀ : f' plcaCtrl0 = f plcaCtrl0)
    (h₁ : f' plcaCtrl1 = f plcaCtrl1) (hb : f' plcaBurst = f plcaBurst) : f'.Sound := by
  unfold Sound PlcaOn at h ⊢
  rw [h₀, h₁, hb]
  exact h

/-- The identity of a valid configuration is sound. -/
theorem Sound.of_config {config : PlcaConfig} (hvalid : config.Valid)
    (h₁ : f plcaCtrl1 = PhyLan867x.ctrl1Of config)
    (hb : f.PlcaOn → btmrField (f plcaBurst) ≠ 0) : f.Sound := by
  intro hon
  rw [h₁, idField_ctrl1Of, ncntField_ctrl1Of]
  exact ⟨hvalid.1, hvalid.2, hb hon⟩

end RegFile

/-- What the chip holds is sound if the register file is. -/
theorem Silicon.Holds.guarded {d : Datasheet} {call : Lan867xCall} {f f' : RegFile}
    {c c' : Silicon} (hc : c.Holds d.status f) (hc' : c'.Holds d.status f')
    (h : f.Guarded call f') :
    RegFile.Guarded call c.mmd c'.mmd := by
  have hctrl1 := hc' _ d.plcaCtrl1_not_status
  have hburst := hc' _ d.plcaBurst_not_status
  refine ⟨?_, ?_, fun hoff hon => ?_⟩
  · exact h.before.congr (hc _ d.plcaCtrl0_not_status) (hc _ d.plcaCtrl1_not_status)
      (hc _ d.plcaBurst_not_status)
  · exact h.after.congr (hc' _ d.plcaCtrl0_not_status) hctrl1 hburst
  · rw [hctrl1, hburst]
    exact h.rising (fun hf => hoff (hc.plcaOn.mpr hf)) (hc'.plcaOn.mp hon)

/-! ## Plans are guarded -/

namespace Lan867xCall

variable {call : Lan867xCall} {d : Datasheet} {f g : RegFile}

theorem defaults_off (d : Datasheet) : ¬d.defaults.PlcaOn := not_not.mpr d.plcaOff

/-- `configurePlca` stays sound all along, and turns PLCA on with the identity and
the burst setting it has just written. -/
theorem configuredBy_guarded {config : PlcaConfig} (hvalid : config.Valid) (hf : f.Sound) :
    (∀ g ∈ f :: configuredBy config f, g.Sound) ∧
      (f :: configuredBy config f).IsChain (RegFile.Guarded (.configurePlca config)) := by
  let f₁ : RegFile := Function.update f plcaCtrl1 (PhyLan867x.ctrl1Of config)
  let f₂ : RegFile := Function.update f₁ plcaBurst (PhyLan867x.burstOf config)
  let f₃ : RegFile := f₂.rmw plcaCtrl0 0 plcaCtrl0En
  have h₁ : f₁ plcaCtrl1 = PhyLan867x.ctrl1Of config := Function.update_self ..
  have h₂ : f₂ plcaCtrl1 = PhyLan867x.ctrl1Of config :=
    (Function.update_of_ne (by decide) _ _).trans h₁
  have hb₂ : f₂ plcaBurst = PhyLan867x.burstOf config := Function.update_self ..
  have h₃ : f₃ plcaCtrl1 = PhyLan867x.ctrl1Of config :=
    (RegFile.rmw_of_ne _ (by decide) _ _).trans h₂
  have hb₃ : f₃ plcaBurst = PhyLan867x.burstOf config :=
    (RegFile.rmw_of_ne _ (by decide) _ _).trans hb₂
  -- the enable bit moves with the last write only
  have hon₁ : f₁.PlcaOn ↔ f.PlcaOn := by
    unfold RegFile.PlcaOn
    rw [show f₁ plcaCtrl0 = f plcaCtrl0 from Function.update_of_ne (by decide) _ _]
  have hon₂ : f₂.PlcaOn ↔ f₁.PlcaOn := by
    unfold RegFile.PlcaOn
    rw [show f₂ plcaCtrl0 = f₁ plcaCtrl0 from Function.update_of_ne (by decide) _ _]
  have hs₁ : f₁.Sound := by
    refine .of_config hvalid h₁ fun hon => ?_
    rw [show f₁ plcaBurst = f plcaBurst from Function.update_of_ne (by decide) _ _]
    exact (hf (hon₁.mp hon)).2.2
  have hs₂ : f₂.Sound := .of_config hvalid h₂ fun _ => hb₂ ▸ btmrField_burstOf config
  have hs₃ : f₃.Sound := .of_config hvalid h₃ fun _ => hb₃ ▸ btmrField_burstOf config
  constructor
  · simpa [configuredBy] using ⟨hf, hs₁, hs₂, hs₃⟩
  · simp only [configuredBy, List.isChain_cons_cons, List.isChain_singleton, and_true]
    exact ⟨.of_imp hf hs₁ hon₁.mp, .of_imp hs₁ hs₂ hon₂.mp,
      ⟨hs₂, hs₃, fun _ _ => ⟨config, rfl, h₃, hb₃⟩⟩⟩

/-- **Every place of a plan is sound, and every step of it guarded.** -/
theorem plan_guarded (hf : f.Sound) :
    (∀ g ∈ f :: call.plan d f, g.Sound) ∧
      (f :: call.plan d f).IsChain (RegFile.Guarded call) := by
  cases call with
  | init =>
    have hoff : ¬RegFile.PlcaOn (d.defaults.rmw t1spmactl 0 t1spmactlMde) := (initialised d).2
    have hdef := RegFile.sound_of_off (defaults_off d)
    have hend := RegFile.sound_of_off hoff
    constructor
    · simpa [plan] using ⟨hf, hdef, hend⟩
    · simp only [plan, List.isChain_cons_cons, List.isChain_singleton, and_true]
      exact ⟨.of_imp hf hdef fun h => absurd h (defaults_off d),
        .of_imp hdef hend fun h => absurd h hoff⟩
  | configurePlca config =>
    by_cases hvalid : config.Valid
    · rw [plan_configurePlca hvalid]
      exact configuredBy_guarded hvalid hf
    · rw [plan_configurePlca_invalid hvalid]
      simpa using hf
  | disablePlca =>
    have hoff : ¬RegFile.PlcaOn (f.rmw plcaCtrl0 plcaCtrl0En 0) := disabled_plcaOff
    have hend := RegFile.sound_of_off hoff
    constructor
    · simpa [plan] using ⟨hf, hend⟩
    · exact List.isChain_pair.mpr (.of_imp hf hend fun h => absurd h hoff)
  | _ => simpa [plan] using hf

/-- **What one call does to a sound chip**, whatever the bus loses: every transaction
is guarded, and the chip is sound at the end. -/
theorem guarded {ε : Type} (call : Lan867xCall) (d : Datasheet) (phy : PhyLan867x)
    {c : Silicon} (hsound : RegFile.Sound c.mmd) :
    (call.op phy : Program Txn.Reply ε _).Ensures (device True (lan867x d) phy.addr) c
      fun l r c' => (∀ x ∈ l, RegFile.Guarded call x.pre.mmd x.post.mmd) ∧
        r.2.addr = phy.addr ∧ RegFile.Sound c'.mmd := by
  refine (call.follows d phy (f := c.mmd) (fun _ _ => rfl)).mono ?_
  rintro l ⟨r, phy'⟩ c' ⟨hprog, hupd⟩
  obtain ⟨hplaces, hsteps⟩ := call.plan_guarded (d := d) hsound
  refine ⟨fun x hx => ?_, hupd.addr, ?_⟩
  · -- a transaction stays where it is or makes one step of the plan
    have hstay : ∀ g ∈ c.mmd :: call.plan d c.mmd, RegFile.Guarded call g g :=
      fun g hg => .of_imp (hplaces g hg) (hplaces g hg) id
    obtain ⟨g, k, hgk, hpre, hpost⟩ := hprog.forall_moves hstay hsteps x hx
    exact hpre.guarded hpost hgk
  · obtain ⟨g, hg, hc'⟩ := hprog.somewhere
    exact (hplaces g hg).congr (hc' _ d.plcaCtrl0_not_status) (hc' _ d.plcaCtrl1_not_status)
      (hc' _ d.plcaBurst_not_status)

end Lan867xCall

/-- **PLCA is never on with an invalid or stale identity.**  From a chip with PLCA
off, over every session and on a bus that may lose any transaction, before or after
it reached the chip: each transaction of the next call is guarded. -/
theorem plca_never_stale {ε σ : Type} (d : Datasheet) (bus : MdioBus ε σ)
    (view : σ → Silicon) (phy₀ : PhyLan867x)
    (hbus : bus.handler.Conforms (device True (lan867x d) phy₀.addr) view) (s : σ)
    (hoff : ¬RegFile.PlcaOn (view s).mmd) (calls : List Lan867xCall) (call : Lan867xCall) :
    let session := (serve bus.handler Lan867xCall.op).play calls (phy₀, s)
    let o := ((call.op session.2.1).run bus.handler session.2.2).map view
    ∀ x ∈ o.trace, RegFile.Guarded call x.pre.mmd x.post.mmd := by
  intro session
  obtain ⟨haddr, hsound⟩ : session.2.1.addr = phy₀.addr ∧ RegFile.Sound (view session.2.2).mmd :=
    serve_invariant_keyed PhyLan867x.addr (device True (lan867x d))
      (P := fun _ _ c => RegFile.Sound c.mmd) hbus
      (fun _ call phy _ (_ : True) h => (call.guarded d phy h).mono fun _ _ _ h => h.2)
      (fun _ _ => trivial) rfl (RegFile.sound_of_off hoff)
  rw [← haddr] at hbus
  exact ((call.guarded d session.2.1 hsound).run hbus).1

/-- A call of `configurePlca` whose enabling transaction is not confirmed. -/
theorem plca_never_stale_unconfirmed :
    let bus : MdioBus String (SimState String) := SimulatedChip.lan8670.bus 3 true
    let o := (((Lan867xCall.configurePlca ⟨1, 4, 0, 0⟩).op (PhyLan867x.new 3)).run bus.handler
      ⟨staleChip, List.replicate 15 .delivered ++ [.unconfirmed "timeout"]⟩).map SimState.chip
    ∀ x ∈ o.trace,
      RegFile.Guarded (.configurePlca ⟨1, 4, 0, 0⟩) x.pre.mmd x.post.mmd :=
  plca_never_stale SimulatedChip.datasheet _ SimState.chip (PhyLan867x.new 3)
    (SimulatedChip.lan8670.conforms 3 true fun _ => trivial)
    ⟨staleChip, List.replicate 15 .delivered ++ [.unconfirmed "timeout"]⟩
    (fun h => h (by decide)) [] (.configurePlca ⟨1, 4, 0, 0⟩)

end EthPhy
