import EthPhy.MmdIndirection
import EthPhy.Operations
import EthPhy.Plan

/-!
# What the LAN867x operations do to the registers

The abstract driver: each operation as a plan, the list of register files it takes
the chip through.  `configurePlca` goes by way of `PLCA_CTRL1` and `PLCA_BURST` to
`PLCA_CTRL0`, `init` by way of the reset defaults to multidrop mode, and an operation
that only reads has the empty plan.

`Lan867xCall.follows` is the refinement: whatever the bus loses, a run of an
operation takes the chip along its plan and stops somewhere on it, at the end if it
succeeds.  On a bus whose failed transactions have no effect it is at the end only
if it succeeds.  What the driver remembers goes with it (`Lan867xCall.Updates`).
-/

namespace EthPhy
open Interaction Lan867x

/-! ## Plans -/

/-- The configurations `configurePlca` accepts. -/
def PlcaConfig.Valid (config : PlcaConfig) : Prop :=
  config.nodeId ≠ plcaIdDisabled ∧ (config.nodeCount = 0 ∨ config.nodeId < config.nodeCount)

instance (config : PlcaConfig) : Decidable config.Valid :=
  inferInstanceAs (Decidable (_ ∧ _))

example : PlcaConfig.default.Valid := by decide

namespace Lan867xCall

/-- The register files `configurePlca` takes the chip through. -/
def configuredBy (config : PlcaConfig) (f : RegFile) : List RegFile :=
  let f₁ : RegFile := Function.update f plcaCtrl1 (PhyLan867x.ctrl1Of config)
  let f₂ : RegFile := Function.update f₁ plcaBurst (PhyLan867x.burstOf config)
  [f₁, f₂, f₂.rmw plcaCtrl0 0 plcaCtrl0En]

/-- **The register files an operation takes the chip through**, from `f`. -/
def plan (d : Datasheet) (f : RegFile) : Lan867xCall → List RegFile
  | init => [d.defaults, d.defaults.rmw t1spmactl 0 t1spmactlMde]
  | configurePlca config => if config.Valid then configuredBy config f else []
  | disablePlca => [f.rmw plcaCtrl0 plcaCtrl0En 0]
  | pollLink | capabilities | phyId | plcaStatus => []

/-- **What an operation returns, and what the driver remembers of it.** -/
def Updates {ε : Type} : Lan867xCall → PhyLan867x → Response ε → PhyLan867x → Prop
  | init, phy, r, phy' => phy'.addr = phy.addr ∧ phy'.plcaId = none ∧ phy'.chip.isSome = r.isOk
  | configurePlca config, phy, r, phy' =>
    (config.Valid → r = .plca (.ok .unit) ∨ ∃ e, r = .plca (.error (.mdio e))) ∧
      (¬config.Valid → r = .plca (.error .invalidConfig)) ∧
      phy' = if r.isOk then { phy with plcaId := some config.nodeId } else phy
  | disablePlca, phy, r, phy' => phy' = if r.isOk then { phy with plcaId := none } else phy
  | pollLink, phy, _, phy' | capabilities, phy, _, phy' | phyId, phy, _, phy'
  | plcaStatus, phy, _, phy' => phy' = phy

end Lan867xCall

/-! ## Facts about plans -/

namespace Lan867xCall

variable {call : Lan867xCall} {config : PlcaConfig} {d : Datasheet} {f g : RegFile}

theorem plan_configurePlca (h : config.Valid) :
    (configurePlca config).plan d f = configuredBy config f := if_pos h

theorem plan_configurePlca_invalid (h : ¬config.Valid) :
    (configurePlca config).plan d f = [] := if_neg h

/-- No operation rebinds the driver. -/
theorem Updates.addr {ε : Type} {phy phy' : PhyLan867x} {r : Response ε}
    (h : call.Updates phy r phy') : phy'.addr = phy.addr := by
  cases call with
  | init => exact h.1
  | configurePlca config =>
    rw [h.2.2]
    split <;> rfl
  | disablePlca =>
    rw [show phy' = _ from h]
    split <;> rfl
  | _ => exact congrArg PhyLan867x.addr h

/-- No operation but `init` changes the package. -/
theorem Updates.chip_eq {ε : Type} {phy phy' : PhyLan867x} {r : Response ε}
    (h : call.Updates phy r phy') (hcall : call ≠ .init) : phy'.chip = phy.chip := by
  cases call with
  | init => exact absurd rfl hcall
  | configurePlca config =>
    rw [h.2.2]
    split <;> rfl
  | disablePlca =>
    rw [show phy' = _ from h]
    split <;> rfl
  | _ => exact congrArg PhyLan867x.chip h

theorem Updates.valid {ε : Type} {phy phy' : PhyLan867x} {r : Response ε}
    (h : (configurePlca config).Updates phy r phy') (hok : r.isOk = true) : config.Valid := by
  by_contra hno
  rw [h.2.1 hno] at hok
  cases hok

/-- Only `init` writes `T1SPMACTL`. -/
theorem plan_t1spmactl (hcall : call ≠ .init) (hg : g ∈ f :: call.plan d f) :
    g t1spmactl = f t1spmactl := by
  cases call with
  | init => exact absurd rfl hcall
  | configurePlca config =>
    by_cases hvalid : config.Valid
    · rw [plan_configurePlca hvalid] at hg
      simp only [configuredBy, List.mem_cons, List.not_mem_nil, or_false] at hg
      rcases hg with rfl | rfl | rfl | rfl
      · rfl
      all_goals simp (disch := decide) only [RegFile.rmw_of_ne, Function.update_of_ne]
    · rw [plan_configurePlca_invalid hvalid, List.mem_singleton] at hg
      rw [hg]
  | disablePlca =>
    simp only [plan, List.mem_cons, List.not_mem_nil, or_false] at hg
    rcases hg with rfl | rfl
    · rfl
    · exact RegFile.rmw_of_ne _ (by decide) _ _
  | _ =>
    obtain rfl := List.mem_singleton.mp hg
    rfl

/-- A run of any other operation leaves it alone. -/
theorem t1spmactl_kept {ε : Type} {strict ok : Prop} {l : List (Exchange Txn.Reply ε Silicon)}
    {c : Silicon} (hcall : call ≠ .init)
    (h : Progress (Silicon.Holds d.status) strict f (call.plan d f) ok l c) :
    c.mmd t1spmactl = f t1spmactl := by
  obtain ⟨g, hg, hc⟩ := h.somewhere
  rw [hc _ d.t1spmactl_not_status]
  exact plan_t1spmactl hcall hg

/-- `PLCA_CTRL0` is written last. -/
theorem plan_plcaCtrl0 (hcall : call ≠ .init) (hg : g ∈ f :: (call.plan d f).dropLast) :
    g plcaCtrl0 = f plcaCtrl0 := by
  cases call with
  | init => exact absurd rfl hcall
  | configurePlca config =>
    by_cases hvalid : config.Valid
    · rw [plan_configurePlca hvalid] at hg
      simp only [configuredBy, List.dropLast_cons_cons, List.dropLast_singleton, List.mem_cons,
        List.not_mem_nil, or_false] at hg
      rcases hg with rfl | rfl | rfl
      · rfl
      all_goals simp (disch := decide) only [Function.update_of_ne]
    · rw [plan_configurePlca_invalid hvalid] at hg
      rw [List.mem_singleton.mp hg]
  | _ =>
    obtain rfl := List.mem_singleton.mp hg
    rfl

/-- Nothing but the enable bit of `PLCA_CTRL0` is ever written after `init`. -/
theorem plan_plcaCtrl0_rest (hcall : call ≠ .init) (hg : g ∈ f :: call.plan d f) :
    g plcaCtrl0 &&& ~~~plcaCtrl0En = f plcaCtrl0 &&& ~~~plcaCtrl0En := by
  cases call with
  | init => exact absurd rfl hcall
  | configurePlca config =>
    by_cases hvalid : config.Valid
    · rw [plan_configurePlca hvalid] at hg
      simp only [configuredBy, List.mem_cons, List.not_mem_nil, or_false] at hg
      rcases hg with rfl | rfl | rfl | rfl
      · rfl
      · simp (disch := decide) only [Function.update_of_ne]
      · simp (disch := decide) only [Function.update_of_ne]
      · rw [RegFile.rmw_self, Bits.or_and_not, Bits.and_not_zero]
        simp (disch := decide) only [Function.update_of_ne]
    · rw [plan_configurePlca_invalid hvalid] at hg
      rw [List.mem_singleton.mp hg]
  | disablePlca =>
    simp only [plan, List.mem_cons, List.not_mem_nil, or_false] at hg
    rcases hg with rfl | rfl
    · rfl
    · rw [RegFile.rmw_self, show (0 : U16) = 0#16 from rfl, BitVec.or_zero, BitVec.and_assoc,
        BitVec.and_self]
  | _ =>
    obtain rfl := List.mem_singleton.mp hg
    rfl

/-- After `configurePlca` PLCA is on. -/
theorem configuredBy_plcaOn : RegFile.PlcaOn ((configuredBy config f).getLastD f) := by
  unfold RegFile.PlcaOn
  simp only [configuredBy, List.getLastD_cons, List.getLastD_nil, RegFile.rmw_self]
  rw [Bits.or_and_self]
  decide

/-- After `disablePlca` PLCA is off. -/
theorem disabled_plcaOff : ¬RegFile.PlcaOn (f.rmw plcaCtrl0 plcaCtrl0En 0) := by
  unfold RegFile.PlcaOn
  rw [RegFile.rmw_self, not_not, show (0 : U16) = 0#16 from rfl, BitVec.or_zero]
  exact Bits.andNot_and_self _ _

/-- After `init` multidrop mode is on and PLCA is off. -/
theorem initialised (d : Datasheet) :
    RegFile.MultidropOn (d.defaults.rmw t1spmactl 0 t1spmactlMde) ∧
      ¬RegFile.PlcaOn (d.defaults.rmw t1spmactl 0 t1spmactlMde) := by
  constructor
  · unfold RegFile.MultidropOn
    rw [RegFile.rmw_self, Bits.or_and_self]
    decide
  · unfold RegFile.PlcaOn
    rw [RegFile.rmw_of_ne _ (by decide), not_not]
    exact d.plcaOff

end Lan867xCall

/-! ## Helper functions follow their plans -/

namespace Silicon

variable {ε : Type} {V : Set MmdAddr} {f : RegFile} {c c' : Silicon}

theorem Holds.of_agree (h : c.Holds V f) (hc : c.Agree V c') : c'.Holds V f :=
  fun x hx => (hc x hx).trans (h x hx)

theorem Holds.update {x : MmdAddr} {v : U16} (h : c.Holds V f)
    (hc : ∀ y, y ∉ V → c'.mmd y = Function.update c.mmd x v y) :
    c'.Holds V (Function.update f x v) := by
  intro y hy
  rw [hc y hy]
  by_cases hyx : y = x
  · subst hyx
    simp
  · rw [Function.update_of_ne hyx, Function.update_of_ne hyx]
    exact h y hy

variable {l : List (Exchange Txn.Reply ε Silicon)}

/-- Quiet exchanges stay in one place. -/
theorem Quiet.along (hq : c.Quiet V l c') (h : c.Holds V f) : Along (Holds V) f [] l c' := by
  refine ⟨h.of_agree hq.1, fun x hx => ?_⟩
  obtain ⟨hpre, hpost⟩ := hq.2 x hx
  exact ⟨f, f, .inl ⟨List.mem_cons_self, rfl⟩, h.of_agree hpre, h.of_agree hpost⟩

/-- Exchanges that store a value go one place on. -/
theorem Stored.along {addr : U8} {x : MmdAddr} {v : U16} {n : Nat}
    (hst : c.Stored V addr x v n l c') (h : c.Holds V f) :
    Along (Holds V) f [Function.update f x v] l c' := by
  obtain ⟨l₀, c₀, r, rfl, -, hq, hc'⟩ := hst
  exact (hq.along h).append (Along.move (h.of_agree hq.1) (h.update hc'))

end Silicon

section Helpers

variable {ε : Type} {ambiguous : Prop} {M : ChipModel} {f : RegFile} (addr : U8)

theorem mdioRead_follows {reg : U8} (hreg : reg ≠ regMmdad) :
    (mdioRead addr reg : Mdio ε U16).Follows (device ambiguous M addr)
      (Silicon.Holds M.volatile) False f [] fun _ => True := by
  intro c hc
  refine Fallible.ensures_request ?_
  intro r c' h
  have hstay := Along.stay (r := r) hc (hc.of_agree (read_step hreg h))
  exact ⟨.start hstay (fun _ => rfl) (fun h => h.elim), fun _ _ => trivial⟩

/-- An MMD read changes nothing and returns the register. -/
theorem mmdRead_follows (devad : U8) (reg : U16) :
    (mmdRead addr devad reg : Mdio ε U16).Follows (device ambiguous M addr)
      (Silicon.Holds M.volatile) False f [] fun v =>
        mmdAddr devad reg ∉ M.volatile → v = f (mmdAddr devad reg) := by
  intro c hc
  refine (mmdRead_ensures addr devad reg c).mono ?_
  rintro l r c' ⟨hq, hfetch⟩
  refine ⟨.start (hq.along hc) (fun _ => rfl) (fun h => h.elim), ?_⟩
  intro v hr hx
  exact ((hfetch v hr).eq hx).trans (hc _ hx)

theorem mmdWrite_follows (devad : U8) (reg value : U16) :
    (mmdWrite addr devad reg value : Mdio ε Unit).Follows (device ambiguous M addr)
      (Silicon.Holds M.volatile) (¬ambiguous) f
      [Function.update f (mmdAddr devad reg) value] fun _ => True := by
  intro c hc
  refine (mmdWrite_ensures addr devad reg c value).mono ?_
  rintro l r c' (⟨⟨e, rfl⟩, hq⟩ | ⟨hr, hst⟩)
  · refine ⟨.start (hq.along hc) (fun h => by cases h) ?_, fun _ _ => trivial⟩
    exact fun _ _ => List.cons_ne_nil _ _
  · refine ⟨.all (hst.along hc) fun hna => ?_, fun _ _ => trivial⟩
    rw [hr.resolve_left hna]
    rfl

theorem mmdRmw_follows (devad : U8) (reg clearMask setMask : U16)
    (hx : mmdAddr devad reg ∉ M.volatile) :
    (mmdRmw addr devad reg clearMask setMask : Mdio ε Unit).Follows (device ambiguous M addr)
      (Silicon.Holds M.volatile) (¬ambiguous) f
      [f.rmw (mmdAddr devad reg) clearMask setMask] fun _ => True := by
  refine (mmdRead_follows addr devad reg).read_bind (fun v hv => ?_)
    (fun _ => List.cons_ne_nil _ _)
  obtain rfl := hv hx
  exact mmdWrite_follows addr devad reg _

theorem pollReset_follows (n : Nat) :
    (Ieee802_3.pollReset addr n : Mdio ε Bool).Follows (device ambiguous M addr)
      (Silicon.Holds M.volatile) False f [] fun _ => True := by
  induction n with
  | zero => exact .pure trivial
  | succ n ih =>
    refine (mdioRead_follows addr (by decide)).read_bind (fun val _ => ?_) (fun h => h.elim)
    split
    · exact .pure trivial
    · exact ih

theorem readPhyId_follows :
    (Ieee802_3.readPhyId addr : Mdio ε U32).Follows (device ambiguous M addr)
      (Silicon.Holds M.volatile) False f [] fun _ => True :=
  (mdioRead_follows addr (by decide)).read_bind
    (fun _ _ => (mdioRead_follows addr (by decide)).read_bind (fun _ _ => .pure trivial)
      (fun h => h.elim))
    (fun h => h.elim)

theorem readCapabilities_follows :
    (Ieee802_3.readCapabilities addr : Mdio ε PhyCapabilities).Follows (device ambiguous M addr)
      (Silicon.Holds M.volatile) False f [] fun _ => True :=
  (mdioRead_follows addr (by decide)).read_bind (fun _ _ => .pure trivial) (fun h => h.elim)

theorem pollResetc_follows (n : Nat) :
    (PhyLan867x.pollResetc addr n : Mdio ε Bool).Follows (device ambiguous M addr)
      (Silicon.Holds M.volatile) False f [] fun _ => True := by
  induction n with
  | zero => exact .pure trivial
  | succ n ih =>
    refine (mmdRead_follows addr mmdVs2 mmdRegSts2).read_bind (fun sts _ => ?_) (fun h => h.elim)
    split
    · exact .pure trivial
    · exact ih

/-- A soft reset takes the chip to its reset defaults. -/
theorem softReset_follows (d : Datasheet) (n : U32) :
    (Ieee802_3.softReset addr n : Mdio ε Bool).Follows (device ambiguous (lan867x d) addr)
      (Silicon.Holds d.status) False f [d.defaults] fun _ => True := by
  have hwrite : (mdioWrite addr Ieee802_3.regs.bmcr Ieee802_3.bmcr.reset : Mdio ε Unit).Follows
      (device ambiguous (lan867x d) addr) (Silicon.Holds d.status) False f [d.defaults]
      fun _ => True := by
    intro c hc
    refine Fallible.ensures_request ?_
    intro r c' h
    rcases reset_step h with ⟨⟨e, rfl⟩, hag⟩ | ⟨-, m, hm, hag⟩
    · exact ⟨.start (Along.stay hc (hc.of_agree hag)) (fun h => by cases h) (fun h => h.elim),
        fun _ _ => trivial⟩
    · have hreset : c'.Holds d.status d.defaults :=
        fun x hx => (hag x hx).trans (congrFun hm x)
      exact ⟨.all (Along.move hc hreset) (fun h => h.elim), fun _ _ => trivial⟩
  exact hwrite.bind (fun _ _ => pollReset_follows addr n.toNat) (fun h => h.elim)

end Helpers

/-! ## Operations follow their plans -/

section Operations

variable {ε : Type} {ambiguous : Prop} {f : RegFile} (d : Datasheet) (self : PhyLan867x)

namespace PhyLan867x
open Method

theorem init_follows :
    (init : DriverM ε PhyLan867x (PhyError ε) Unit).Follows
      (device ambiguous (lan867x d) self.addr) (Silicon.Holds d.status) (¬ambiguous) f self
      (Lan867xCall.init.plan d f)
      fun r self' => Lan867xCall.init.Updates self (.phy (r.map fun _ => .unit)) self' := by
  have herr : ∀ e : PhyError ε, Lan867xCall.init.Updates self (.phy (.error e))
      { self with plcaId := none, chip := none } := fun e => ⟨rfl, rfl, rfl⟩
  -- an error returned with the plan not finished
  have hthrow : ∀ e : PhyError ε, ∀ y : PUnit → DriverM ε PhyLan867x (PhyError ε) Unit,
      ∀ g, (throw e >>= y).Follows (device ambiguous (lan867x d) self.addr)
        (Silicon.Holds d.status) (¬ambiguous) d.defaults { self with plcaId := none, chip := none }
        [g] fun r self' => Lan867xCall.init.Updates self (.phy (r.map fun _ => .unit)) self' :=
    fun e y g => .ended rfl (fun h => by cases h) (fun _ _ => List.cons_ne_nil _ _) (herr e)
  have hne : ¬ambiguous → [d.defaults.rmw t1spmactl 0 t1spmactlMde] ≠ [] :=
    fun _ => List.cons_ne_nil _ _
  refine .modify_bind (.get_bind ?_)
  refine .lift_bind (p := [d.defaults]) (softReset_follows self.addr d 500) (fun cleared _ => ?_)
    hne (fun e => herr _)
  refine .ite (fun _ => hthrow _ _ _) (fun _ => ?_)
  refine .lift_bind (p := []) (pollResetc_follows self.addr 500) (fun gotResetc _ => ?_)
    hne (fun e => herr _)
  refine .ite (fun _ => hthrow _ _ _) (fun _ => ?_)
  refine .lift_bind (p := []) (readPhyId_follows self.addr) (fun id _ => ?_)
    hne (fun e => herr _)
  refine .ite (fun _ => hthrow _ _ _) (fun _ => ?_)
  refine .lift_bind (p := []) (mdioRead_follows self.addr (by decide)) (fun strap _ => ?_)
    hne (fun e => herr _)
  split
  · exact .ended rfl (fun h => by cases h) (fun _ _ => hne ‹_›) (herr _)
  · refine .lift_bind (p := []) (mmdRead_follows self.addr mmdVs2 mmdRegMidver)
      (fun midverVal _ => ?_) hne (fun e => herr _)
    refine .ite (fun _ => hthrow _ _ _) (fun _ => ?_)
    exact .lift_last
      (mmdRmw_follows self.addr mmdPmaPmd mmdRegT1spmactl 0 t1spmactlMde d.t1spmactl_not_status)
      (fun _ _ => ⟨_, _, rfl, rfl, rfl, rfl⟩) (fun e => herr _)

/-- An invalid configuration is refused before anything is done. -/
theorem configurePlca_invalid {config : PlcaConfig} (h : ¬config.Valid) :
    (configurePlca config : DriverM ε PhyLan867x (PlcaError ε) Unit).on self =
      .done (.error .invalidConfig, self) := by
  unfold configurePlca
  by_cases hid : config.nodeId = plcaIdDisabled
  · rw [if_pos hid]
    rfl
  · have hcount : config.nodeCount ≠ 0 ∧ config.nodeId ≥ config.nodeCount := by
      constructor
      · exact fun h₀ => h ⟨hid, .inl h₀⟩
      · exact BitVec.not_lt.mp fun hlt => h ⟨hid, .inr hlt⟩
    rw [if_neg hid, if_pos hcount]
    rfl

theorem configurePlca_follows {config : PlcaConfig} (hvalid : config.Valid) :
    (configurePlca config : DriverM ε PhyLan867x (PlcaError ε) Unit).Follows
      (device ambiguous (lan867x d) self.addr) (Silicon.Holds d.status) (¬ambiguous) f self
      (Lan867xCall.configuredBy config f)
      fun r self' =>
        (Lan867xCall.configurePlca config).Updates self (.plca (r.map fun _ => .unit)) self' := by
  have herr : ∀ e : ε, (Lan867xCall.configurePlca config).Updates self
      (.plca (.error (.mdio e))) self :=
    fun e => ⟨fun _ => .inr ⟨e, rfl⟩, fun h => absurd hvalid h, rfl⟩
  obtain ⟨hid, hcount⟩ := id hvalid
  refine .ite (fun h => absurd h hid) (fun _ => .ite (fun h => ?_) (fun _ => ?_))
  · exact absurd (hcount.resolve_left h.1) (BitVec.not_lt.mpr h.2)
  · refine .get_bind ?_
    refine .lift_bind (p := [_]) (q := [_, _]) (mmdWrite_follows self.addr mmdVs2 _ _)
      (fun _ _ => ?_) (fun _ => List.cons_ne_nil _ _) (fun e => herr e)
    refine .lift_bind (p := [_]) (q := [_]) (mmdWrite_follows self.addr mmdVs2 _ _)
      (fun _ _ => ?_) (fun _ => List.cons_ne_nil _ _) (fun e => herr e)
    exact .lift_last
      (mmdRmw_follows self.addr mmdVs2 mmdRegPlcaCtrl0 0 plcaCtrl0En d.plcaCtrl0_not_status)
      (fun _ _ => ⟨_, _, rfl, fun _ => .inl rfl, fun h => absurd hvalid h, rfl⟩) (fun e => herr e)

theorem disablePlca_follows :
    (disablePlca : DriverM ε PhyLan867x (PlcaError ε) Unit).Follows
      (device ambiguous (lan867x d) self.addr) (Silicon.Holds d.status) (¬ambiguous) f self
      [f.rmw plcaCtrl0 plcaCtrl0En 0]
      fun r self' =>
        Lan867xCall.disablePlca.Updates self (.plca (r.map fun _ => .unit)) self' :=
  .get_bind (.lift_last
    (mmdRmw_follows self.addr mmdVs2 mmdRegPlcaCtrl0 plcaCtrl0En 0 d.plcaCtrl0_not_status)
    (fun _ _ => ⟨_, _, rfl, rfl⟩) (fun _ => rfl))

theorem capabilities_follows :
    (capabilities : DriverM ε PhyLan867x (PhyError ε) PhyCapabilities).Follows
      (device ambiguous (lan867x d) self.addr) (Silicon.Holds d.status) False f self []
      fun _ self' => self' = self :=
  .get_bind (.lift (readCapabilities_follows self.addr) (fun _ _ => rfl) (fun _ => rfl))

theorem phyId_follows :
    (phyId : DriverM ε PhyLan867x (PhyError ε) U32).Follows
      (device ambiguous (lan867x d) self.addr) (Silicon.Holds d.status) False f self []
      fun _ self' => self' = self :=
  .get_bind (.lift (readPhyId_follows self.addr) (fun _ _ => rfl) (fun _ => rfl))

theorem pollLink_follows :
    (pollLink : DriverM ε PhyLan867x (PhyError ε) LinkState).Follows
      (device ambiguous (lan867x d) self.addr) (Silicon.Holds d.status) False f self []
      fun _ self' => self' = self := by
  refine .get_bind ?_
  split
  · exact .ended rfl (fun _ => rfl) (fun h => h.elim) rfl
  · exact .ended rfl (fun _ => rfl) (fun h => h.elim) rfl
  · refine .lift_last (mmdRead_follows self.addr mmdVs2 mmdRegPlcaSts) (fun sts _ => ?_)
      (fun e => rfl)
    split
    · exact ⟨_, _, rfl, rfl⟩
    · exact ⟨_, _, rfl, rfl⟩

theorem plcaStatus_follows :
    (plcaStatus : DriverM ε PhyLan867x (PlcaError ε) PlcaStatus).Follows
      (device ambiguous (lan867x d) self.addr) (Silicon.Holds d.status) False f self []
      fun _ self' => self' = self := by
  refine .get_bind ?_
  refine .lift_bind (p := []) (mmdRead_follows self.addr mmdVs2 mmdRegPlcaCtrl0)
    (fun _ _ => ?_) (fun h => h.elim) (fun e => rfl)
  refine .lift_bind (p := []) (mmdRead_follows self.addr mmdVs2 mmdRegPlcaCtrl1)
    (fun _ _ => ?_) (fun h => h.elim) (fun e => rfl)
  exact .lift_last (mmdRead_follows self.addr mmdVs2 mmdRegPlcaSts)
    (fun _ _ => ⟨_, _, rfl, rfl⟩) (fun e => rfl)

end PhyLan867x

/-- **The refinement**: whatever the bus loses, a run of an operation takes the chip
along its plan, to the end if it succeeds, and, where failed transactions have no
effect, only then. -/
theorem Lan867xCall.follows (call : Lan867xCall) {c : Silicon} (hc : c.Holds d.status f) :
    (call.op self : Program Txn.Reply ε _).Ensures (device ambiguous (lan867x d) self.addr) c
      fun l r c' =>
        Progress (Silicon.Holds d.status) (¬ambiguous ∧ call.plan d f ≠ []) f (call.plan d f)
          (r.1.isOk = true) l c' ∧ call.Updates self r.1 r.2 := by
  -- an operation that only reads has no plan to leave unfinished
  have hreader : ¬(¬ambiguous ∧ ([] : List RegFile) ≠ []) := fun h => h.2 rfl
  cases call with
  | init =>
    exact Operation.phy_follows (Q := init.Updates self) (PhyLan867x.init_follows d self)
      And.left hc
  | pollLink =>
    exact Operation.phy_follows (Q := pollLink.Updates self) (PhyLan867x.pollLink_follows d self)
      hreader hc
  | capabilities =>
    exact Operation.phy_follows (Q := capabilities.Updates self)
      (PhyLan867x.capabilities_follows d self) hreader hc
  | phyId =>
    exact Operation.phy_follows (Q := phyId.Updates self) (PhyLan867x.phyId_follows d self)
      hreader hc
  | configurePlca config =>
    by_cases hvalid : config.Valid
    · rw [plan_configurePlca hvalid]
      exact Operation.plca_follows (Q := (configurePlca config).Updates self)
        (PhyLan867x.configurePlca_follows d self hvalid) And.left hc
    · rw [plan_configurePlca_invalid hvalid]
      refine Operation.plca_follows (Q := (configurePlca config).Updates self) ?_ id hc
      exact .ended (PhyLan867x.configurePlca_invalid self hvalid) (fun h => by cases h)
        (fun h => absurd rfl h.2) ⟨fun h => absurd h hvalid, fun _ => rfl, rfl⟩
  | disablePlca =>
    exact Operation.plca_follows (Q := disablePlca.Updates self)
      (PhyLan867x.disablePlca_follows d self) And.left hc
  | plcaStatus =>
    exact Operation.plca_follows (Q := plcaStatus.Updates self)
      (PhyLan867x.plcaStatus_follows d self) hreader hc

end Operations

end EthPhy
