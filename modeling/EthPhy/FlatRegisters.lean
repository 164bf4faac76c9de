import EthPhy.BringUp
import EthPhy.Lowering
import EthPhy.Noninterference

/-!
# The LAN867x driver over flat registers

On a bus that could address the MMD registers there would be no `MMDCTRL`, no `MMDAD` and
no latch between them.  This is the driver for such a bus (`Flat`), and the chip on it
(`flatChip`): a file of registers, and nothing else.

The driver is that driver, with each access made by `mmdRead` or `mmdWrite`
(`Flat.op_lowers`), and these two make the accesses rightly, whatever becomes of their
transactions (`access_implements`).  So whatever client uses the driver, and wherever the
bus faults, it cannot tell that it has not the flat chip before it
(`client_runs_on_flat_chip`).
-/

namespace EthPhy
open Interaction Lan867x

variable {ε σ α : Type}

/-! ## The bus, and the chip on it -/

/-- A transaction of a bus that can address MMD registers. -/
inductive FlatTxn where
  | clause22 (t : Txn)
  | mmdRead (phyAddr devad : U8) (reg : U16)
  | mmdWrite (phyAddr devad : U8) (reg value : U16)

namespace FlatTxn

/-- What a transaction that succeeds returns. -/
abbrev Reply : FlatTxn → Type
  | clause22 t => t.Reply
  | mmdRead _ _ _ => U16
  | mmdWrite _ _ _ _ => Unit

/-- How a transaction is made on a Clause 22 bus. -/
def access : (q : FlatTxn) → Fallible Txn.Reply ε q.Reply
  | clause22 t => request t
  | mmdRead phyAddr devad reg => Lan867x.mmdRead phyAddr devad reg
  | mmdWrite phyAddr devad reg value => Lan867x.mmdWrite phyAddr devad reg value

/-- **What a transaction does to the registers `f`** of the chip at `addr`.  Nothing is
said of one that goes through `MMDAD` itself, or of what Clause 22 registers read. -/
def Effect (d : Datasheet) (addr : U8) (f : RegFile) : (q : FlatTxn) → q.Reply → RegFile → Prop
  | clause22 (.read a r), _, f' => a = addr ∧ r = regMmdad ∨ f' = f
  | clause22 (.write a r v), _, f' =>
      if a ≠ addr then f' = f
      else if r = regMmdad then True
      else if r = Ieee802_3.regs.bmcr ∧ v &&& Ieee802_3.bmcr.reset ≠ 0 then f' = d.defaults
      else f' = f
  | mmdRead a devad reg, v, f' =>
      f' = f ∧ (a = addr → mmdAddr devad reg ∉ d.status → v = f (mmdAddr devad reg))
  | mmdWrite a devad reg value, _, f' =>
      f' = if a = addr then Function.update f (mmdAddr devad reg) value else f

end FlatTxn

/-- **The chip at `addr` with its registers on the bus**, which may lose any
transaction. -/
def Lan867x.flatChip (ambiguous : Prop) (d : Datasheet) (addr : U8) :
    Device FlatTxn.Reply ε RegFile :=
  Device.faulty ambiguous (fun f f' => f' = f) (FlatTxn.Effect d addr)

/-! ## The driver -/

namespace Flat

/-- A function that uses such a bus. -/
abbrev Helper (ε α : Type) : Type := Fallible FlatTxn.Reply ε α

/-- A function that only uses Clause 22 registers. -/
def clause22 (x : Mdio ε α) : Helper ε α :=
  ExceptT.mk (x.run.lowering fun t => request (.clause22 t))

def mmdRead (phyAddr devad : U8) (reg : U16) : Helper ε U16 :=
  request (FlatTxn.mmdRead phyAddr devad reg)

def mmdWrite (phyAddr devad : U8) (reg value : U16) : Helper ε Unit :=
  request (FlatTxn.mmdWrite phyAddr devad reg value)

def mmdRmw (phyAddr devad : U8) (reg clearMask setMask : U16) : Helper ε Unit := do
  let current ← mmdRead phyAddr devad reg
  mmdWrite phyAddr devad reg ((current &&& ~~~clearMask) ||| setMask)

/-- The RESETC handshake loop. -/
def pollResetc (addr : U8) : Nat → Helper ε Bool
  | 0 => pure false
  | n + 1 => do
    let sts2 ← mmdRead addr mmdVs2 mmdRegSts2
    if sts2 &&& sts2Resetc ≠ 0 then
      pure true
    else
      pollResetc addr n

/-- A method of the driver on such a bus. -/
abbrev DriverM (ε E α : Type) : Type := Method FlatTxn.Reply ε PhyLan867x E α

def init : DriverM ε (PhyError ε) Unit := do
  modify fun self => { self with plcaId := none, chip := none }
  let self ← get
  let cleared ← Method.lift .mdio (clause22 (Ieee802_3.softReset self.addr 500))
  if ¬cleared then
    throw .resetTimeout
  let gotResetc ← Method.lift .mdio (pollResetc self.addr 500)
  if ¬gotResetc then
    throw .resetTimeout
  let id ← Method.lift .mdio (clause22 (Ieee802_3.readPhyId self.addr))
  if id &&& phyOuiModelMask ≠ phyOuiModelLan867x then
    throw (.unsupportedChip id)
  let strap ← Method.lift .mdio (clause22 (mdioRead self.addr regStrapCtrl0))
  match PhyLan867x.chipOfStrap strap with
  | none => throw (.unsupportedPackage (strap.setWidth 32))
  | some chip =>
    let midver ← Method.lift .mdio (mmdRead self.addr mmdVs2 mmdRegMidver)
    if midver ≠ midverExpected then
      throw (.unsupportedChip id)
    Method.lift .mdio (mmdRmw self.addr mmdPmaPmd mmdRegT1spmactl 0 t1spmactlMde)
    modify fun self => { self with chip := some chip }

def pollLink : DriverM ε (PhyError ε) LinkState := do
  let self ← get
  match self.chip, self.plcaId with
  | none, _ => return .down
  | some _, none => return .upAt ._10M .half
  | some _, some _ =>
    let sts ← Method.lift .mdio (mmdRead self.addr mmdVs2 mmdRegPlcaSts)
    if sts &&& plcaStsPst ≠ 0 then
      return .upAt ._10M .half
    else
      return .down

def capabilities : DriverM ε (PhyError ε) PhyCapabilities := do
  let self ← get
  Method.lift .mdio (clause22 (Ieee802_3.readCapabilities self.addr))

def phyId : DriverM ε (PhyError ε) U32 := do
  let self ← get
  Method.lift .mdio (clause22 (Ieee802_3.readPhyId self.addr))

def configurePlca (config : PlcaConfig) : DriverM ε (PlcaError ε) Unit := do
  if config.nodeId = plcaIdDisabled then
    throw .invalidConfig
  if config.nodeCount ≠ 0 ∧ config.nodeId ≥ config.nodeCount then
    throw .invalidConfig
  let self ← get
  Method.lift .mdio (mmdWrite self.addr mmdVs2 mmdRegPlcaCtrl1 (PhyLan867x.ctrl1Of config))
  Method.lift .mdio (mmdWrite self.addr mmdVs2 mmdRegPlcaBurst (PhyLan867x.burstOf config))
  Method.lift .mdio (mmdRmw self.addr mmdVs2 mmdRegPlcaCtrl0 0 plcaCtrl0En)
  modify fun self => { self with plcaId := some config.nodeId }

def disablePlca : DriverM ε (PlcaError ε) Unit := do
  let self ← get
  Method.lift .mdio (mmdRmw self.addr mmdVs2 mmdRegPlcaCtrl0 plcaCtrl0En 0)
  modify fun self => { self with plcaId := none }

def plcaStatus : DriverM ε (PlcaError ε) PlcaStatus := do
  let self ← get
  let ctrl0 ← Method.lift .mdio (mmdRead self.addr mmdVs2 mmdRegPlcaCtrl0)
  let ctrl1 ← Method.lift .mdio (mmdRead self.addr mmdVs2 mmdRegPlcaCtrl1)
  let sts ← Method.lift .mdio (mmdRead self.addr mmdVs2 mmdRegPlcaSts)
  let id := (ctrl1 &&& plcaCtrl1IdMask).setWidth 8
  return {
    enabled := ctrl0 &&& plcaCtrl0En != 0
    nodeId := id
    isCoordinator := id == plcaIdCoordinator
    stable := sts &&& plcaStsPst != 0 }

/-- A `PhyDriver` operation. -/
def phy (m : DriverM ε (PhyError ε) α) (value : α → Value) (s : PhyLan867x) :
    Program FlatTxn.Reply ε (Response ε × PhyLan867x) :=
  (m.on s).bind fun r => .done (.phy (r.1.map value), r.2)

/-- A PLCA operation. -/
def plca (m : DriverM ε (PlcaError ε) α) (value : α → Value) (s : PhyLan867x) :
    Program FlatTxn.Reply ε (Response ε × PhyLan867x) :=
  (m.on s).bind fun r => .done (.plca (r.1.map value), r.2)

/-- The operation a call stands for. -/
def op : Lan867xCall → PhyLan867x → Program FlatTxn.Reply ε (Response ε × PhyLan867x)
  | .init => phy init fun _ => .unit
  | .pollLink => phy pollLink .link
  | .capabilities => phy capabilities .capabilities
  | .phyId => phy phyId .id
  | .configurePlca config => plca (configurePlca config) fun _ => .unit
  | .disablePlca => plca disablePlca fun _ => .unit
  | .plcaStatus => plca plcaStatus .status

/-! ## The driver is that driver, lowered -/

theorem clause22_lowers (x : Mdio ε α) : (clause22 x).LowersTo FlatTxn.access x := by
  have hrun : ∀ p : Program Txn.Reply ε (Except ε α),
      p = (p.lowering fun t => request (.clause22 t)).lowering FlatTxn.access := by
    intro p
    induction p with
    | done r => rfl
    | call t k ih => exact congrArg (Program.call t) (funext ih)
  exact hrun x.run

theorem mmdRead_lowers (a d : U8) (r : U16) :
    (mmdRead a d r : Helper ε U16).LowersTo FlatTxn.access (Lan867x.mmdRead a d r) :=
  Fallible.lowersTo_request _

theorem mmdWrite_lowers (a d : U8) (r v : U16) :
    (mmdWrite a d r v : Helper ε Unit).LowersTo FlatTxn.access (Lan867x.mmdWrite a d r v) :=
  Fallible.lowersTo_request _

theorem mmdRmw_lowers (a d : U8) (r clear set : U16) :
    (mmdRmw a d r clear set : Helper ε Unit).LowersTo FlatTxn.access
      (Lan867x.mmdRmw a d r clear set) :=
  (mmdRead_lowers a d r).bind fun _ => mmdWrite_lowers a d r _

theorem pollResetc_lowers (a : U8) (n : Nat) :
    (pollResetc a n : Helper ε Bool).LowersTo FlatTxn.access (PhyLan867x.pollResetc a n) := by
  induction n with
  | zero => exact Fallible.lowersTo_pure false
  | succ n ih =>
    exact (mmdRead_lowers _ _ _).bind fun _ => .ite (Fallible.lowersTo_pure true) ih

open Method

theorem init_lowers :
    (init : DriverM ε (PhyError ε) Unit).LowersTo FlatTxn.access PhyLan867x.init := by
  refine (lowersTo_modify _).bind fun _ => lowersTo_get.bind fun self => ?_
  refine (LowersTo.lift (clause22_lowers _) _).bind fun cleared => ?_
  refine .ite (lowersTo_throw_bind _ _ _) ?_
  refine (LowersTo.lift (pollResetc_lowers _ _) _).bind fun gotResetc => ?_
  refine .ite (lowersTo_throw_bind _ _ _) ?_
  refine (LowersTo.lift (clause22_lowers _) _).bind fun id => ?_
  refine .ite (lowersTo_throw_bind _ _ _) ?_
  refine (LowersTo.lift (clause22_lowers _) _).bind fun strap => ?_
  cases PhyLan867x.chipOfStrap strap with
  | none => exact lowersTo_throw _
  | some chip =>
    refine (LowersTo.lift (mmdRead_lowers _ _ _) _).bind fun midver => ?_
    refine .ite (lowersTo_throw_bind _ _ _) ?_
    exact (LowersTo.lift (mmdRmw_lowers _ _ _ _ _) _).bind fun _ => lowersTo_modify _

theorem pollLink_lowers :
    (pollLink : DriverM ε (PhyError ε) LinkState).LowersTo FlatTxn.access
      PhyLan867x.pollLink := by
  refine lowersTo_get.bind fun self => ?_
  obtain ⟨addr, _ | chip, _ | id⟩ := self
  · exact lowersTo_pure _
  · exact lowersTo_pure _
  · exact lowersTo_pure _
  · refine (LowersTo.lift (mmdRead_lowers _ _ _) _).bind fun sts => ?_
    exact .ite (lowersTo_pure _) (lowersTo_pure _)

theorem configurePlca_lowers (config : PlcaConfig) :
    (configurePlca config : DriverM ε (PlcaError ε) Unit).LowersTo FlatTxn.access
      (PhyLan867x.configurePlca config) := by
  refine .ite (lowersTo_throw_bind _ _ _) (.ite (lowersTo_throw_bind _ _ _) ?_)
  refine lowersTo_get.bind fun self => ?_
  refine (LowersTo.lift (mmdWrite_lowers _ _ _ _) _).bind fun _ => ?_
  refine (LowersTo.lift (mmdWrite_lowers _ _ _ _) _).bind fun _ => ?_
  exact (LowersTo.lift (mmdRmw_lowers _ _ _ _ _) _).bind fun _ => lowersTo_modify _

theorem disablePlca_lowers :
    (disablePlca : DriverM ε (PlcaError ε) Unit).LowersTo FlatTxn.access
      PhyLan867x.disablePlca :=
  lowersTo_get.bind fun _ =>
    (LowersTo.lift (mmdRmw_lowers _ _ _ _ _) _).bind fun _ => lowersTo_modify _

theorem plcaStatus_lowers :
    (plcaStatus : DriverM ε (PlcaError ε) PlcaStatus).LowersTo FlatTxn.access
      PhyLan867x.plcaStatus :=
  lowersTo_get.bind fun _ =>
    (LowersTo.lift (mmdRead_lowers _ _ _) _).bind fun _ =>
      (LowersTo.lift (mmdRead_lowers _ _ _) _).bind fun _ =>
        (LowersTo.lift (mmdRead_lowers _ _ _) _).bind fun _ => lowersTo_pure _

theorem phy_lowers {m : DriverM ε (PhyError ε) α}
    {n : EthPhy.DriverM ε PhyLan867x (PhyError ε) α} (h : m.LowersTo FlatTxn.access n)
    (value : α → Value) (s : PhyLan867x) :
    Operation.phy n value s = (phy m value s).lowering FlatTxn.access := by
  rw [Operation.phy, phy, h s, Program.bind_lowering]
  rfl

theorem plca_lowers {m : DriverM ε (PlcaError ε) α}
    {n : EthPhy.DriverM ε PhyLan867x (PlcaError ε) α} (h : m.LowersTo FlatTxn.access n)
    (value : α → Value) (s : PhyLan867x) :
    Operation.plca n value s = (plca m value s).lowering FlatTxn.access := by
  rw [Operation.plca, plca, h s, Program.bind_lowering]
  rfl

/-- **Every operation of the driver is the operation on flat registers, with its accesses
made through the latch.** -/
theorem op_lowers (call : Lan867xCall) (s : PhyLan867x) :
    (call.op s : Program Txn.Reply ε _) = (op call s).lowering FlatTxn.access := by
  cases call with
  | init => exact phy_lowers init_lowers _ s
  | pollLink => exact phy_lowers pollLink_lowers _ s
  | capabilities =>
    exact phy_lowers (lowersTo_get.bind fun _ => LowersTo.lift (clause22_lowers _) _) _ s
  | phyId =>
    exact phy_lowers (lowersTo_get.bind fun _ => LowersTo.lift (clause22_lowers _) _) _ s
  | configurePlca config => exact plca_lowers (configurePlca_lowers config) _ s
  | disablePlca => exact plca_lowers disablePlca_lowers _ s
  | plcaStatus => exact plca_lowers plcaStatus_lowers _ s

end Flat

/-! ## The accesses are made rightly -/

section Access

variable {ambiguous : Prop} {d : Datasheet} {addr : U8} {f : RegFile} {c c' : Silicon}

/-- The documented effect of a transaction, on the registers. -/
theorem access_effect {t : Txn} {v : t.Reply} {m : Silicon}
    (h : c.Access (lan867x d) addr t v m) (hc : c.Holds d.status f) :
    ∃ f', FlatTxn.Effect d addr f (.clause22 t) v f' ∧ m.Holds d.status f' := by
  cases t with
  | read a r =>
    simp only [Silicon.Access] at h
    split at h
    · rename_i hwindow
      exact ⟨m.mmd, .inl hwindow, fun _ _ => rfl⟩
    · subst h
      exact ⟨f, .inr rfl, hc⟩
  | write a r u =>
    by_cases ha : a = addr
    · subst ha
      by_cases hctrl : r = regMmdctrl
      · subst hctrl
        have hm : m = c.select u := by simpa [Silicon.Access] using h
        subst hm
        refine ⟨f, ?_, hc⟩
        simp [FlatTxn.Effect, show regMmdctrl ≠ regMmdad by decide,
          show regMmdctrl ≠ Ieee802_3.regs.bmcr by decide]
      by_cases had : r = regMmdad
      · exact ⟨m.mmd, by simp [FlatTxn.Effect, had], fun _ _ => rfl⟩
      simp only [Silicon.Access, ne_eq, not_true_eq_false, if_false, hctrl, had] at h
      simp only [FlatTxn.Effect, ne_eq, not_true_eq_false, if_false, had]
      split at h
      · rename_i hreset
        exact ⟨d.defaults, by rw [if_pos hreset], fun x _ => congrFun h x⟩
      · rename_i hreset
        subst h
        exact ⟨f, by rw [if_neg hreset], hc⟩
    · simp only [Silicon.Access, ne_eq, ha, not_false_eq_true, if_true] at h
      subst h
      exact ⟨f, by simp [FlatTxn.Effect, ha], hc⟩

/-- **A transaction of the chip is one of the flat chip.** -/
theorem clause22_step {t : Txn} {r : Except ε t.Reply}
    (h : device ambiguous (lan867x d) addr c t r c') (hc : c.Holds d.status f) :
    ∃ f', flatChip ambiguous d addr f (.clause22 t) r f' ∧ c'.Holds d.status f' := by
  cases r with
  | ok v =>
    obtain ⟨m, hm, hd⟩ := h
    obtain ⟨f', heff, hholds⟩ := access_effect hm hc
    exact ⟨f', heff, hholds.of_agree hd.agree⟩
  | error e =>
    rcases h with hd | ⟨hamb, v, m, hm, hd⟩
    · exact ⟨f, .inl rfl, hc.of_agree hd.agree⟩
    · obtain ⟨f', heff, hholds⟩ := access_effect hm hc
      exact ⟨f', .inr ⟨hamb, v, heff⟩, hholds.of_agree hd.agree⟩

/-- What is addressed to another PHY does not concern the chip. -/
theorem foreign_step {t : Txn} {r : Except ε t.Reply} {f' : RegFile} (ht : t.phyAddr ≠ addr)
    (h : flatChip ambiguous d addr f (.clause22 t) r f') : f' = f := by
  have heff : ∀ v, FlatTxn.Effect d addr f (.clause22 t) v f' → f' = f := by
    intro v heff
    cases t with
    | read a r => exact heff.resolve_left fun hwindow => ht hwindow.1
    | write a r u =>
      have ha : a ≠ addr := ht
      rw [FlatTxn.Effect, if_pos ha] at heff
      exact heff
  cases r with
  | ok v => exact heff v h
  | error e =>
    rcases h with hsame | ⟨-, v, hv⟩
    · exact hsame
    · exact heff v hv

theorem foreign_along {x : Mdio ε α} {a : U8} (hx : x.Uses (Addressed a)) (ha : a ≠ addr)
    (hc : c.Holds d.status f) :
    x.run.Ensures (device ambiguous (lan867x d) addr) c fun l _ c' =>
      Along (Silicon.Holds d.status) f [] l c' := by
  refine Program.Uses.along hx (fun c t r c' ht h hc => ?_) hc
  obtain ⟨f', hstep, hc'⟩ := clause22_step h hc
  have hne : t.phyAddr ≠ addr := fun heq => ha (ht.symm.trans heq)
  obtain rfl := foreign_step hne hstep
  exact hc'

/-- **`mmdRead` and `mmdWrite` make the accesses of the flat chip**, from any state of the
latch and whatever becomes of their transactions. -/
theorem access_implements : Implements FlatTxn.access
    (flatChip (ε := ε) ambiguous d addr) (device ambiguous (lan867x d) addr)
    (fun f c => c.Holds d.status f) := by
  intro q f c hc
  cases q with
  | clause22 t =>
    refine Fallible.ensures_request ?_
    intro r c' h
    obtain ⟨f', hstep, hc'⟩ := clause22_step h hc
    refine ⟨?_, f', hstep, Along.move hc hc'⟩
    cases r <;> rfl
  | mmdRead a devad reg =>
    have hfaults := Program.FailStop.faults (mmdRead_failStop (ε := ε) a devad reg)
      (device ambiguous (lan867x d) addr) c
    by_cases ha : a = addr
    · subst ha
      refine (hfaults.and (mmdRead_ensures a devad reg c)).mono ?_
      rintro l r c' ⟨hl, hq, hfetch⟩
      refine ⟨hl, f, ?_, (hq.along hc).idle⟩
      cases r with
      | error e => exact .inl rfl
      | ok v => exact ⟨rfl, fun _ hx => ((hfetch v rfl).eq hx).trans (hc _ hx)⟩
    · refine (hfaults.and (foreign_along (mmdRead_uses a devad reg) ha hc)).mono ?_
      rintro l r c' ⟨hl, halong⟩
      refine ⟨hl, f, ?_, halong.idle⟩
      cases r with
      | error e => exact .inl rfl
      | ok v => exact ⟨rfl, fun heq => absurd heq ha⟩
  | mmdWrite a devad reg value =>
    have hfaults := Program.FailStop.faults (mmdWrite_failStop (ε := ε) a devad reg value)
      (device ambiguous (lan867x d) addr) c
    by_cases ha : a = addr
    · subst ha
      refine (hfaults.and (mmdWrite_ensures a devad reg c value)).mono ?_
      rintro l r c' ⟨hl, ⟨⟨e, rfl⟩, hq⟩ | ⟨hr, hst⟩⟩
      · exact ⟨hl, f, .inl rfl, (hq.along hc).idle⟩
      · refine ⟨hl, _, ?_, hst.along hc⟩
        have heff : FlatTxn.Effect d a f (.mmdWrite a devad reg value) ()
            (Function.update f (mmdAddr devad reg) value) := (if_pos rfl).symm
        cases r with
        | ok v => exact heff
        | error e => exact .inr ⟨hr.resolve_right nofun, (), heff⟩
    · refine (hfaults.and (foreign_along (mmdWrite_uses a devad reg value) ha hc)).mono ?_
      rintro l r c' ⟨hl, halong⟩
      refine ⟨hl, f, ?_, halong.idle⟩
      cases r with
      | error e => exact .inl rfl
      | ok v => exact (if_neg ha).symm

end Access

/-! ## Clients -/

/-- **Every client of the driver runs on flat registers.**  Let the client call what it
likes, depending on all it has been told; let any transaction be lost, or take effect
without being confirmed; let the latch be anything to begin with.

Its run is one of the same client, with the driver for flat registers, in front of the
flat chip: it returns the same value, leaves the same fields in the driver and the same
registers in the chip, and meets the same faults in the same order.  At every moment on
the bus, the registers are those of that run before or after some transaction, in order. -/
theorem client_runs_on_flat_chip (ambiguous : Prop) (d : Datasheet) (bus : MdioBus ε σ)
    (view : σ → Silicon) (phy : PhyLan867x)
    (hbus : bus.handler.Conforms (device ambiguous (lan867x d) phy.addr) view)
    (client : Client Lan867xCall (Response ε) α) (s : σ) :
    let o := (client.calling Lan867xCall.op phy).run bus.handler s
    ∃ l f, (client.calling Flat.op phy).Runs (flatChip ambiguous d phy.addr)
        (view s).mmd l o.value f ∧
      (view o.state).Holds d.status f ∧ faults o.trace = faults l ∧
      Along (fun f c => Silicon.Holds d.status f c) (view s).mmd (l.map Exchange.post)
        (o.trace.map (Exchange.map view)) (view o.state) := by
  intro o
  have hlowers : client.calling Lan867xCall.op phy =
      (client.calling Flat.op phy).lowering FlatTxn.access :=
    Program.calling_lowering Flat.op_lowers client phy
  have hstart : (view s).Holds d.status (view s).mmd := fun _ _ => rfl
  have hrun := (access_implements.lowering (client.calling Flat.op phy) hstart).run hbus
  rw [← hlowers] at hrun
  obtain ⟨l, f, hflat, hfaults, halong⟩ := hrun
  refine ⟨l, f, hflat, ?_, ?_, halong⟩
  · have hends := halong.ends
    rwa [hflat.ends] at hends
  · rwa [Outcome.map_trace, faults_map] at hfaults

/-- The data write of the first `init` is not confirmed, and the client tries again. -/
theorem client_runs_on_flat_chip_unconfirmed :
    let client := Lan867xCall.bringUp ⟨1, 4, 0, 0⟩ 2
    let o := (client.calling Lan867xCall.op (.new 3)).run
      (SimulatedChip.lan8670.bus 3 true).handler
      ⟨staleChip, List.replicate 20 .delivered ++ [.unconfirmed "nack"]⟩
    ∃ l f, (client.calling Flat.op (.new 3)).Runs (flatChip True SimulatedChip.datasheet 3)
        staleChip.mmd l o.value f ∧
      o.state.chip.Holds SimulatedChip.statusRegs f ∧ faults l = ["nack"] := by
  intro client o
  have hnack : faults o.trace = ["nack"] := by decide +kernel
  obtain ⟨l, f, hrun, hholds, hfaults, -⟩ := client_runs_on_flat_chip True
    SimulatedChip.datasheet (SimulatedChip.lan8670.bus 3 true) SimState.chip (.new 3)
    (SimulatedChip.lan8670.conforms 3 true fun _ => trivial) client
    ⟨staleChip, List.replicate 20 .delivered ++ [.unconfirmed "nack"]⟩
  exact ⟨l, f, hrun, hholds, hfaults.symm.trans hnack⟩

end EthPhy
