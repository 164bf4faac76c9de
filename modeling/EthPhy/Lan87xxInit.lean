import EthPhy.Lan87xxPlan
import EthPhy.Session

/-!
# What init of the LAN87xx writes, and what stays of it

`init` writes nothing but RESET before it has read an ID of the family, and does not
start auto-negotiation before it has written the advertisement and turned off
energy-detect power-down.  `InitMay` is that rule as a guard on its transactions, and
`init` heeds it on every bus, whatever it reads.

On a LAN87xx it leaves ANAR and MCSR configured, and no later call changes them.
-/

namespace EthPhy
open Interaction Ieee802_3 Lan87xx

variable {ε : Type}

/-! ## The order of writes -/

/-- An ID of the family has been read. -/
def IdRead (addr : U8) (past : List (TxnEvent ε)) : Prop :=
  ∃ id1 id2 : U16, ⟨.read addr regs.phyidr1, .ok id1⟩ ∈ past ∧
    ⟨.read addr regs.phyidr2, .ok id2⟩ ∈ past ∧
    ((id1.setWidth 32 <<< 16) ||| id2.setWidth 32) &&& phyOuiMask = phyOui

/-- The value has been written to the register. -/
def Written (addr r : U8) (v : U16) (past : List (TxnEvent ε)) : Prop :=
  ⟨.write addr r v, .ok ()⟩ ∈ past

/-- **What `init` may do after what has happened.** -/
def InitMay (addr : U8) : Guard Txn.Reply ε
  | _, .read _ _ => True
  | past, .write a r v =>
    (¬IdRead addr past → (a, r, v) = (addr, regs.bmcr, bmcr.reset)) ∧
      (r = regs.bmcr → v &&& (bmcr.anEnable ||| bmcr.anRestart) ≠ 0 →
        Written addr regs.anar 0x01E1 past ∧
          ∃ mcsrVal, Written addr mcsr.addr mcsrVal past ∧ mcsrVal &&& mcsr.edpdEn = 0)

section Order

variable {addr : U8} {past l : List (TxnEvent ε)}

theorem IdRead.append (h : IdRead addr past) (l : List (TxnEvent ε)) : IdRead addr (past ++ l) := by
  obtain ⟨id1, id2, h1, h2, hid⟩ := h
  exact ⟨id1, id2, List.mem_append_left _ h1, List.mem_append_left _ h2, hid⟩

theorem mdioRead_heeds (r : U8) :
    (mdioRead addr r : Mdio ε U16).Heeds (InitMay addr) past fun l v =>
      l = past ++ [⟨.read addr r, .ok v⟩] := Fallible.heeds_request trivial

/-- A write other than one that starts negotiation. -/
theorem mdioWrite_heeds {r : U8} {v : U16} (hid : IdRead addr past) (hr : r ≠ regs.bmcr) :
    (mdioWrite addr r v : Mdio ε Unit).Heeds (InitMay addr) past fun l _ =>
      l = past ++ [⟨.write addr r v, .ok ()⟩] :=
  Fallible.heeds_request ⟨fun hno => absurd hid hno, fun h => absurd h hr⟩

theorem pollReset_heeds (n : Nat) :
    (pollReset addr n : Mdio ε Bool).Heeds (InitMay addr) past fun _ _ => True := by
  induction n generalizing past with
  | zero => exact Fallible.heeds_pure trivial
  | succ n ih =>
    refine (mdioRead_heeds regs.bmcr).bind fun l v _ => ?_
    split
    · exact Fallible.heeds_pure trivial
    · exact ih

theorem softReset_heeds (n : U32) :
    (softReset addr n : Mdio ε Bool).Heeds (InitMay addr) past fun _ _ => True := by
  have hreset : InitMay addr past (.write addr regs.bmcr bmcr.reset) :=
    ⟨fun _ => rfl, fun _ hno => absurd (by decide) hno⟩
  exact (Fallible.heeds_request hreset).bind fun _ _ _ => pollReset_heeds n.toNat

/-- An ID that is read and is of the family has been read. -/
theorem readPhyId_heeds :
    (readPhyId addr : Mdio ε U32).Heeds (InitMay addr) past fun l id =>
      id &&& phyOuiMask = phyOui → IdRead addr l := by
  refine (mdioRead_heeds regs.phyidr1).bind fun l id1 hl => ?_
  refine (mdioRead_heeds regs.phyidr2).bind fun l' id2 hl' => ?_
  subst hl hl'
  exact Fallible.heeds_pure fun hid => ⟨id1, id2, by simp, by simp, hid⟩

theorem enableAutoNegotiation_heeds (hid : IdRead addr past)
    (hanar : Written addr regs.anar 0x01E1 past) {mcsrVal : U16}
    (hmcsr : Written addr mcsr.addr mcsrVal past) (hedpd : mcsrVal &&& mcsr.edpdEn = 0) :
    (enableAutoNegotiation addr : Mdio ε Unit).Heeds (InitMay addr) past fun _ _ => True := by
  refine (mdioRead_heeds regs.bmcr).bind fun l v hl => ?_
  subst hl
  have hmay : InitMay addr (past ++ [⟨.read addr regs.bmcr, .ok v⟩])
      (.write addr regs.bmcr (anRestarted v)) :=
    ⟨fun hno => absurd (hid.append _) hno, fun _ _ => ⟨List.mem_append_left _ hanar,
      mcsrVal, List.mem_append_left _ hmcsr, hedpd⟩⟩
  exact (Fallible.heeds_request hmay).mono fun _ _ _ => trivial

/-- **`init` keeps the order**, whatever it reads. -/
theorem PhyLan87xx.init_heeds (phy : PhyLan87xx) :
    (init : DriverM ε PhyLan87xx (PhyError ε) Unit).Heeds (InitMay phy.addr) past phy := by
  refine Method.heeds_lift_bind (softReset_heeds 500) fun l₁ cleared _ => ?_
  cases cleared with
  | false => exact Method.heeds_done rfl
  | true =>
    refine Method.heeds_lift_bind readPhyId_heeds fun l₂ id hid => ?_
    by_cases hfamily : id &&& phyOuiMask ≠ phyOui
    · rw [if_pos hfamily]
      exact Method.heeds_done rfl
    rw [if_neg hfamily]
    have hid : IdRead phy.addr l₂ := hid (not_not.mp hfamily)
    refine Method.heeds_lift_bind (mdioRead_heeds mcsr.addr) fun l₃ mcsrVal hl₃ => ?_
    subst hl₃
    refine Method.heeds_lift_bind (mdioWrite_heeds (hid.append _) (by decide)) fun l₄ _ hl₄ => ?_
    refine Method.heeds_lift_bind (mdioWrite_heeds ?_ (by decide)) fun l₅ _ hl₅ => ?_
    · rw [hl₄]
      exact (hid.append _).append _
    have hedpd : mcsrVal &&& ~~~mcsr.edpdEn &&& mcsr.edpdEn = 0 := Bits.andNot_and_self _ _
    refine Method.heeds_lift_bind (enableAutoNegotiation_heeds ?_ ?_ ?_ hedpd) fun l₆ _ _ => ?_
    · rw [hl₅, hl₄]
      exact ((hid.append _).append _).append _
    · rw [hl₅]
      exact List.mem_append_right _ List.mem_cons_self
    · rw [hl₅, hl₄]
      exact List.mem_append_left _ (List.mem_append_right _ List.mem_cons_self)
    · exact Method.heeds_done rfl

end Order

/-! ## What stays -/

/-- The registers `init` configures. -/
def configuredRegs87xx : Set U8 := {regs.anar, mcsr.addr}

/-- **What a successful `init` leaves**: from the state `c` in which the reset has left
the chip, ANAR written, EDPD_EN alone cleared in MCSR, and BMCR written last. -/
def InitLeft (addr : U8) (l : List (Exchange Txn.Reply ε Registers)) (c' : Registers) : Prop :=
  ∃ l₁ c l₂ bmcrVal, l = l₁ ++ l₂ ∧ ResetCompleted addr l₁ c ∧
    c' regs.anar = 0x01E1 ∧ c' mcsr.addr = c mcsr.addr &&& ~~~mcsr.edpdEn ∧
    ReadIn l₂ addr regs.bmcr bmcrVal ∧
    (l₂.map Exchange.req).getLast? = some (.write addr regs.bmcr
      ((bmcrVal ||| (bmcr.anEnable ||| bmcr.anRestart)) &&& ~~~bmcr.isolate))

/-- Outside a reset, with ANAR and MCSR as they are in `f`. -/
structure Keeps (f c : Registers) : Prop where
  settled : ¬c.InReset
  anar_eq : c regs.anar = f regs.anar
  mcsr_eq : c mcsr.addr = f mcsr.addr

section Stays

variable {f c : Registers}

theorem Keeps.of_holds (h : f.Holds configuredRegs87xx c) : Keeps f c :=
  ⟨h.settled, h.plain_eq _ (Set.mem_insert _ _) (by decide),
    h.plain_eq _ (Set.mem_insert_of_mem _ rfl) (by decide)⟩

theorem Configured.left {addr : U8} {l₁ l₂ : List (Exchange Txn.Reply ε Registers)}
    {c c' : Registers} (hreset : ResetCompleted addr l₁ c)
    (h : Configured configuredRegs87xx addr c l₂ c') : InitLeft addr (l₁ ++ l₂) c' := by
  obtain ⟨mcsrVal, bmcrVal, -, hbmcr, hreqs, hmcsr, hholds⟩ := h
  have hkeeps := Keeps.of_holds hholds
  refine ⟨l₁, c, l₂, bmcrVal, rfl, hreset, ?_, ?_, hbmcr, ?_⟩
  · rw [hkeeps.anar_eq, Function.update_of_ne (by decide), Function.update_self]
    rfl
  · rw [hkeeps.mcsr_eq, Function.update_of_ne (by decide), Function.update_of_ne (by decide),
      Function.update_self, hmcsr (Set.mem_insert_of_mem _ rfl)]
  · rw [hreqs]
    rfl

/-- BMCR is all that a call writes, unless it resets the chip. -/
theorem PhyCall.plan_of_ne {call : PhyCall} {g : Registers} (hg : g ∈ f :: call.plan f) {r : U8}
    (hr : r ≠ regs.bmcr) : g r = f r := by
  unfold PhyCall.plan at hg
  split at hg
  · rcases List.mem_cons.mp hg with rfl | hg
    · rfl
    · rw [List.mem_singleton.mp hg, Function.update_of_ne hr]
  · rw [List.mem_singleton.mp hg]

/-- **Every call that does not reset the chip keeps ANAR and MCSR.** -/
theorem keeps_step {call : PhyCall} (hcall : ¬call.Resets) (phy : PhyLan87xx) (h : Keeps f c) :
    (call.op phy : Program Txn.Reply ε _).Ensures (Lan87xx.device configuredRegs87xx phy.addr) c
      fun _ r c' => r.2.addr = phy.addr ∧ Keeps f c' := by
  refine (call.follows phy hcall (.refl h.settled)).mono ?_
  rintro l ⟨r, phy'⟩ c' ⟨hprog, haddr⟩
  obtain ⟨g, hg, hc'⟩ := hprog.somewhere
  have hkeeps := Keeps.of_holds hc'
  refine ⟨haddr, hc'.settled, ?_, ?_⟩
  · rw [hkeeps.anar_eq, PhyCall.plan_of_ne hg (by decide)]
    exact h.anar_eq
  · rw [hkeeps.mcsr_eq, PhyCall.plan_of_ne hg (by decide)]
    exact h.mcsr_eq

end Stays

/-- A call of `init`, against the LAN87xx. -/
theorem init_op_leaves (phy : PhyLan87xx) (c : Registers) :
    ((PhyCall.driver .init).op phy : Program Txn.Reply ε _).Ensures
      (Lan87xx.device configuredRegs87xx phy.addr) c fun l r c' => r.2.addr = phy.addr ∧
        (r.1.isOk = true → InitLeft phy.addr l c' ∧ ¬c'.InReset) := by
  refine (Program.ensures_map _ _ c).mpr
    ((PhyLan87xx.init_leaves configuredRegs87xx phy c).mono ?_)
  rintro l ⟨r, phy'⟩ c' ⟨haddr, hleaves⟩
  refine ⟨haddr, fun hok => ?_⟩
  have hr : r = .ok () := by
    cases r with
    | ok u => rfl
    | error e => cases hok
  obtain ⟨l₁, c₁, l₂, rfl, hreset, hconf⟩ := hleaves hr
  obtain ⟨_, _, _, _, _, _, hholds⟩ := id hconf
  exact ⟨hconf.left hreset, hholds.settled⟩

/-- **`init` keeps the order on every bus, and what it configures lasts**: on a LAN87xx,
ANAR and MCSR stay as a successful `init` has left them through every later run of calls
that do not reset the chip, wherever the bus faults. -/
theorem init_ordered_and_lasting {σ : Type} (bus : MdioBus ε σ) (phy : PhyLan87xx) (s : σ) :
    let o := ((PhyCall.driver .init).op phy).run bus.handler s
    (∀ l x l', o.trace = l ++ x :: l' →
      InitMay phy.addr (l.map Exchange.event) x.req) ∧
    ∀ view : σ → Registers,
      bus.handler.Conforms (Lan87xx.device configuredRegs87xx phy.addr) view →
      o.value.1.isOk = true →
      InitLeft phy.addr (o.map view).trace (view o.state) ∧
      ∀ calls : List PhyCall, (∀ call ∈ calls, ¬call.Resets) →
        let later := (serve bus.handler PhyCall.op).play calls (o.value.2, o.state)
        view later.2.2 regs.anar = view o.state regs.anar ∧
          view later.2.2 mcsr.addr = view o.state mcsr.addr := by
  intro o
  refine ⟨fun l x l' hl => ?_, fun view hbus hok => ?_⟩
  · have hinit : (PhyLan87xx.init : DriverM ε PhyLan87xx (PhyError ε) Unit).Heeds
        (InitMay phy.addr) [] phy := PhyLan87xx.init_heeds phy
    have hop : ((PhyCall.driver .init).op phy : Program Txn.Reply ε _).Heeds (InitMay phy.addr)
        (fun _ _ => True) [] := hinit.bind fun _ _ _ => trivial
    exact (hop.run bus.handler s).2 l x l' hl
  · obtain ⟨haddr, hleft⟩ := (init_op_leaves phy (view s)).run hbus
    obtain ⟨hinit, hsettled⟩ := hleft hok
    refine ⟨hinit, fun calls hcalls => ?_⟩
    have hkeeps := serve_invariant_keyed PhyLan87xx.addr (Lan87xx.device configuredRegs87xx)
      (P := fun _ _ c => Keeps (view o.state) c) hbus
      (fun (_ : List (PhyCall × Response ε)) _ phy' _ hcall h => keeps_step hcall phy' h) hcalls
      haddr ⟨hsettled, rfl, rfl⟩
    exact ⟨hkeeps.2.anar_eq, hkeeps.2.mcsr_eq⟩

/-- The LAN8720A after a forced link, loopback, and a return to auto-negotiation that is
lost. -/
theorem init_ordered_and_lasting_lan8720a :
    let later := (serve (SimulatedLan87xx.lossyBus String 1).handler PhyCall.op).play
      [.helper (.forceLink ._10M .full), .driver (.setLoopback false),
        .helper .enableAutoNegotiation] (afterInit87xx.value.2, afterInit87xx.state)
    InitLeft 1 (afterInit87xx.map Prod.fst).trace afterInit87xx.state.1 ∧
      later.2.2.1 regs.anar = afterInit87xx.state.1 regs.anar ∧
      later.2.2.1 mcsr.addr = afterInit87xx.state.1 mcsr.addr := by
  have h := (init_ordered_and_lasting (SimulatedLan87xx.lossyBus String 1) (PhyLan87xx.new 1)
    (SimulatedLan87xx.lan8720a, List.replicate 13 none ++ [some "timeout"])).2 Prod.fst
    (SimulatedLan87xx.lossyBus_conforms _ 1) rfl
  exact ⟨h.1, h.2 _ (by simp [PhyCall.Resets])⟩

end EthPhy
