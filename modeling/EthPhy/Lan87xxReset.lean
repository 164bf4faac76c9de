import EthPhy.HardwareReset
import EthPhy.Lan87xxInit
import EthPhy.Lan87xxMode
import EthPhy.Noninterference

/-!
# The reset pin of the LAN87xx

`PhyLan87xxWithReset` is a `PhyLan87xx` with an `nRST` line.  While the line is low the
chip is in reset, and what its registers hold afterwards is anything; a soft reset is no
better, and neither is an `init` that did not finish.

`modeSince` reads off the log which link mode has been commanded since then, if a complete
`init` has gone before.  Over every run, whenever there is one, the chip is configured:
advertisement written, energy-detect power-down off, and BMCR in that mode, and so
`pollLink` reports what it calls for (`operating_until_reset`).
-/

namespace EthPhy
open Interaction Ieee802_3 Lan87xx

variable {ε π σ : Type}

/-! ## The driver -/

/-- LAN87xx PHY driver with a hardware reset pin.  The pin is part of the board. -/
structure PhyLan87xxWithReset where
  inner : PhyLan87xx
  deriving DecidableEq, Repr

namespace PhyLan87xxWithReset

/-- A new driver with the given MDIO address. -/
def new (addr : U8) : PhyLan87xxWithReset := ⟨.new addr⟩

/-- Drive `nRST` low for 2 ms, then wait 25 ms after release. -/
def hardwareReset : Fallible PinTxn.Reply π Unit := do
  request .setLow
  request (.delayMs 2)
  request .setHigh
  request (.delayMs 25)

end PhyLan87xxWithReset

/-- A call: an operation forwarded to the inner driver, a helper function with its
address, or `hardwareReset`. -/
inductive WithReset87xxCall where
  | inner (call : PhyCall)
  | hardwareReset
  deriving DecidableEq, Repr

/-- The driver on a board. -/
def WithReset87xxCall.serve (board : Board ε π σ) :
    Machine WithReset87xxCall (Answer ε π) (PhyLan87xxWithReset × σ)
  | .inner call, x =>
    let o := (call.op x.1.inner).run board.bus.handler x.2
    (.inner o.value.1, ⟨o.value.2⟩, o.state)
  | .hardwareReset, x =>
    let o := PhyLan87xxWithReset.hardwareReset.run.run board.pin x.2
    (.pin (pulledLow o.trace) o.value, x.1, o.state)

/-! ## The chip behind the pin -/

/-- What the pin does to the chip: while it is low, anything. -/
def PinTxn.Effect87xx (plain : Set U8) (c : Registers) : (t : PinTxn) → t.Reply → Registers → Prop
  | .setLow, _, _ => True
  | .setHigh, _, c' | .delayMs _, _, c' => c.Drift plain c'

/-- **The chip behind a reset pin that may fail.**  What is asked of the pin and fails has
no effect: a `setLow` that fails leaves the chip as it was. -/
def Lan87xx.resetPin (plain : Set U8) : Device PinTxn.Reply π Registers :=
  Device.faulty False (Registers.Drift plain) (PinTxn.Effect87xx plain)

/-- If `hardwareReset` never had the line low, it has done nothing. -/
theorem PhyLan87xxWithReset.hardwareReset_ensures (plain : Set U8) (c : Registers) :
    (hardwareReset : Fallible PinTxn.Reply π Unit).run.Ensures (Lan87xx.resetPin plain) c
      fun l _ c' => pulledLow l = false → c.Drift plain c' := by
  refine Fallible.ensures_request_bind ?_ ?_
  · intro u c₁ _
    exact Program.ensures_of_forall _ _ fun l r c' hno => absurd hno nofun
  · rintro e c₁ (hd | ⟨hno, -⟩) -
    · exact hd
    · exact hno.elim

/-! ## What is known to be configured -/

/-- **The mode commanded since the chip was last reset**, if an `init` has succeeded
since. -/
def modeSince (mode : Option LinkMode) : WithReset87xxCall × Answer ε π → Option LinkMode
  | (.inner (.driver .init), .inner r) => if r.isOk then some .auto else none
  | (.inner (.helper (.softReset _)), _) => none
  | (.inner call, .inner r) => mode.map fun m => (commandedMode (call, r)).getD m
  | (.hardwareReset, .pin low _) => if low then none else mode
  | _ => mode

/-- **The chip works in the mode**: `init` has configured it, and BMCR commands the
mode. -/
structure Operating (mode : LinkMode) (c : Registers) : Prop where
  modeSet : ModeSet mode c
  anar : c regs.anar = 0x01E1
  edpd : c mcsr.addr &&& mcsr.edpdEn = 0

section Steps

variable {mode : LinkMode} {phy : PhyLan87xx} {c c' : Registers}

/-- What the chip does on its own does not matter. -/
theorem Operating.drift (h : Operating mode c) (hd : c.Drift configuredRegs87xx c') :
    Operating mode c' := by
  have hholds : Registers.Holds configuredRegs87xx c c' :=
    (Registers.Holds.refl h.modeSet.settled).drift hd
  have hkeeps := Keeps.of_holds hholds
  refine ⟨.of_holds hholds h.modeSet.selected, ?_, ?_⟩
  · rw [hkeeps.anar_eq, h.anar]
  · rw [hkeeps.mcsr_eq, h.edpd]

/-- A chip with plain registers is a chip. -/
theorem device_anti {addr : U8} (plain : Set U8) {t : Txn} {r : Except ε t.Reply}
    (h : Lan87xx.device plain addr c t r c') : Lan87xx.device ∅ addr c t r c' := by
  have hdrift : ∀ {c c' : Registers}, c.Drift plain c' → c.Drift ∅ c' :=
    fun hd hset => ⟨(hd hset).1, fun _ hr => absurd hr (Set.notMem_empty _)⟩
  cases r with
  | error e => exact h.imp hdrift fun h => absurd h.1 id
  | ok v =>
    obtain ⟨m, hm, hd⟩ := h
    refine ⟨m, ?_, hdrift hd⟩
    cases t with
    | write a r v => exact hm
    | read a r =>
      refine ⟨hm.1, fun ha hr => hm.2 ha (.inl (hr.resolve_right (Set.notMem_empty _)))⟩

/-- No call rebinds the driver. -/
theorem PhyCall.op_addr (call : PhyCall) (phy : PhyLan87xx) (D : Device Txn.Reply ε σ) (s : σ) :
    (call.op phy : Program Txn.Reply ε _).Ensures D s fun _ r _ => r.2.addr = phy.addr := by
  have huses : (call.op phy : Program Txn.Reply ε _).Uses (Addressed phy.addr)
      fun r => r.2.addr = phy.addr := by
    rcases call with call | call
    · exact Driver.op_uses .lan87xx (.inl call) phy rfl
    · exact Driver.op_uses .lan87xx (.inr call) phy rfl
  exact (huses.ensures (I := fun _ => True) (fun _ _ _ _ _ _ _ => trivial) trivial).mono
    fun _ _ _ h => h.1

/-- A call that does not reset the chip commands its mode, or leaves everything. -/
theorem operating_step {call : PhyCall} (hcall : ¬call.Resets) (h : Operating mode c) :
    (call.op phy : Program Txn.Reply ε _).Ensures (Lan87xx.device configuredRegs87xx phy.addr) c
      fun _ r c' => r.2.addr = phy.addr ∧
        Operating ((commandedMode (call, r.1)).getD mode) c' := by
  have hmode : (call.op phy : Program Txn.Reply ε _).Ensures
      (Lan87xx.device configuredRegs87xx phy.addr) c fun _ r c' => r.2.addr = phy.addr ∧
        ModeSet ((commandedMode (call, r.1)).getD mode) c' :=
    (modeSet_step hcall h.modeSet).anti fun _ _ _ _ hr => device_anti _ hr
  have hkeeps := keeps_step (ε := ε) hcall phy ⟨h.modeSet.settled, rfl, rfl⟩
  refine (hmode.and hkeeps).mono ?_
  rintro l r c' ⟨⟨haddr, hset⟩, -, hkept⟩
  refine ⟨haddr, hset, ?_, ?_⟩
  · rw [hkept.anar_eq, h.anar]
  · rw [hkept.mcsr_eq, h.edpd]

/-- A complete `init` configures the chip. -/
theorem operating_init (phy : PhyLan87xx) (c : Registers) :
    ((PhyCall.driver .init).op phy : Program Txn.Reply ε _).Ensures
      (Lan87xx.device configuredRegs87xx phy.addr) c fun _ r c' => r.2.addr = phy.addr ∧
        (r.1.isOk = true → Operating .auto c') := by
  have hmode : ((PhyCall.driver .init).op phy : Program Txn.Reply ε _).Ensures
      (Lan87xx.device configuredRegs87xx phy.addr) c fun _ r c' => r.2.addr = phy.addr ∧
        (r.1.isOk = true → ModeSet .auto c') :=
    (modeSet_init phy c).anti fun _ _ _ _ hr => device_anti _ hr
  refine (hmode.and (init_op_leaves phy c)).mono ?_
  rintro l r c' ⟨⟨haddr, hset⟩, -, hleft⟩
  refine ⟨haddr, fun hok => ?_⟩
  obtain ⟨⟨l₁, c₁, l₂, bmcrVal, -, -, hanar, hmcsr, -, -⟩, -⟩ := hleft hok
  refine ⟨hset hok, hanar, ?_⟩
  rw [hmcsr]
  exact Bits.andNot_and_self _ _

/-- The next `pollLink` reports what the mode calls for. -/
theorem ModeSet.poll_reports {addr : U8} (h : ModeSet mode c) (haddr : phy.addr = addr) :
    ((PhyCall.driver .pollLink).op phy : Program Txn.Reply ε _).Ensures
      (Lan87xx.device ∅ addr).reliable c fun l r _ =>
        ∃ link, r.1 = .phy (.ok (.link link)) ∧ mode.Reports addr l link := by
  subst haddr
  refine (Program.ensures_map _ _ _).mpr ((pollLink_reports_mode phy h).mono ?_)
  rintro l ⟨r, phy'⟩ c' ⟨link, hr, hreport⟩
  obtain rfl : r = .ok link := hr
  exact ⟨link, rfl, hreport⟩

/-- What is claimed of a run. -/
def FollowsSince (addr : U8) (log : List (WithReset87xxCall × Answer ε π))
    (phy : PhyLan87xx) (c : Registers) : Prop :=
  phy.addr = addr ∧ ∀ mode, log.foldl modeSince none = some mode → Operating mode c

variable {addr : U8} {log : List (WithReset87xxCall × Answer ε π)}

/-- What a call that does not reset the chip does to the mode. -/
theorem modeSince_other {call : PhyCall} (hcall : ¬call.Resets) (m : Option LinkMode)
    (r : Response ε) : modeSince m (.inner call, (.inner r : Answer ε π)) =
      m.map fun m => (commandedMode (call, r)).getD m := by
  rcases call with (_ | _) | (_ | _)
  all_goals first | rfl | exact absurd trivial hcall

/-- An entry that leaves no mode known. -/
theorem FollowsSince.lost {e : WithReset87xxCall × Answer ε π} (haddr : phy.addr = addr)
    (he : ∀ m, modeSince m e = none) : FollowsSince addr (log ++ [e]) phy c := by
  refine ⟨haddr, fun mode hmode => ?_⟩
  rw [List.foldl_append, List.foldl_cons, List.foldl_nil, he] at hmode
  cases hmode

/-- **Every call of the inner driver keeps what is known.** -/
theorem followsSince_inner (call : PhyCall) (h : FollowsSince addr log phy c) :
    (call.op phy : Program Txn.Reply ε _).Ensures (Lan87xx.device configuredRegs87xx phy.addr) c
      fun _ r c' => FollowsSince addr (log ++ [(.inner call, .inner r.1)]) r.2 c' := by
  obtain ⟨haddr, hset⟩ := h
  by_cases hinit : call = .driver .init
  · subst hinit
    refine (operating_init phy c).mono ?_
    rintro l ⟨r, phy'⟩ c' ⟨haddr', hoper⟩
    refine ⟨haddr'.trans haddr, fun mode hmode => ?_⟩
    rw [List.foldl_append, List.foldl_cons, List.foldl_nil, modeSince] at hmode
    by_cases hok : r.isOk = true
    · rw [if_pos hok] at hmode
      obtain rfl := Option.some.inj hmode
      exact hoper hok
    · rw [if_neg hok] at hmode
      cases hmode
  by_cases hsoft : ∃ n, call = .helper (.softReset n)
  · obtain ⟨n, rfl⟩ := hsoft
    refine (PhyCall.op_addr _ phy _ c).mono ?_
    intro l r c' haddr'
    exact .lost (haddr'.trans haddr) fun _ => rfl
  have hcall : ¬call.Resets := by
    rcases call with (_ | _) | (_ | _)
    all_goals first | exact id | exact absurd rfl hinit | exact absurd ⟨_, rfl⟩ hsoft
  cases hknown : log.foldl modeSince none with
  | none =>
    refine (PhyCall.op_addr call phy _ c).mono ?_
    rintro l r c' haddr'
    refine ⟨haddr'.trans haddr, fun mode hmode => ?_⟩
    rw [List.foldl_append, List.foldl_cons, List.foldl_nil, hknown, modeSince_other hcall] at hmode
    cases hmode
  | some mode =>
    refine (operating_step hcall (hset mode hknown)).mono ?_
    rintro l r c' ⟨haddr', hoper⟩
    refine ⟨haddr'.trans haddr, fun mode' hmode' => ?_⟩
    rw [List.foldl_append, List.foldl_cons, List.foldl_nil, hknown,
      modeSince_other hcall] at hmode'
    obtain rfl := Option.some.inj hmode'
    exact hoper

/-- **A reset through the pin keeps what is known**, or leaves nothing known. -/
theorem followsSince_pin (h : FollowsSince addr log phy c) :
    (PhyLan87xxWithReset.hardwareReset : Fallible PinTxn.Reply π Unit).run.Ensures
      (Lan87xx.resetPin configuredRegs87xx) c fun l r c' =>
        FollowsSince addr (log ++ [(.hardwareReset, .pin (pulledLow l) r)]) phy c' := by
  obtain ⟨haddr, hset⟩ := h
  refine (PhyLan87xxWithReset.hardwareReset_ensures configuredRegs87xx c).mono ?_
  intro l r c' hdrift
  cases hlow : pulledLow l with
  | true => exact .lost haddr fun _ => rfl
  | false =>
    refine ⟨haddr, fun mode hmode => ?_⟩
    rw [List.foldl_append, List.foldl_cons, List.foldl_nil] at hmode
    exact (hset mode hmode).drift (hdrift hlow)

end Steps

/-- **Over every run, what is known holds.** -/
theorem followsSince_invariant {board : Board ε π σ} {view : σ → Registers} {addr : U8}
    (hbus : board.bus.handler.Conforms (Lan87xx.device configuredRegs87xx addr) view)
    (hpin : board.pin.Conforms (Lan87xx.resetPin configuredRegs87xx) view)
    (calls : List WithReset87xxCall) (s : σ) :
    let session := (WithReset87xxCall.serve board).play calls (.new addr, s)
    FollowsSince addr session.1 session.2.1.inner (view session.2.2) := by
  have hstep : ∀ (log : List (WithReset87xxCall × Answer ε π)) (x : PhyLan87xxWithReset × σ)
      (call : WithReset87xxCall), True → FollowsSince addr log x.1.inner (view x.2) →
      let y := WithReset87xxCall.serve board call x
      FollowsSince addr (log ++ [(call, y.1)]) y.2.1.inner (view y.2.2) := by
    rintro log ⟨⟨phy⟩, s⟩ call - h
    obtain rfl := h.1
    cases call with
    | inner call => exact (followsSince_inner call h).run hbus
    | hardwareReset =>
      have hrun := (followsSince_pin h).run hpin
      simp only [Outcome.map_trace, pulledLow_map] at hrun
      exact hrun
  exact Machine.play_invariant (WithReset87xxCall.serve board)
    (P := fun log x => FollowsSince addr log x.1.inner (view x.2)) hstep (fun _ _ => trivial)
    ⟨rfl, nofun⟩

/-- **The chip operates until it is reset**, over every run and wherever the bus or the pin
faults: if a complete `init` has succeeded since the chip was last reset, by `init`, by
`soft_reset` or through the pin, it is configured and in the mode commanded last since
then, and the next fault-free `pollLink` reports what that mode calls for. -/
theorem operating_until_reset (board : Board ε π σ) (view : σ → Registers) (addr : U8)
    (hbus : board.bus.handler.Conforms (Lan87xx.device configuredRegs87xx addr) view)
    (hpin : board.pin.Conforms (Lan87xx.resetPin configuredRegs87xx) view)
    (calls : List WithReset87xxCall) (s : σ) (mode : LinkMode) :
    let session := (WithReset87xxCall.serve board).play calls (.new addr, s)
    let o := (((PhyCall.driver .pollLink).op session.2.1.inner).run board.bus.handler
      session.2.2).map view
    session.1.foldl modeSince none = some mode →
      Operating mode (view session.2.2) ∧
        (o.FaultFree → ∃ link, o.value.1 = .phy (.ok (.link link)) ∧
          mode.Reports addr o.trace link) := by
  intro session o hmode
  obtain ⟨haddr, hset⟩ : FollowsSince addr session.1 session.2.1.inner (view session.2.2) :=
    followsSince_invariant hbus hpin calls s
  have hoper := hset mode hmode
  refine ⟨hoper, fun hff => ?_⟩
  have hplain : board.bus.handler.Conforms (Lan87xx.device ∅ addr) view :=
    fun t s => device_anti _ (hbus t s)
  exact (hoper.modeSet.poll_reports haddr).run_faultFree hplain
    ((Outcome.map_faultFree view _).mp hff)

/-! ## A board to run it on -/

namespace SimulatedLan87xx

/-- A board with a LAN8720A on it, whose bus loses what a script names.  The line being low
is told by BMCR, and its release loads the power-on contents. -/
def resetBoard : Board String String (Registers × List (Option String)) where
  bus := lossyBus String 1
  setLow s := (.ok (), (Function.update s.1 regs.bmcr bmcr.reset, s.2))
  setHigh s := (.ok (), (if s.1 regs.bmcr &&& bmcr.reset = 0 then s.1 else lan8720a, s.2))
  delayMs _ s := s

theorem resetBoard_pin :
    resetBoard.pin.Conforms (Lan87xx.resetPin configuredRegs87xx) Prod.fst := by
  rintro t ⟨c, script⟩
  cases t with
  | setLow => exact trivial
  | setHigh =>
    intro hset
    have hclear : c regs.bmcr &&& bmcr.reset = 0 := not_not.mp hset
    have hkept : Prod.fst (resetBoard.pin .setHigh (c, script)).2 = c := if_pos hclear
    rw [hkept]
    exact ⟨.inl rfl, fun _ _ _ => rfl⟩
  | delayMs ms => exact Registers.Drift.refl _ c

end SimulatedLan87xx

/-- A forced link is lost in a hardware reset; it holds again after `init` and another
`force_link`, though the bus loses a read in between. -/
theorem operating_until_reset_forced :
    let session := (WithReset87xxCall.serve SimulatedLan87xx.resetBoard).play
      [.inner (.driver .init), .inner (.helper (.forceLink ._100M .half)), .hardwareReset,
        .inner (.driver .init), .inner (.driver .pollLink),
        .inner (.helper (.forceLink ._10M .full))]
      (.new 1, SimulatedLan87xx.lan8720a, List.replicate 20 none ++ [some "timeout"])
    Operating (.forced ._10M .full) session.2.2.1 :=
  (operating_until_reset SimulatedLan87xx.resetBoard Prod.fst 1
    (SimulatedLan87xx.lossyBus_conforms _ 1) SimulatedLan87xx.resetBoard_pin
    [.inner (.driver .init), .inner (.helper (.forceLink ._100M .half)), .hardwareReset,
      .inner (.driver .init), .inner (.driver .pollLink),
      .inner (.helper (.forceLink ._10M .full))]
    (SimulatedLan87xx.lan8720a, List.replicate 20 none ++ [some "timeout"])
    (.forced ._10M .full) rfl).1

end EthPhy
