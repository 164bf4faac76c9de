import EthPhy.HardwareReset
import EthPhy.PlcaRecovery

/-!
# What the log tells of a PLCA node

A failed call leaves it open what the chip does: on a bus that may lose the confirmation
of a transaction, a `configurePlca` that failed may have turned PLCA on, and a
`disablePlca` that failed may have turned it off.  A reset through the pin goes past the
driver altogether.

`Known` is what the calls and their responses still tell of the node, from one call to
the next.  Over every run it is true, of the chip and of what the driver remembers, and
so `pollLink` and `plcaStatus` report it (`node_known`).
-/

namespace EthPhy
open Interaction Lan867x

variable {ε π σ : Type}

/-- **What is known of a node.** -/
inductive Known where
  /-- Nothing: no `init` has succeeded since the chip was last reset. -/
  | nothing
  /-- It is in multidrop mode. -/
  | multidrop
  /-- It is in multidrop mode, with PLCA off. -/
  | csmaCd
  /-- It is in multidrop mode, with this configuration in force. -/
  | plca (config : PlcaConfig)
  deriving DecidableEq, Repr

namespace Known

/-- A call that changes the PLCA setting has failed half-way. -/
def inDoubt : Known → Known
  | nothing => nothing
  | _ => multidrop

/-- A call that changes the PLCA setting has succeeded. -/
def settled (known now : Known) : Known :=
  match known with
  | nothing => nothing
  | _ => now

/-- **What is known after an entry of the log.** -/
def after (known : Known) : WithResetCall × Answer ε π → Known
  | (.inner .init, .inner r) => if r.isOk then csmaCd else nothing
  | (.inner (.configurePlca config), .inner r) =>
    if r.isOk then known.settled (plca config)
    else if config.Valid then known.inDoubt
    else known
  | (.inner .disablePlca, .inner r) => if r.isOk then known.settled csmaCd else known.inDoubt
  | (.hardwareReset, .pin low _) => if low then nothing else known
  | _ => known

end Known

/-- The node is in multidrop mode, and the driver knows. -/
structure InMultidrop (d : Datasheet) (phy : PhyLan867x) (f : RegFile) : Prop where
  chip_isSome : phy.chip.isSome = true
  since : SinceInit d phy.chip phy f

/-- **What is known is true** of a driver and a chip whose registers are `f`. -/
def Known.Describes (d : Datasheet) (phy : PhyLan867x) (f : RegFile) : Known → Prop
  | nothing => True
  | multidrop => InMultidrop d phy f
  | csmaCd => InMultidrop d phy f ∧ phy.plcaId = none ∧ ¬f.PlcaOn
  | plca config => InMultidrop d phy f ∧ phy.plcaId = some config.nodeId ∧
    f.plcaRegs = configuredRegs d config

section Steps

variable {d : Datasheet} {phy phy' : PhyLan867x} {f f' : RegFile} {c : Silicon} {known : Known}

/-- Doubt is always right. -/
theorem Known.Describes.inDoubt (h : known.Describes d phy f) :
    known.inDoubt.Describes d phy f := by
  cases known with
  | nothing => trivial
  | multidrop => exact h
  | csmaCd => exact h.1
  | plca config => exact h.1

/-- It is a matter of four registers. -/
theorem Known.Describes.congr (h : known.Describes d phy f) (hregs : f'.plcaRegs = f.plcaRegs) :
    known.Describes d phy f' := by
  have hctrl0 : f' plcaCtrl0 = f plcaCtrl0 := congrArg Prod.fst hregs
  have ht1 : f' t1spmactl = f t1spmactl := congrArg (fun regs => regs.2.2.2) hregs
  have hmultidrop : InMultidrop d phy f → InMultidrop d phy f' := by
    intro hm
    refine ⟨hm.chip_isSome, hm.since.chip_eq, ?_, ?_⟩
    · rw [ht1]
      exact hm.since.t1spmactl_eq
    · rw [hctrl0]
      exact hm.since.plcaCtrl0_eq
  cases known with
  | nothing => trivial
  | multidrop => exact hmultidrop h
  | csmaCd =>
    refine ⟨hmultidrop h.1, h.2.1, ?_⟩
    unfold RegFile.PlcaOn
    rw [hctrl0]
    exact h.2.2
  | plca config => exact ⟨hmultidrop h.1, h.2.1, hregs.trans h.2.2⟩

/-- Registers that have only been read are the same. -/
theorem Silicon.Holds.plcaRegs {c : Silicon} (h : c.Holds d.status f) :
    RegFile.plcaRegs c.mmd = f.plcaRegs := by
  unfold RegFile.plcaRegs
  rw [h _ d.plcaCtrl0_not_status, h _ d.plcaCtrl1_not_status, h _ d.plcaBurst_not_status,
    h _ d.t1spmactl_not_status]

/-- A call follows its plan, also where transactions that failed may take effect. -/
theorem follows_plan (call : Lan867xCall) (phy : PhyLan867x) (c : Silicon) :
    (call.op phy : Program Txn.Reply ε _).Ensures (device True (lan867x d) phy.addr) c
      fun l r c' =>
        Progress (Silicon.Holds d.status) (¬True ∧ call.plan d c.mmd ≠ []) c.mmd
          (call.plan d c.mmd) (r.1.isOk = true) l c' ∧ call.Updates phy r.1 r.2 :=
  call.follows d phy (fun _ _ => rfl)

/-- No call but `init` leaves multidrop mode. -/
theorem inMultidrop_step (call : Lan867xCall) (hcall : call ≠ .init)
    (h : InMultidrop d phy c.mmd) :
    (call.op phy : Program Txn.Reply ε _).Ensures (device True (lan867x d) phy.addr) c
      fun _ r c' => r.2.addr = phy.addr ∧ InMultidrop d r.2 c'.mmd := by
  refine (sinceInit_step h.since call hcall).mono ?_
  rintro l r c' ⟨haddr, hsince⟩
  have hchip : r.2.chip = phy.chip := hsince.chip_eq
  refine ⟨haddr, ?_, ?_⟩
  · rw [hchip]
    exact h.chip_isSome
  · rw [hchip]
    exact hsince

/-- A call without a plan leaves the PLCA registers alone. -/
theorem plcaRegs_kept (call : Lan867xCall) (phy : PhyLan867x) (hplan : call.plan d c.mmd = []) :
    (call.op phy : Program Txn.Reply ε _).Ensures (device True (lan867x d) phy.addr) c
      fun _ r c' => call.Updates phy r.1 r.2 ∧
        RegFile.plcaRegs c'.mmd = RegFile.plcaRegs c.mmd := by
  refine (follows_plan call phy c).mono ?_
  rintro l r c' ⟨hprog, hupdates⟩
  obtain ⟨g, hg, hc'⟩ := hprog.somewhere
  rw [hplan] at hg
  obtain rfl := List.mem_singleton.mp hg
  exact ⟨hupdates, hc'.plcaRegs⟩

/-- A call that leaves registers and driver alone changes nothing that is known. -/
theorem known_kept (call : Lan867xCall) (hplan : call.plan d c.mmd = [])
    (hupd : ∀ (r : Response ε) phy', call.Updates phy r phy' → phy' = phy)
    (h : known.Describes d phy c.mmd) :
    (call.op phy : Program Txn.Reply ε _).Ensures (device True (lan867x d) phy.addr) c
      fun _ r c' => r.2.addr = phy.addr ∧ known.Describes d r.2 c'.mmd := by
  refine (plcaRegs_kept call phy hplan).mono ?_
  rintro l ⟨r, phy'⟩ c' ⟨hupdates, hregs⟩
  obtain rfl := hupd r phy' hupdates
  exact ⟨rfl, h.congr hregs⟩

/-- `init` starts afresh. -/
theorem known_init (phy : PhyLan867x) (c : Silicon) :
    (Lan867xCall.init.op phy : Program Txn.Reply ε _).Ensures (device True (lan867x d) phy.addr) c
      fun _ r c' => r.2.addr = phy.addr ∧
        (r.1.isOk = true → Known.csmaCd.Describes d r.2 c'.mmd) := by
  refine ((follows_plan .init phy c).and (sinceInit_start phy c)).mono ?_
  rintro l ⟨r, phy'⟩ c' ⟨⟨hprog, haddr, hid, hchip⟩, hsince⟩
  refine ⟨haddr, fun hok => ⟨⟨hchip.trans hok, (hsince hok).2⟩, hid, ?_⟩⟩
  have hregs : c'.Holds d.status (d.defaults.rmw t1spmactl 0 t1spmactlMde) := hprog.reached hok
  rw [hregs.plcaOn]
  exact (Lan867xCall.initialised d).2

/-- `configurePlca` with a valid configuration puts it in force, or leaves doubt. -/
theorem known_configurePlca {config : PlcaConfig} (hvalid : config.Valid)
    (h : InMultidrop d phy c.mmd) :
    ((Lan867xCall.configurePlca config).op phy : Program Txn.Reply ε _).Ensures
      (device True (lan867x d) phy.addr) c fun _ r c' => r.2.addr = phy.addr ∧
        (if r.1.isOk then Known.plca config else .multidrop).Describes d r.2 c'.mmd := by
  have hmode := inMultidrop_step (ε := ε) (.configurePlca config) nofun h
  refine (hmode.and (configurePlca_step hvalid h.since)).mono ?_
  rintro l ⟨r, phy'⟩ c' ⟨⟨haddr, hmultidrop⟩, ⟨e, he⟩ | ⟨hr, hregs⟩⟩
  · have hfailed : r.isOk = false := by
      rcases r with (_ | _) | (_ | _) | (_ | _)
      all_goals first | rfl | cases he
    rw [if_neg (by simp [hfailed])]
    exact ⟨haddr, hmultidrop⟩
  · obtain ⟨rfl, rfl⟩ := Prod.mk.inj hr
    exact ⟨haddr, hmultidrop, rfl, hregs⟩

/-- `disablePlca` turns PLCA off, or leaves doubt. -/
theorem known_disablePlca (h : InMultidrop d phy c.mmd) :
    (Lan867xCall.disablePlca.op phy : Program Txn.Reply ε _).Ensures
      (device True (lan867x d) phy.addr) c fun _ r c' => r.2.addr = phy.addr ∧
        (if r.1.isOk then Known.csmaCd else .multidrop).Describes d r.2 c'.mmd := by
  have hmode := inMultidrop_step (ε := ε) .disablePlca nofun h
  refine (hmode.and (follows_plan .disablePlca phy c)).mono ?_
  rintro l ⟨r, phy'⟩ c' ⟨⟨haddr, hmultidrop⟩, hprog, hupd⟩
  by_cases hok : r.isOk = true
  · have hphy' : phy' = { phy with plcaId := none } := hupd.trans (if_pos hok)
    rw [if_pos hok]
    refine ⟨haddr, hmultidrop, by rw [hphy'], ?_⟩
    have hregs : c'.Holds d.status (RegFile.rmw c.mmd plcaCtrl0 plcaCtrl0En 0) :=
      hprog.reached hok
    rw [hregs.plcaOn]
    exact Lan867xCall.disabled_plcaOff
  · rw [if_neg hok]
    exact ⟨haddr, hmultidrop⟩

/-- Where nothing is known, a call that changes the PLCA setting lets nothing be known. -/
theorem known_nothing (call : Lan867xCall) (phy : PhyLan867x) (c : Silicon) :
    (call.op phy : Program Txn.Reply ε _).Ensures (device True (lan867x d) phy.addr) c
      fun _ r c' => r.2.addr = phy.addr ∧ Known.nothing.Describes d r.2 c'.mmd :=
  (follows_plan call phy c).mono fun _ _ _ h => ⟨h.2.addr, trivial⟩

/-- Otherwise the node is in multidrop mode. -/
theorem Known.Describes.inMultidrop (h : known.Describes d phy f) (hknown : known ≠ .nothing) :
    InMultidrop d phy f := by
  cases known with
  | nothing => exact absurd rfl hknown
  | multidrop => exact h
  | csmaCd => exact h.1
  | plca config => exact h.1

theorem Known.settled_of_ne (hknown : known ≠ .nothing) (now : Known) :
    known.settled now = now ∧ known.inDoubt = .multidrop := by
  cases known with
  | nothing => exact absurd rfl hknown
  | _ => exact ⟨rfl, rfl⟩

/-- A call that sets PLCA to what is then `now`, or leaves doubt, whatever was known. -/
theorem known_commanded {call : Lan867xCall} {now : Known}
    (hstep : InMultidrop d phy c.mmd →
      (call.op phy : Program Txn.Reply ε _).Ensures (device True (lan867x d) phy.addr) c
        fun _ r c' => r.2.addr = phy.addr ∧
          (if r.1.isOk then now else .multidrop).Describes d r.2 c'.mmd)
    (h : known.Describes d phy c.mmd) :
    (call.op phy : Program Txn.Reply ε _).Ensures (device True (lan867x d) phy.addr) c
      fun _ r c' => r.2.addr = phy.addr ∧
        (if r.1.isOk then known.settled now else known.inDoubt).Describes d r.2 c'.mmd := by
  by_cases hknown : known = .nothing
  · subst hknown
    refine (known_nothing call phy c).mono ?_
    rintro l r c' ⟨haddr, -⟩
    refine ⟨haddr, ?_⟩
    split <;> trivial
  · obtain ⟨hsettled, hdoubt⟩ := Known.settled_of_ne hknown now
    rw [hsettled, hdoubt]
    exact hstep (h.inMultidrop hknown)

/-- **Every call of the inner driver keeps what is known true.** -/
theorem known_inner (call : Lan867xCall) (h : known.Describes d phy c.mmd) :
    (call.op phy : Program Txn.Reply ε _).Ensures (device True (lan867x d) phy.addr) c
      fun _ r c' => r.2.addr = phy.addr ∧
        (known.after (.inner call, (.inner r.1 : Answer ε π))).Describes d r.2 c'.mmd := by
  cases call with
  | init =>
    refine (known_init phy c).mono ?_
    rintro l r c' ⟨haddr, hinit⟩
    refine ⟨haddr, ?_⟩
    rw [Known.after]
    split
    · exact hinit ‹_›
    · trivial
  | configurePlca config =>
    by_cases hvalid : config.Valid
    · refine (known_commanded (known_configurePlca hvalid) h).mono ?_
      rintro l r c' ⟨haddr, hstep⟩
      refine ⟨haddr, ?_⟩
      rw [Known.after, if_pos hvalid]
      exact hstep
    · -- an invalid configuration is refused, and nothing is done
      have hplan := Lan867xCall.plan_configurePlca_invalid (d := d) (f := c.mmd) hvalid
      have hrefused := follows_plan (d := d) (ε := ε) (.configurePlca config) phy c
      have hnot : ∀ (r : Response ε) phy', (Lan867xCall.configurePlca config).Updates phy r phy' →
          r.isOk = false := fun r phy' hupd => by
        rw [hupd.2.1 hvalid]
        rfl
      have hupdates : ∀ (r : Response ε) phy',
          (Lan867xCall.configurePlca config).Updates phy r phy' → phy' = phy := by
        intro r phy' hupd
        rw [hupd.2.2, hnot r phy' hupd]
        rfl
      refine ((known_kept (.configurePlca config) hplan hupdates h).and hrefused).mono ?_
      rintro l r c' ⟨⟨haddr, hkept⟩, -, hupd⟩
      refine ⟨haddr, ?_⟩
      rw [Known.after, hnot _ _ hupd, if_neg hvalid]
      exact hkept
  | disablePlca =>
    refine (known_commanded known_disablePlca h).mono ?_
    rintro l r c' ⟨haddr, hstep⟩
    refine ⟨haddr, ?_⟩
    rw [Known.after]
    exact hstep
  | pollLink => exact known_kept .pollLink rfl (fun _ _ hupd => hupd) h
  | capabilities => exact known_kept .capabilities rfl (fun _ _ hupd => hupd) h
  | phyId => exact known_kept .phyId rfl (fun _ _ hupd => hupd) h
  | plcaStatus => exact known_kept .plcaStatus rfl (fun _ _ hupd => hupd) h

/-- **A reset through the pin leaves nothing known**, unless the line was never low. -/
theorem known_pin (h : known.Describes d phy c.mmd) :
    (PhyLan867xWithReset.hardwareReset : Fallible PinTxn.Reply π Unit).run.Ensures (resetPin d) c
      fun l r c' => (known.after (.hardwareReset,
        (.pin (pulledLow l) r : Answer ε π))).Describes d phy c'.mmd := by
  refine (hardwareReset_ensures d c).mono ?_
  rintro l r c' (⟨hlow, -⟩ | ⟨hlow, hagree⟩)
  · rw [Known.after, hlow]
    trivial
  · rw [Known.after, hlow]
    have hsame : c'.Holds d.status c.mmd := hagree
    exact h.congr hsame.plcaRegs

end Steps

/-- **Every call keeps what is known true.** -/
theorem known_serve {d : Datasheet} {board : Board ε π σ} {view : σ → Silicon}
    {phy : PhyLan867xWithReset} {known : Known}
    (hbus : board.bus.handler.Conforms (device True (lan867x d) phy.inner.addr) view)
    (hpin : board.pin.Conforms (resetPin d) view) (call : WithResetCall) {s : σ}
    (h : known.Describes d phy.inner (view s).mmd) :
    let y := WithResetCall.serve board call (phy, s)
    y.2.1.inner.addr = phy.inner.addr ∧
      (known.after (call, y.1)).Describes d y.2.1.inner (view y.2.2).mmd := by
  cases call with
  | inner call => exact (known_inner call h).run hbus
  | hardwareReset =>
    have hrun := (known_pin (ε := ε) h).run hpin
    simp only [Outcome.map_trace, pulledLow_map] at hrun
    exact ⟨rfl, hrun⟩

/-- **Over every run, what is known is true.** -/
theorem known_invariant {d : Datasheet} {board : Board ε π σ} {view : σ → Silicon} {addr : U8}
    (hbus : board.bus.handler.Conforms (device True (lan867x d) addr) view)
    (hpin : board.pin.Conforms (resetPin d) view) (calls : List WithResetCall) (s : σ) :
    let session := (WithResetCall.serve board).play calls (.new addr, s)
    session.2.1.inner.addr = addr ∧ (session.1.foldl Known.after .nothing).Describes d
      session.2.1.inner (view session.2.2).mmd := by
  have hstep : ∀ (log : List (WithResetCall × Answer ε π)) (x : PhyLan867xWithReset × σ)
      (call : WithResetCall), True →
      (x.1.inner.addr = addr ∧
        (log.foldl Known.after .nothing).Describes d x.1.inner (view x.2).mmd) →
      let y := WithResetCall.serve board call x
      y.2.1.inner.addr = addr ∧ ((log ++ [(call, y.1)]).foldl Known.after .nothing).Describes d
        y.2.1.inner (view y.2.2).mmd := by
    rintro log ⟨phy, s⟩ call - ⟨rfl, h⟩
    simp only [List.foldl_append, List.foldl_cons, List.foldl_nil]
    exact known_serve hbus hpin call h
  exact Machine.play_invariant (WithResetCall.serve board)
    (P := fun log x => x.1.inner.addr = addr ∧
      (log.foldl Known.after .nothing).Describes d x.1.inner (view x.2).mmd) hstep
    (fun _ _ => trivial) ⟨rfl, trivial⟩

/-- With PLCA known to be off, `pollLink` does not ask the chip. -/
theorem pollLink_csmaCd {d : Datasheet} {phy : PhyLan867x} {f : RegFile}
    (h : Known.csmaCd.Describes d phy f) :
    (Lan867xCall.pollLink.op phy : Program Txn.Reply ε _) =
      .done (.phy (.ok (.link (.upAt ._10M .half))), phy) := by
  obtain ⟨addr, chip, plcaId⟩ := phy
  obtain ⟨⟨hchip, -⟩, hid, -⟩ := h
  obtain ⟨k, rfl⟩ := Option.isSome_iff_exists.mp hchip
  obtain rfl : plcaId = none := hid
  rfl

/-- **What the log tells of a node is true**, over every run and wherever the bus or the
pin faults, also where transactions that failed took effect; and `pollLink` and
`plcaStatus` report it. -/
theorem node_known (d : Datasheet) (board : Board ε π σ) (view : σ → Silicon) (addr : U8)
    (hbus : board.bus.handler.Conforms (device True (lan867x d) addr) view)
    (hpin : board.pin.Conforms (resetPin d) view) (calls : List WithResetCall) (s : σ) :
    let session := (WithResetCall.serve board).play calls (.new addr, s)
    let phy := session.2.1.inner
    let c := view session.2.2
    let known := session.1.foldl Known.after .nothing
    let poll := ((Lan867xCall.pollLink.op phy).run board.bus.handler session.2.2).map view
    let status := ((Lan867xCall.plcaStatus.op phy).run board.bus.handler session.2.2).map view
    known.Describes d phy c.mmd ∧
    (known = .csmaCd →
      poll.value.1 = .phy (.ok (.link (.upAt ._10M .half))) ∧ poll.trace = []) ∧
    ∀ config, known = .plca config →
      (∀ link, poll.value.1 = .phy (.ok (.link link)) →
        ∃ sts, c.Fetched d.status addr plcaSts poll.trace sts poll.state ∧
          link = linkOfSts sts) ∧
      (status.FaultFree → ∃ sts l₁ l₂, ∃ c₁ : Silicon, status.trace = l₁ ++ l₂ ∧
        c₁.Fetched d.status addr plcaSts l₂ sts status.state ∧
        status.value.1 = .plca (.ok (.status {
          enabled := true
          nodeId := config.nodeId
          isCoordinator := config.nodeId == 0
          stable := sts &&& plcaStsPst != 0 }))) := by
  intro session phy c known poll status
  obtain ⟨haddr, hknown⟩ : phy.addr = addr ∧ known.Describes d phy c.mmd :=
    known_invariant hbus hpin calls s
  rw [← haddr] at hbus ⊢
  refine ⟨hknown, fun hoff => ?_, fun config hon => ⟨fun link hlink => ?_, fun hff => ?_⟩⟩
  · rw [hoff] at hknown
    have hpoll : poll = ⟨[], (.phy (.ok (.link (.upAt ._10M .half))), phy), c⟩ := by
      simp only [poll, pollLink_csmaCd hknown]
      rfl
    rw [hpoll]
    exact ⟨rfl, rfl⟩
  · rw [hon] at hknown
    obtain ⟨hmultidrop, hid, -⟩ := hknown
    have hreport := (pollLink_op_reports d phy c).run hbus link hlink
    exact hreport.plcaOn hmultidrop.chip_isSome (by rw [hid]; rfl)
  · rw [hon] at hknown
    exact status_of_faultFree hbus hknown.2.2 ((Outcome.map_faultFree view _).mp hff)

/-- A `disablePlca` that is not confirmed leaves doubt; a second one settles it, whatever
has become of the first. -/
theorem node_known_disabled :
    let session := (WithResetCall.serve SimulatedChip.resetBoard).play
      [.hardwareReset, .inner .init, .inner (.configurePlca ⟨1, 4, 0, 0⟩), .inner .disablePlca,
        .inner .disablePlca]
      (.new 3, ⟨staleChip, List.replicate 44 .delivered ++ [.unconfirmed "timeout"]⟩)
    session.2.1.inner.plcaId = none ∧ ¬RegFile.PlcaOn session.2.2.chip.mmd := by
  intro session
  have hoff : session.1.foldl Known.after .nothing = .csmaCd := by decide +kernel
  have h := node_known SimulatedChip.datasheet SimulatedChip.resetBoard SimState.chip 3
    SimulatedChip.resetBoard_bus SimulatedChip.resetBoard_pin
    [.hardwareReset, .inner .init, .inner (.configurePlca ⟨1, 4, 0, 0⟩), .inner .disablePlca,
      .inner .disablePlca]
    ⟨staleChip, List.replicate 44 .delivered ++ [.unconfirmed "timeout"]⟩
  have hknown : (session.1.foldl Known.after .nothing).Describes SimulatedChip.datasheet
      session.2.1.inner session.2.2.chip.mmd := h.1
  clear h
  clear_value session
  rw [hoff] at hknown
  exact hknown.2

end EthPhy
