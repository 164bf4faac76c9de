import EthPhy.ErrorTransparency
import EthPhy.Lan87xxPlan
import EthPhy.Session
import Mathlib.Tactic.IntervalCases

/-!
# The link report of a LAN87xx follows the last mode command

What speed and duplex a link has is commanded through BMCR, by functions of two crates,
and read back from it by `pollLink`.  `LinkMode` is what is commanded, and
`LinkMode.Selected` says that BMCR commands it.  Every update of BMCR selects a mode or
keeps the one selected, and the bit the chip clears by itself selects nothing.

So over every run BMCR selects the mode that was commanded last, and `pollLink` reports
accordingly (`report_follows_mode`).
-/

namespace EthPhy
open Interaction Ieee802_3 Lan87xx

variable {ε : Type}

/-! ## Link modes -/

/-- What a MAC may command. -/
inductive LinkMode where
  /-- Speed and duplex are negotiated. -/
  | auto
  /-- Speed and duplex are commanded. -/
  | forced (speed : Speed) (duplex : Duplex)
  deriving DecidableEq, Repr

/-- A BMCR value selects the mode. -/
def LinkMode.Selected (v : U16) : LinkMode → Prop
  | auto => v &&& bmcr.anEnable ≠ 0
  | forced speed duplex =>
    v &&& bmcr.anEnable = 0 ∧ PhyLan87xx.decodeBmcr v = (speed, duplex)

/-- The mode a call commands, if it commands one. -/
def PhyCall.mode : PhyCall → Option LinkMode
  | driver .init | helper .enableAutoNegotiation => some .auto
  | helper (.forceLink speed duplex) => some (.forced speed duplex)
  | driver (.setLoopback true) => some (.forced ._100M .full)
  | _ => none

/-- The mode an entry of the log commands.  A call that failed commands none. -/
def commandedMode : PhyCall × Response ε → Option LinkMode
  | (call, r) => if r.isOk then call.mode else none

namespace LinkMode

/-- Only AN_ENABLE, SPEED_100 and DUPLEX_FULL matter. -/
theorem Selected.congr {v v' : U16} {mode : LinkMode} (h : mode.Selected v)
    (hen : v' &&& bmcr.anEnable = v &&& bmcr.anEnable)
    (hspeed : v' &&& bmcr.speed100 = v &&& bmcr.speed100)
    (hduplex : v' &&& bmcr.duplexFull = v &&& bmcr.duplexFull) : mode.Selected v' := by
  cases mode with
  | auto =>
    unfold Selected
    rw [hen]
    exact h
  | forced speed duplex =>
    unfold Selected PhyLan87xx.decodeBmcr
    rw [hen, hspeed, hduplex]
    exact h

/-- AN_RESTART selects nothing. -/
theorem Selected.of_agreeOff {v v' : U16} {mode : LinkMode} (h : mode.Selected v)
    (hv : Bits.AgreeOff bmcr.anRestart v' v) : mode.Selected v' :=
  h.congr (hv.and_eq (by decide)) (hv.and_eq (by decide)) (hv.and_eq (by decide))

theorem selected_anRestarted (v : U16) : auto.Selected (anRestarted v) := by
  show anRestarted v &&& bmcr.anEnable ≠ 0
  rw [anRestarted_eq, Bits.rmw_and_of_set v (by decide)]
  decide

theorem selected_forced (speed : Speed) (duplex : Duplex) (v : U16) :
    (forced speed duplex).Selected (Ieee802_3.forced speed duplex v) := by
  unfold Selected PhyLan87xx.decodeBmcr
  rw [forced_eq, Bits.rmw_and_of_cleared v (by decide), Bits.rmw_and_of_cleared v (by decide),
    Bits.rmw_and_of_cleared v (by decide)]
  cases speed <;> cases duplex <;> decide

theorem selected_loopbackOn : (forced ._100M .full).Selected PhyLan87xx.loopbackOn :=
  ⟨by decide, by decide⟩

/-- Turning loopback off keeps the mode. -/
theorem Selected.loopbackOff {v : U16} {mode : LinkMode} (h : mode.Selected v) :
    mode.Selected (v &&& ~~~bmcr.loopback) :=
  h.congr (Bits.andNot_and_of_disjoint v (by decide)) (Bits.andNot_and_of_disjoint v (by decide))
    (Bits.andNot_and_of_disjoint v (by decide))

end LinkMode

/-! ## The mode over a run -/

/-- **BMCR selects the mode**, and the chip is not in reset. -/
structure ModeSet (mode : LinkMode) (c : Registers) : Prop where
  settled : ¬c.InReset
  selected : mode.Selected (c regs.bmcr)

/-- What registers that hold `f` select. -/
theorem ModeSet.of_holds {plain : Set U8} {mode : LinkMode} {f c : Registers}
    (h : f.Holds plain c) (hf : mode.Selected (f regs.bmcr)) : ModeSet mode c :=
  ⟨h.settled, hf.of_agreeOff h.bmcr_eq⟩

/-- The update of a call selects the mode it commands, or keeps the one selected. -/
theorem PhyCall.update_selected {call : PhyCall} {g : U16 → U16} (hg : call.update = some g)
    {mode : LinkMode} {v : U16} (h : mode.Selected v) : (call.mode.getD mode).Selected (g v) := by
  cases call with
  | driver call =>
    cases call with
    | setLoopback on =>
      cases on with
      | true =>
        obtain rfl := Option.some.inj hg
        exact LinkMode.selected_loopbackOn
      | false =>
        obtain rfl := Option.some.inj hg
        exact h.loopbackOff
    | _ => cases hg
  | helper call =>
    cases call with
    | enableAutoNegotiation =>
      obtain rfl := Option.some.inj hg
      exact LinkMode.selected_anRestarted v
    | forceLink speed duplex =>
      obtain rfl := Option.some.inj hg
      exact LinkMode.selected_forced speed duplex v
    | _ => cases hg

/-- A call that does not write BMCR commands no mode. -/
theorem PhyCall.mode_of_update {call : PhyCall} (hcall : ¬call.Resets)
    (h : call.update = none) : call.mode = none := by
  cases call with
  | driver call =>
    cases call with
    | init => exact absurd trivial hcall
    | setLoopback on => cases on <;> cases h
    | _ => rfl
  | helper call => cases call <;> first | rfl | cases h

/-- **A call that does not reset the chip** commands its mode if it succeeds, and
otherwise leaves the mode. -/
theorem modeSet_step {call : PhyCall} (hcall : ¬call.Resets) {mode : LinkMode} {phy : PhyLan87xx}
    {c : Registers} (h : ModeSet mode c) :
    (call.op phy : Program Txn.Reply ε _).Ensures (Lan87xx.device ∅ phy.addr) c
      fun _ r c' => r.2.addr = phy.addr ∧
        ModeSet ((commandedMode (call, r.1)).getD mode) c' := by
  refine (call.follows phy hcall (.refl h.settled)).mono ?_
  rintro l ⟨r, phy'⟩ c' ⟨hprog, haddr⟩
  refine ⟨haddr, ?_⟩
  unfold PhyCall.plan at hprog
  cases hupd : call.update with
  | none =>
    rw [hupd] at hprog
    have hmode : commandedMode (call, r) = none := by
      simp [commandedMode, call.mode_of_update hcall hupd]
    obtain ⟨g, hg, hc'⟩ := hprog.somewhere
    obtain rfl := List.mem_singleton.mp hg
    rw [hmode]
    exact .of_holds hc' h.selected
  | some g =>
    rw [hupd] at hprog
    by_cases hok : r.isOk = true
    · have hc' := hprog.reached hok
      have hmode : commandedMode (call, r) = call.mode := if_pos hok
      rw [hmode]
      refine .of_holds hc' ?_
      rw [List.getLastD_cons, List.getLastD_nil, Function.update_self]
      exact call.update_selected hupd h.selected
    · have hmode : commandedMode (call, r) = none := if_neg hok
      obtain ⟨f, hf, hc'⟩ := hprog.stopped (List.cons_ne_nil _ _) hok
      obtain rfl := List.mem_singleton.mp hf
      rw [hmode]
      exact .of_holds hc' h.selected

/-- **A successful `init`** commands auto-negotiation. -/
theorem modeSet_init (phy : PhyLan87xx) (c : Registers) :
    ((PhyCall.driver .init).op phy : Program Txn.Reply ε _).Ensures
      (Lan87xx.device ∅ phy.addr) c fun _ r c' => r.2.addr = phy.addr ∧
        (r.1.isOk = true → ModeSet .auto c') := by
  refine (Program.ensures_map _ _ c).mpr ((PhyLan87xx.init_leaves ∅ phy c).mono ?_)
  rintro l ⟨r, phy'⟩ c' ⟨haddr, hleaves⟩
  refine ⟨haddr, fun hok => ?_⟩
  have hr : r = .ok () := by
    cases r with
    | ok u => rfl
    | error e => cases hok
  obtain ⟨l₁, c₁, l₂, -, -, mcsrVal, bmcrVal, -, -, -, -, hc'⟩ := hleaves hr
  refine .of_holds hc' ?_
  rw [Function.update_self]
  exact LinkMode.selected_anRestarted bmcrVal

/-! ## What poll_link reports -/

/-- The PSCSR code (bits [4:2]) of a speed and duplex. -/
def pscsrCode : Speed → Duplex → BitVec 3
  | ._10M, .half => 0b001
  | ._10M, .full => 0b101
  | ._100M, .half => 0b010
  | ._100M, .full => 0b110

/-- A PSCSR value indicates a speed and duplex: negotiation is done, and this is the
code. -/
def Indicates (v : U16) (speed : Speed) (duplex : Duplex) : Prop :=
  v &&& pscsr.autodone ≠ 0 ∧ v.extractLsb' 2 3 = pscsrCode speed duplex

/-- The code in its place. -/
theorem and_speedDuplexMask (v : U16) :
    v &&& pscsr.speedDuplexMask = (v.extractLsb' 2 3).setWidth 16 <<< 2 := by
  ext i hi
  interval_cases i <;> simp [pscsr.speedDuplexMask]

/-- The driver decodes the four codes, and no other. -/
theorem parsePscsr_eq_some (v : U16) (speed : Speed) (duplex : Duplex) :
    PhyLan87xx.parsePscsr v = some (speed, duplex) ↔
      v.extractLsb' 2 3 = pscsrCode speed duplex := by
  unfold PhyLan87xx.parsePscsr
  rw [and_speedDuplexMask]
  generalize v.extractLsb' 2 3 = code
  revert code
  cases speed <;> cases duplex <;> decide

/-- **The report a mode calls for**: what the transactions of `pollLink` are, and what it
reports for the values they have read. -/
def LinkMode.Reports {σ : Type} (mode : LinkMode) (addr : U8)
    (l : List (Exchange Txn.Reply ε σ)) (link : LinkState) : Prop :=
  ∃ bmsrVal, ReadIn l addr regs.bmsr bmsrVal ∧
    (bmsrVal &&& bmsr.linkStatus = 0 →
      link = .down ∧ l.map Exchange.req = [.read addr regs.bmsr]) ∧
    (bmsrVal &&& bmsr.linkStatus ≠ 0 → match mode with
      | forced speed duplex =>
        link = .upAt speed duplex ∧
          l.map Exchange.req = [.read addr regs.bmsr, .read addr regs.bmcr]
      | auto =>
        ∃ pscsrVal, ReadIn l addr pscsr.addr pscsrVal ∧
          l.map Exchange.req =
            [.read addr regs.bmsr, .read addr regs.bmcr, .read addr pscsr.addr] ∧
          (∀ speed duplex, link = .upAt speed duplex ↔ Indicates pscsrVal speed duplex) ∧
          ((¬∃ speed duplex, Indicates pscsrVal speed duplex) → link = .down))

section Report

variable {mode : LinkMode} {addr : U8}

/-- A link reported up is not reported down. -/
theorem down_ne_upAt (speed : Speed) (duplex : Duplex) : LinkState.down ≠ .upAt speed duplex := by
  intro h
  cases congrArg LinkState.up h

theorem upAt_inj {speed speed' : Speed} {duplex duplex' : Duplex} :
    LinkState.upAt speed duplex = .upAt speed' duplex' ↔ (speed, duplex) = (speed', duplex') := by
  unfold LinkState.upAt
  simp

/-- The link the driver reports for a PSCSR value. -/
def linkOfPscsr (v : U16) : LinkState :=
  if v &&& pscsr.autodone = 0 then .down
  else match PhyLan87xx.parsePscsr v with
    | some (speed, duplex) => .upAt speed duplex
    | none => .down

/-- It is up at what the value indicates. -/
theorem linkOfPscsr_eq_upAt (v : U16) (speed : Speed) (duplex : Duplex) :
    linkOfPscsr v = .upAt speed duplex ↔ Indicates v speed duplex := by
  unfold linkOfPscsr Indicates
  by_cases hdone : v &&& pscsr.autodone = 0
  · rw [if_pos hdone]
    exact iff_of_false (down_ne_upAt speed duplex) (fun h => h.1 hdone)
  · rw [if_neg hdone, ← parsePscsr_eq_some]
    cases PhyLan87xx.parsePscsr v with
    | none => exact iff_of_false (down_ne_upAt speed duplex) (fun h => nomatch h.2)
    | some sd =>
      exact upAt_inj.trans ⟨fun h => ⟨hdone, congrArg some h⟩, fun h => Option.some.inj h.2⟩

/-- It is down if the value indicates nothing. -/
theorem linkOfPscsr_eq_down {v : U16} (h : ¬∃ speed duplex, Indicates v speed duplex) :
    linkOfPscsr v = .down := by
  unfold linkOfPscsr
  by_cases hdone : v &&& pscsr.autodone = 0
  · exact if_pos hdone
  · rw [if_neg hdone]
    cases hparse : PhyLan87xx.parsePscsr v with
    | none => rfl
    | some sd => exact absurd ⟨sd.1, sd.2, hdone, (parsePscsr_eq_some v _ _).mp hparse⟩ h

/-- The link check is one read of BMSR. -/
theorem isLinkUp_reliable {f c : Registers} (hc : f.Holds ∅ c) :
    (isLinkUp addr : Mdio ε Bool).run.Ensures (Lan87xx.device ∅ addr).reliable c fun l r c' =>
      ∃ up, r = .ok up ∧ ∃ v, up = (v &&& bmsr.linkStatus != 0) ∧
        l = [⟨c, .read addr regs.bmsr, .ok v, c'⟩] ∧ f.Holds ∅ c' := by
  refine Fallible.reliable_bind (Lan87xx.mdioRead_reliable addr regs.bmsr hc) ?_
  rintro l v c' ⟨rfl, hc', -⟩
  exact ⟨_, rfl, v, rfl, rfl, hc'⟩

/-- **`pollLink` reports what the mode calls for** when nothing fails. -/
theorem pollLink_reports_mode (phy : PhyLan87xx) {c : Registers} (h : ModeSet mode c) :
    ((PhyLan87xx.pollLink : DriverM ε PhyLan87xx (PhyError ε) LinkState).on phy).Ensures
      (Lan87xx.device ∅ phy.addr).reliable c fun l r _ =>
        ∃ link, r.1 = .ok link ∧ mode.Reports phy.addr l link := by
  refine Method.reliable_lift_bind (isLinkUp_reliable (.refl h.settled)) ?_
  rintro l₁ up c₁ ⟨bmsrVal, rfl, rfl, hc₁⟩
  by_cases hup : bmsrVal &&& bmsr.linkStatus = 0
  · rw [if_pos (by rw [hup]; decide)]
    exact ⟨.down, rfl, bmsrVal, ⟨_, _, List.mem_cons_self⟩, fun _ => ⟨rfl, rfl⟩,
      fun hno => absurd hup hno⟩
  rw [if_neg (not_not.mpr (bne_iff_ne.mpr hup))]
  refine Method.reliable_lift_bind (Lan87xx.mdioRead_reliable phy.addr regs.bmcr hc₁) ?_
  rintro l₂ bmcrVal c₂ ⟨rfl, hc₂, hbmcr⟩
  have hsel : mode.Selected bmcrVal := h.selected.of_agreeOff (hbmcr.bmcr rfl).1
  cases mode with
  | forced speed duplex =>
    obtain ⟨hen, hdecode⟩ := hsel
    rw [if_neg (not_not.mpr hen), hdecode]
    exact ⟨_, rfl, bmsrVal, ⟨_, _, List.mem_cons_self⟩, fun hno => absurd hno hup,
      fun _ => ⟨rfl, rfl⟩⟩
  | auto =>
    have hen : bmcrVal &&& bmcr.anEnable ≠ 0 := hsel
    rw [if_pos hen]
    refine Method.reliable_lift_bind (Lan87xx.mdioRead_reliable phy.addr pscsr.addr hc₂) ?_
    rintro l₃ v c₃ ⟨rfl, -, -⟩
    have hreports : LinkMode.auto.Reports phy.addr
        ([(⟨c, .read phy.addr regs.bmsr, .ok bmsrVal, c₁⟩ : Exchange Txn.Reply ε Registers),
          ⟨c₁, .read phy.addr regs.bmcr, .ok bmcrVal, c₂⟩,
          ⟨c₂, .read phy.addr pscsr.addr, .ok v, c₃⟩]) (linkOfPscsr v) := by
      refine ⟨bmsrVal, ⟨_, _, List.mem_cons_self⟩, ?_, ?_⟩
      · intro hno
        exact absurd hno hup
      · intro _
        exact ⟨v, ⟨c₂, c₃, by simp⟩, rfl, linkOfPscsr_eq_upAt v, linkOfPscsr_eq_down⟩
    unfold linkOfPscsr at hreports
    by_cases hdone : v &&& pscsr.autodone = 0
    · rw [if_pos hdone] at hreports ⊢
      exact ⟨_, rfl, hreports⟩
    · rw [if_neg hdone] at hreports ⊢
      cases hparse : PhyLan87xx.parsePscsr v with
      | none =>
        rw [hparse] at hreports
        exact ⟨_, rfl, hreports⟩
      | some sd =>
        rw [hparse] at hreports
        exact ⟨_, rfl, hreports⟩

end Report

/-- The entry is not a failed `init`. -/
def InitOk (e : PhyCall × Response ε) : Prop := e.1 = .driver .init → e.2.isOk = true

/-- BMCR selects the mode commanded last, unless an `init` has failed. -/
def FollowsLog (addr : U8) (log : List (PhyCall × Response ε)) (phy : PhyLan87xx)
    (c : Registers) : Prop :=
  (∀ e ∈ log, InitOk e) →
    phy.addr = addr ∧ ModeSet ((latest commandedMode log).getD .auto) c

theorem followsLog_step {addr : U8} (log : List (PhyCall × Response ε)) (call : PhyCall)
    (phy : PhyLan87xx) (c : Registers) (hcall : ∀ n, call ≠ .helper (.softReset n))
    (h : FollowsLog addr log phy c) :
    (call.op phy : Program Txn.Reply ε _).Ensures (Lan87xx.device ∅ addr) c fun _ r c' =>
      FollowsLog addr (log ++ [(call, r.1)]) r.2 c' := by
  by_cases hlog : ∀ e ∈ log, InitOk e
  · obtain ⟨rfl, hmode⟩ := h hlog
    by_cases hinit : call = .driver .init
    · subst hinit
      refine (modeSet_init phy c).mono ?_
      rintro l ⟨r, phy'⟩ c' ⟨haddr, hauto⟩ hlog'
      have hok : r.isOk = true := hlog' (.driver .init, r) (by simp) rfl
      have hcmd : commandedMode (.driver .init, r) = some .auto := if_pos hok
      rw [latest_concat, hcmd]
      exact ⟨haddr, hauto hok⟩
    · have hresets : ¬call.Resets := by
        cases call with
        | driver call => cases call <;> first | exact absurd rfl hinit | exact id
        | helper call => cases call <;> first | exact absurd rfl (hcall _) | exact id
      refine (modeSet_step hresets hmode).mono ?_
      rintro l ⟨r, phy'⟩ c' ⟨haddr, hstep⟩ -
      refine ⟨haddr, ?_⟩
      rw [latest_concat]
      cases hcmd : commandedMode (call, r) with
      | none =>
        rw [hcmd] at hstep
        exact hstep
      | some mode =>
        rw [hcmd] at hstep
        exact hstep
  · refine Program.ensures_of_forall _ _ fun l r c' hlog' => ?_
    exact absurd (fun e he => hlog' e (List.mem_append_left _ he)) hlog

/-- **The link report follows the last mode command**, wherever the bus faults: after a
successful `init` and any calls, the next fault-free `pollLink` reports what the mode
commanded last calls for. -/
theorem report_follows_mode {σ : Type} (bus : MdioBus ε σ) (view : σ → Registers)
    (phy₀ : PhyLan87xx) (hbus : bus.handler.Conforms (Lan87xx.device ∅ phy₀.addr) view) (s₀ : σ)
    (hinit : (((PhyCall.driver .init).op phy₀).run bus.handler s₀).value.1.isOk = true)
    (calls : List PhyCall) (hcalls : ∀ call ∈ calls, ∀ n, call ≠ .helper (.softReset n)) :
    let start := ((PhyCall.driver .init).op phy₀).run bus.handler s₀
    let session := (serve bus.handler PhyCall.op).play calls (start.value.2, start.state)
    let o := (((PhyCall.driver .pollLink).op session.2.1).run bus.handler session.2.2).map view
    (∀ e ∈ session.1, InitOk e) → o.FaultFree →
      ∃ link, o.value.1 = .phy (.ok (.link link)) ∧
        ((latest commandedMode session.1).getD .auto).Reports phy₀.addr o.trace link := by
  intro start session o hlog hff
  have hstart : start.value.2.addr = phy₀.addr ∧ (start.value.1.isOk = true →
      ModeSet .auto (view start.state)) := (modeSet_init phy₀ (view s₀)).run hbus
  obtain ⟨haddr, hmode⟩ := (serve_invariant hbus followsLog_step hcalls
    (fun _ => ⟨hstart.1, hstart.2 hinit⟩) : FollowsLog phy₀.addr session.1 session.2.1
      (view session.2.2)) hlog
  have hpoll : ((PhyCall.driver .pollLink).op session.2.1 : Program Txn.Reply ε _).Ensures
      (Lan87xx.device ∅ session.2.1.addr).reliable (view session.2.2) fun l r _ =>
        ∃ link, r.1 = .phy (.ok (.link link)) ∧
          ((latest commandedMode session.1).getD .auto).Reports session.2.1.addr l link := by
    refine (Program.ensures_map _ _ _).mpr
      ((pollLink_reports_mode session.2.1 hmode).mono ?_)
    rintro l ⟨r, phy'⟩ c' ⟨link, hr, hreport⟩
    obtain rfl : r = .ok link := hr
    exact ⟨link, rfl, hreport⟩
  have hrun := hpoll.run_faultFree (haddr ▸ hbus) ((Outcome.map_faultFree view _).mp hff)
  rw [haddr] at hrun
  exact hrun

/-- The link forced to 10M full, loopback turned off, and a return to auto-negotiation
that is lost. -/
def forcedSession : List (PhyCall × Response String) ×
    PhyLan87xx × Registers × List (Option String) :=
  (serve (SimulatedLan87xx.lossyBus String 1).handler PhyCall.op).play
    [.helper (.forceLink ._10M .full), .driver (.setLoopback false),
      .helper .enableAutoNegotiation] (afterInit87xx.value.2, afterInit87xx.state)

/-- It is reported as it was forced. -/
theorem report_follows_mode_forced :
    let o := (((PhyCall.driver .pollLink).op forcedSession.2.1).run
      (SimulatedLan87xx.lossyBus String 1).handler forcedSession.2.2).map Prod.fst
    ∃ link, o.value.1 = .phy (.ok (.link link)) ∧
      (LinkMode.forced ._10M .full).Reports 1 o.trace link := by
  have hlog : ∀ e ∈ forcedSession.1, InitOk e := by
    intro e he hinit
    have hmem : e.1 ∈ forcedSession.1.map Prod.fst := List.mem_map_of_mem he
    rw [forcedSession, Machine.play_calls, hinit] at hmem
    exact absurd hmem (by decide)
  have hff := (Lan87xxCall.pollLink.op_failStop forcedSession.2.1).faultFree_of_none
    (SimulatedLan87xx.lossyBus String 1).handler forcedSession.2.2 rfl
  exact report_follows_mode (SimulatedLan87xx.lossyBus String 1) Prod.fst (PhyLan87xx.new 1)
    (SimulatedLan87xx.lossyBus_conforms ∅ 1) _ rfl _ (by simp) hlog
    ((Outcome.map_faultFree _ _).mpr hff)

end EthPhy
