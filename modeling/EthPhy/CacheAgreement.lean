import EthPhy.Lan867xPlan
import EthPhy.Session

/-!
# The driver's cache and the chip

`pollLink` of the LAN867x driver never asks the chip whether multidrop mode or PLCA
is on; it trusts `chip` and `plcaId`.  On a bus whose failed transactions have no
effect the trust is justified: over every session, `chip` tells whether the last
`init` succeeded, and while it is set both fields agree with the chip
(`CacheAgrees`).  The plans do the work: an operation that fails has stopped short
of the one register its cached field stands for.
-/

namespace EthPhy
open Interaction Lan867x

variable {ε : Type}

/-! ## What poll_link reports -/

/-- The link state the LAN867x driver reports for a `PLCA_STS` value. -/
def linkOfSts (sts : U16) : LinkState :=
  if sts &&& plcaStsPst ≠ 0 then .upAt ._10M .half else .down

/-- **What the driver may report**: down unless it is `ready`; up if PLCA is off;
with PLCA on, what the `PLCA_STS` value it has read says. -/
structure LinkReport (status : Set MmdAddr) (ready plcaOn : Prop) (addr : U8) (c : Silicon)
    (l : List (Exchange Txn.Reply ε Silicon)) (c' : Silicon) (link : LinkState) : Prop where
  notReady : ¬ready → link = .down
  plcaOff : ready → ¬plcaOn → link = .upAt ._10M .half
  plcaOn : ready → plcaOn → ∃ sts, c.Fetched status addr plcaSts l sts c' ∧
    link = linkOfSts sts

theorem LinkReport.congr {status : Set MmdAddr} {ready ready' plcaOn plcaOn' : Prop} {addr : U8}
    {c c' : Silicon} {l : List (Exchange Txn.Reply ε Silicon)} {link : LinkState}
    (h : LinkReport status ready plcaOn addr c l c' link) (hready : ready' ↔ ready)
    (hplca : ready → (plcaOn' ↔ plcaOn)) : LinkReport status ready' plcaOn' addr c l c' link where
  notReady hr := h.notReady fun h' => hr (hready.mpr h')
  plcaOff hr hp := h.plcaOff (hready.mp hr) fun h' => hp ((hplca (hready.mp hr)).mpr h')
  plcaOn hr hp := h.plcaOn (hready.mp hr) ((hplca (hready.mp hr)).mp hp)

/-- The driver goes by its two cached fields. -/
theorem PhyLan867x.pollLink_reports {ambiguous : Prop} (d : Datasheet) (self : PhyLan867x)
    (c : Silicon) :
    ((pollLink : DriverM ε PhyLan867x (PhyError ε) LinkState).on self).Ensures
      (device ambiguous (lan867x d) self.addr) c fun l r c' =>
        ∀ link, r.1 = .ok link → LinkReport d.status (self.chip.isSome = true)
          (self.plcaId.isSome = true) self.addr c l c' link := by
  obtain ⟨addr, chip, plcaId⟩ := self
  cases chip with
  | none =>
    intro link hlink
    obtain rfl := Except.ok.inj hlink
    exact ⟨fun _ => rfl, nofun, nofun⟩
  | some k =>
    cases plcaId with
    | none =>
      intro link hlink
      obtain rfl := Except.ok.inj hlink
      exact ⟨fun h => absurd rfl h, fun _ _ => rfl, fun _ => nofun⟩
    | some i =>
      refine Method.ensures_lift_bind (mmdRead_ensures addr mmdVs2 mmdRegPlcaSts c) ?_ ?_
      · rintro l sts c' ⟨-, hfetch⟩
        have hfetch := hfetch sts rfl
        rw [← List.append_nil l] at hfetch
        split
        · intro link hlink
          obtain rfl := Except.ok.inj hlink
          exact ⟨fun h => absurd rfl h, fun _ h => absurd rfl h,
            fun _ _ => ⟨sts, hfetch, (if_pos ‹_›).symm⟩⟩
        · intro link hlink
          obtain rfl := Except.ok.inj hlink
          exact ⟨fun h => absurd rfl h, fun _ h => absurd rfl h,
            fun _ _ => ⟨sts, hfetch, (if_neg ‹_›).symm⟩⟩
      · rintro l e c' - link hlink
        cases hlink

/-! ## The cache agrees -/

/-- Whether an entry of the log is a call of `init`, and then whether it
succeeded. -/
def initOk : Lan867xCall × Response ε → Option Bool
  | (.init, r) => some r.isOk
  | _ => none

/-- **The cache agrees with the chip**, whose registers are `f`. -/
structure CacheAgrees (log : List (Lan867xCall × Response ε)) (phy : PhyLan867x)
    (f : RegFile) : Prop where
  chip : phy.chip.isSome = true ↔ latest initOk log = some true
  multidrop : phy.chip.isSome = true → f.MultidropOn
  plca : phy.chip.isSome = true → (phy.plcaId.isSome = true ↔ f.PlcaOn)

/-- An entry for a call other than `init` says nothing about `init`. -/
theorem latest_initOk_of_ne {call : Lan867xCall} (hcall : call ≠ .init) (r : Response ε)
    (log : List (Lan867xCall × Response ε)) :
    latest initOk (log ++ [(call, r)]) = latest initOk log := by
  rw [latest_concat]
  cases call with
  | init => exact absurd rfl hcall
  | _ => rfl

/-- What a call other than `init` leaves alone: `T1SPMACTL` always, `PLCA_CTRL0`
unless it has gone through with its plan. -/
theorem frame_of_progress {call : Lan867xCall} {d : Datasheet} {f : RegFile} {ok : Prop}
    {l : List (Exchange Txn.Reply ε Silicon)} {c' : Silicon}
    (h : Progress (Silicon.Holds d.status) (¬False ∧ call.plan d f ≠ []) f (call.plan d f) ok
      l c') (hcall : call ≠ .init) :
    c'.mmd t1spmactl = f t1spmactl ∧
      (call.plan d f = [] ∨ ¬ok → c'.mmd plcaCtrl0 = f plcaCtrl0) := by
  constructor
  · exact call.t1spmactl_kept hcall h
  · intro hno
    have hstopped : ∃ g ∈ f :: (call.plan d f).dropLast, c'.Holds d.status g := by
      by_cases hplan : call.plan d f = []
      · obtain ⟨g, hg, hc'⟩ := h.somewhere
        rw [hplan] at hg ⊢
        exact ⟨g, hg, hc'⟩
      · exact h.stopped ⟨id, hplan⟩ (hno.resolve_left hplan)
    obtain ⟨g, hg, hc'⟩ := hstopped
    rw [hc' _ d.plcaCtrl0_not_status]
    exact call.plan_plcaCtrl0 hcall hg

/-- `init` sets the cache afresh. -/
theorem CacheAgrees.of_init {log : List (Lan867xCall × Response ε)} {r : Response ε}
    {self' : PhyLan867x} {f' : RegFile} (hchip : self'.chip.isSome = r.isOk)
    (hid : self'.plcaId = none) (hon : r.isOk = true → f'.MultidropOn ∧ ¬f'.PlcaOn) :
    CacheAgrees (log ++ [(.init, r)]) self' f' := by
  refine ⟨?_, fun hsome => ?_, fun hsome => ?_⟩
  · rw [latest_concat, hchip]
    simp [initOk]
  · exact (hon (hchip.symm.trans hsome)).1
  · simp [hid, (hon (hchip.symm.trans hsome)).2]

/-- Any other call leaves `chip` and multidrop mode as they are. -/
theorem CacheAgrees.of_other {log : List (Lan867xCall × Response ε)} {self self' : PhyLan867x}
    {f f' : RegFile} (h : CacheAgrees log self f) {call : Lan867xCall} {r : Response ε}
    (hchip : self'.chip = self.chip) (ht1 : f' t1spmactl = f t1spmactl)
    (hplca : self'.plcaId = self.plcaId ∧ f' plcaCtrl0 = f plcaCtrl0 ∨
      (self'.plcaId.isSome = true ↔ f'.PlcaOn)) (hcall : call ≠ .init) :
    CacheAgrees (log ++ [(call, r)]) self' f' := by
  refine ⟨?_, fun hsome => ?_, fun hsome => ?_⟩
  · rw [latest_initOk_of_ne hcall, hchip]
    exact h.chip
  · unfold RegFile.MultidropOn
    rw [ht1]
    exact h.multidrop (hchip ▸ hsome)
  · rcases hplca with ⟨hid, hctrl0⟩ | hplca
    · unfold RegFile.PlcaOn
      rw [hid, hctrl0]
      exact h.plca (hchip ▸ hsome)
    · exact hplca

/-- **Every call keeps the cache in agreement.** -/
theorem cacheAgrees_step (d : Datasheet) (self : PhyLan867x)
    (log : List (Lan867xCall × Response ε)) (c : Silicon) (call : Lan867xCall)
    (h : CacheAgrees log self c.mmd) :
    (call.op self).Ensures (device False (lan867x d) self.addr) c fun _ r c' =>
      r.2.addr = self.addr ∧ CacheAgrees (log ++ [(call, r.1)]) r.2 c'.mmd := by
  refine (call.follows d self (f := c.mmd) (fun _ _ => rfl)).mono ?_
  rintro l ⟨r, self'⟩ c' ⟨hprog, hupd⟩
  have hreach : r.isOk = true → c'.Holds d.status ((call.plan d c.mmd).getLastD c.mmd) :=
    hprog.reached
  cases call with
  | init =>
    obtain ⟨haddr, hid, hchip⟩ := hupd
    refine ⟨haddr, .of_init hchip hid fun hok => ?_⟩
    rw [(hreach hok).multidropOn, (hreach hok).plcaOn]
    exact Lan867xCall.initialised d
  | configurePlca config =>
    obtain ⟨ht1, hctrl0⟩ := frame_of_progress hprog nofun
    by_cases hok : r.isOk = true
    · have hvalid := hupd.valid hok
      have hupd : self' = { self with plcaId := some config.nodeId } :=
        hupd.2.2.trans (if_pos hok)
      rw [Lan867xCall.plan_configurePlca hvalid] at hreach
      subst hupd
      refine ⟨rfl, h.of_other rfl ht1 (.inr ?_) nofun⟩
      rw [(hreach hok).plcaOn]
      exact iff_of_true rfl Lan867xCall.configuredBy_plcaOn
    · have hupd : self' = self := hupd.2.2.trans (if_neg hok)
      subst hupd
      exact ⟨rfl, h.of_other rfl ht1 (.inl ⟨rfl, hctrl0 (.inr hok)⟩) nofun⟩
  | disablePlca =>
    obtain ⟨ht1, hctrl0⟩ := frame_of_progress hprog nofun
    by_cases hok : r.isOk = true
    · have hupd : self' = { self with plcaId := none } := hupd.trans (if_pos hok)
      subst hupd
      refine ⟨rfl, h.of_other rfl ht1 (.inr ?_) nofun⟩
      rw [(hreach hok).plcaOn]
      exact iff_of_false nofun Lan867xCall.disabled_plcaOff
    · have hupd : self' = self := hupd.trans (if_neg hok)
      subst hupd
      exact ⟨rfl, h.of_other rfl ht1 (.inl ⟨rfl, hctrl0 (.inr hok)⟩) nofun⟩
  | _ =>
    obtain ⟨ht1, hctrl0⟩ := frame_of_progress hprog nofun
    obtain rfl : self' = self := hupd
    exact ⟨rfl, h.of_other rfl ht1 (.inl ⟨rfl, hctrl0 (.inl rfl)⟩) nofun⟩

/-- The same of a call of `pollLink`. -/
theorem pollLink_op_reports {ambiguous : Prop} (d : Datasheet) (phy : PhyLan867x)
    (c : Silicon) :
    (Lan867xCall.pollLink.op phy : Program Txn.Reply ε _).Ensures
      (device ambiguous (lan867x d) phy.addr) c fun l r c' =>
        ∀ link, r.1 = .phy (.ok (.link link)) →
          LinkReport d.status (phy.chip.isSome = true) (phy.plcaId.isSome = true) phy.addr c l c'
            link := by
  refine (Program.ensures_map _ _ c).mpr ((PhyLan867x.pollLink_reports d phy c).mono ?_)
  rintro l ⟨r, phy'⟩ c' h link hlink
  cases r with
  | error e => cases hlink
  | ok link' =>
    cases hlink
    exact h _ rfl

/-- **The driver's cache agrees with the chip over every session**, wherever the bus
faults, and so `pollLink` reports what the chip's own registers would have it
report. -/
theorem cache_agrees {σ : Type} (d : Datasheet) (bus : MdioBus ε σ) (view : σ → Silicon)
    (addr : U8) (hbus : bus.handler.Conforms (device False (lan867x d) addr) view) (s : σ)
    (calls : List Lan867xCall) :
    let session := (serve bus.handler Lan867xCall.op).play calls (PhyLan867x.new addr, s)
    let log := session.1
    let phy := session.2.1
    let c := view session.2.2
    CacheAgrees log phy c.mmd ∧
    let o := ((Lan867xCall.pollLink.op phy).run bus.handler session.2.2).map view
    ∀ link, o.value.1 = .phy (.ok (.link link)) →
      LinkReport d.status (latest initOk log = some true) (RegFile.PlcaOn c.mmd) addr c o.trace
        o.state link := by
  intro session log phy c
  have hstart : CacheAgrees ([] : List (Lan867xCall × Response ε)) (PhyLan867x.new addr)
      (view s).mmd := ⟨by simp [PhyLan867x.new], nofun, nofun⟩
  obtain ⟨haddr, hagree⟩ : phy.addr = addr ∧ CacheAgrees log phy c.mmd :=
    serve_invariant_keyed PhyLan867x.addr (device False (lan867x d))
      (P := fun log phy c => CacheAgrees log phy c.mmd) hbus
      (fun log call phy c (_ : True) h => cacheAgrees_step d phy log c call h)
      (fun _ _ => trivial) rfl hstart
  refine ⟨hagree, ?_⟩
  intro o link hlink
  have hreport := (pollLink_op_reports d phy c).run (haddr ▸ hbus) link hlink
  rw [haddr] at hreport
  exact hreport.congr hagree.chip.symm fun hready => (hagree.plca hready).symm

/-- A session on a LAN8670 whose bus loses the third transaction. -/
theorem cache_agrees_lan8670 :
    let bus : MdioBus String (SimState String) := SimulatedChip.lan8670.bus 3 false
    let session := (serve bus.handler Lan867xCall.op).play
      [.init, .init, .configurePlca ⟨1, 4, 0, 0⟩]
      (PhyLan867x.new 3, ⟨staleChip, [.delivered, .delivered, .lost "timeout"]⟩)
    CacheAgrees session.1 session.2.1 session.2.2.chip.mmd :=
  (cache_agrees SimulatedChip.datasheet _ _ 3 (SimulatedChip.lan8670.conforms 3 false nofun) _ _).1

end EthPhy
