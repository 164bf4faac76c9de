import EthPhy.NodeKnowledge

/-!
# Several hosts, one chip

The driver relies on being the only one to write to its chip.  Here any number of hosts
share a chip: each has a driver of its own, reaches the chip over a board of its own, and
makes any call at any time.

What a host knows of the chip is gone once another host may have written to it
(`Known.afterOn`), and a complete `init` wins it back.  So there is never more than one
host that knows anything, the owner of the chip.  What the owner knows is true, and
`plcaStatus` tells every host how the chip really stands (`owner_knows`).
-/

namespace EthPhy
open Interaction Lan867x

variable {ε π σ H : Type}

/-- An entry of the log that may have changed the PLCA registers of the chip. -/
def intrudes : WithResetCall × Answer ε π → Bool
  | (.inner .init, _) | (.inner .disablePlca, _) => true
  | (.inner (.configurePlca config), _) => decide config.Valid
  | (.hardwareReset, .pin low _) => low
  | _ => false

/-- **What a host knows after an entry of the log**, made by itself or by another. -/
def Known.afterOn [DecidableEq H] (host : H) (known : Known)
    (e : (H × WithResetCall) × Answer ε π) : Known :=
  if e.1.1 = host then known.after (e.1.2, e.2)
  else if intrudes (e.1.2, e.2) then .nothing
  else known

/-- **Hosts that share a chip**: a host makes its calls with its own driver, on its own
board. -/
def WithResetCall.serveHosts [DecidableEq H] (boards : H → Board ε π σ) :
    Machine (H × WithResetCall) (Answer ε π) ((H → PhyLan867xWithReset) × σ) :=
  fun call x =>
    let y := WithResetCall.serve (boards call.1) call.2 (x.1 call.1, x.2)
    (y.1, Function.update x.1 call.1 y.2.1, y.2.2)

/-! ## The owner -/

/-- A host that knows nothing learns nothing, unless it writes to the chip. -/
theorem Known.after_nothing {e : WithResetCall × Answer ε π} (he : intrudes e = false) :
    Known.nothing.after e = .nothing := by
  obtain ⟨call, answer⟩ := e
  rcases call with (_ | _ | _ | _ | config | _ | _) | _
  all_goals rcases answer with r | ⟨low, r⟩
  all_goals first
    | rfl
    | cases he <;> rfl
    | simp [Known.after, Known.settled, Known.inDoubt]

section Owner

variable [DecidableEq H]

/-- An entry of the log leaves no more than one host that knows anything. -/
theorem owner_unique_step {known : H → Known}
    (huniq : ∀ h h', known h ≠ .nothing → known h' ≠ .nothing → h = h')
    (e : (H × WithResetCall) × Answer ε π) {h h' : H}
    (hknown : (known h).afterOn h e ≠ .nothing) (hknown' : (known h').afterOn h' e ≠ .nothing) :
    h = h' := by
  cases he : intrudes (e.1.2, e.2) with
  | true =>
    -- whoever made the call is the only one left
    have honly : ∀ g, (known g).afterOn g e ≠ .nothing → e.1.1 = g := by
      intro g hg
      by_contra hne
      rw [Known.afterOn, if_neg hne, he] at hg
      exact hg rfl
    exact (honly h hknown).symm.trans (honly h' hknown')
  | false =>
    have hbefore : ∀ g, (known g).afterOn g e ≠ .nothing → known g ≠ .nothing := by
      intro g hg hnothing
      apply hg
      rw [Known.afterOn, hnothing, Known.after_nothing he, he]
      simp
    exact huniq h h' (hbefore h hknown) (hbefore h' hknown')

/-- **There is never more than one owner.** -/
theorem owner_unique (log : List ((H × WithResetCall) × Answer ε π)) :
    ∀ h h', log.foldl (Known.afterOn h) .nothing ≠ .nothing →
      log.foldl (Known.afterOn h') .nothing ≠ .nothing → h = h' := by
  induction log using List.reverseRecOn with
  | nil => exact fun _ _ hknown => absurd rfl hknown
  | append_singleton log e ih =>
    intro h h' hknown hknown'
    simp only [List.foldl_append, List.foldl_cons, List.foldl_nil] at hknown hknown'
    exact owner_unique_step ih e hknown hknown'

end Owner

/-! ## What it knows is true -/

section Steps

variable {d : Datasheet} {board : Board ε π σ} {view : σ → Silicon} {s : σ}

/-- An operation that does not intrude has no plan. -/
theorem plan_of_quiet {call : Lan867xCall} {a : Answer ε π}
    (hquiet : intrudes (.inner call, a) = false) (f : RegFile) : call.plan d f = [] := by
  cases call with
  | init => cases hquiet
  | disablePlca => cases hquiet
  | configurePlca config =>
    exact Lan867xCall.plan_configurePlca_invalid (of_decide_eq_false hquiet)
  | _ => rfl

/-- A call that does not intrude leaves the PLCA registers alone. -/
theorem plcaRegs_serve {phy : PhyLan867xWithReset}
    (hbus : board.bus.handler.Conforms (device True (lan867x d) phy.inner.addr) view)
    (hpin : board.pin.Conforms (resetPin d) view) (call : WithResetCall) :
    let y := WithResetCall.serve board call (phy, s)
    intrudes (call, y.1) = false →
      RegFile.plcaRegs (view y.2.2).mmd = RegFile.plcaRegs (view s).mmd := by
  intro y hquiet
  cases call with
  | inner call =>
    have hplan := plan_of_quiet (d := d) hquiet (view s).mmd
    exact ((plcaRegs_kept call phy.inner hplan).run hbus).2
  | hardwareReset =>
    have hrun := (hardwareReset_ensures d (view s)).run hpin
    simp only [Outcome.map_trace, pulledLow_map] at hrun
    rcases hrun with ⟨hlow, -⟩ | ⟨-, hagree⟩
    · exact absurd (hlow.symm.trans hquiet) nofun
    · have hsame : (view y.2.2).Holds d.status (view s).mmd := hagree
      exact hsame.plcaRegs

variable [DecidableEq H] {boards : H → Board ε π σ} {addr : U8} (known : H → Known)

/-- **A call of one host keeps true what every host knows.** -/
theorem known_serveHosts
    (hbus : ∀ h, (boards h).bus.handler.Conforms (device True (lan867x d) addr) view)
    (hpin : ∀ h, (boards h).pin.Conforms (resetPin d) view) (call : H × WithResetCall)
    {phys : H → PhyLan867xWithReset} (haddr : ∀ h, (phys h).inner.addr = addr)
    (hknown : ∀ h, (known h).Describes d (phys h).inner (view s).mmd) :
    let y := WithResetCall.serveHosts boards call (phys, s)
    ∀ h, (y.2.1 h).inner.addr = addr ∧
      ((known h).afterOn h (call, y.1)).Describes d (y.2.1 h).inner (view y.2.2).mmd := by
  obtain ⟨g, call⟩ := call
  intro y h
  have hbus' := hbus g
  rw [← haddr g] at hbus'
  by_cases hgh : g = h
  · subst hgh
    obtain ⟨hself, hafter⟩ := known_serve hbus' (hpin g) call (hknown g)
    have hphy : y.2.1 g = (WithResetCall.serve (boards g) call (phys g, s)).2.1 :=
      Function.update_self g _ phys
    rw [hphy, Known.afterOn, if_pos rfl]
    exact ⟨hself.trans (haddr g), hafter⟩
  · have hphy : y.2.1 h = phys h := Function.update_of_ne (Ne.symm hgh) _ phys
    refine ⟨by rw [hphy]; exact haddr h, ?_⟩
    rw [hphy, Known.afterOn, if_neg hgh]
    cases hquiet : intrudes (call, y.1) with
    | true => trivial
    | false => exact (hknown h).congr (plcaRegs_serve hbus' (hpin g) call hquiet)

/-- A fault-free `plcaStatus` tells how the chip stands, whatever the driver remembers. -/
theorem status_of_silicon {bus : MdioBus ε σ} {phy : PhyLan867x}
    (hbus : bus.handler.Conforms (device True (lan867x d) phy.addr) view)
    (hff : ((Lan867xCall.plcaStatus.op phy).run bus.handler s).FaultFree) :
    ∃ sts, ((Lan867xCall.plcaStatus.op phy).run bus.handler s).value.1 = .plca (.ok (.status {
      enabled := (view s).mmd plcaCtrl0 &&& plcaCtrl0En != 0
      nodeId := idField ((view s).mmd plcaCtrl1)
      isCoordinator := idField ((view s).mmd plcaCtrl1) == plcaIdCoordinator
      stable := sts &&& plcaStsPst != 0 })) := by
  have hnone := ((Lan867xCall.plcaStatus.op_failStop phy).transparent
    bus.handler s).none_of_faultFree hff
  rcases (plcaStatus_reads d phy (view s)).run hbus with ⟨e, he⟩ | hread
  · exact absurd (hnone.symm.trans he) nofun
  · obtain ⟨sts, -, -, -, -, -, hstatus⟩ := hread
    exact ⟨sts, hstatus⟩

end Steps

/-- **At any time at most one host owns the chip, and what the owner knows is true**, over
every run of any number of hosts, each with a driver and a board of its own, wherever the
buses and the pins fault; and `plcaStatus` tells every host how the chip really stands. -/
theorem owner_knows [DecidableEq H] (d : Datasheet) (boards : H → Board ε π σ)
    (view : σ → Silicon) (addr : U8)
    (hbus : ∀ h, (boards h).bus.handler.Conforms (device True (lan867x d) addr) view)
    (hpin : ∀ h, (boards h).pin.Conforms (resetPin d) view) (calls : List (H × WithResetCall))
    (s : σ) :
    let session := (WithResetCall.serveHosts boards).play calls (fun _ => .new addr, s)
    let phys := fun h => (session.2.1 h).inner
    let c := view session.2.2
    let known := fun h => session.1.foldl (Known.afterOn h) .nothing
    (∀ h, (known h).Describes d (phys h) c.mmd) ∧
    (∀ h h', known h ≠ .nothing → known h' ≠ .nothing → h = h') ∧
    ∀ h, let status := (Lan867xCall.plcaStatus.op (phys h)).run (boards h).bus.handler session.2.2
      status.FaultFree → ∃ sts, status.value.1 = .plca (.ok (.status {
        enabled := c.mmd plcaCtrl0 &&& plcaCtrl0En != 0
        nodeId := idField (c.mmd plcaCtrl1)
        isCoordinator := idField (c.mmd plcaCtrl1) == plcaIdCoordinator
        stable := sts &&& plcaStsPst != 0 })) := by
  intro session phys c known
  have hstep : ∀ (log : List ((H × WithResetCall) × Answer ε π))
      (x : (H → PhyLan867xWithReset) × σ) (call : H × WithResetCall), True →
      (∀ h, (x.1 h).inner.addr = addr ∧
        (log.foldl (Known.afterOn h) .nothing).Describes d (x.1 h).inner (view x.2).mmd) →
      let y := WithResetCall.serveHosts boards call x
      ∀ h, (y.2.1 h).inner.addr = addr ∧
        ((log ++ [(call, y.1)]).foldl (Known.afterOn h) .nothing).Describes d (y.2.1 h).inner
          (view y.2.2).mmd := by
    rintro log ⟨phys, s⟩ call - hknown
    simp only [List.foldl_append, List.foldl_cons, List.foldl_nil]
    exact known_serveHosts (fun h => log.foldl (Known.afterOn h) .nothing) hbus hpin call
      (fun h => (hknown h).1) fun h => (hknown h).2
  have hrun : ∀ h, (phys h).addr = addr ∧ (known h).Describes d (phys h) c.mmd :=
    Machine.play_invariant (WithResetCall.serveHosts boards)
      (P := fun log x => ∀ h, (x.1 h).inner.addr = addr ∧
        (log.foldl (Known.afterOn h) .nothing).Describes d (x.1 h).inner (view x.2).mmd) hstep
      (fun _ _ => trivial) fun _ => ⟨rfl, trivial⟩
  refine ⟨fun h => (hrun h).2, owner_unique session.1, ?_⟩
  intro h status hff
  have hbus' := hbus h
  rw [← (hrun h).1] at hbus'
  exact status_of_silicon hbus' hff

/-- A second host takes the chip over: PLCA is off, though the first host still believes
that it runs. -/
theorem owner_knows_takeover :
    let session := (WithResetCall.serveHosts fun _ : Bool => SimulatedChip.resetBoard).play
      [(false, .inner .init), (false, .inner (.configurePlca ⟨1, 4, 0, 0⟩)), (true, .inner .init)]
      (fun _ => .new 3, ⟨staleChip, []⟩)
    (session.2.1 false).inner.plcaId = some 1 ∧ (session.2.1 true).inner.plcaId = none ∧
      ¬RegFile.PlcaOn session.2.2.chip.mmd := by
  intro session
  have hoff : session.1.foldl (Known.afterOn true) .nothing = .csmaCd := by decide +kernel
  have hstale : (session.2.1 false).inner.plcaId = some 1 := by decide +kernel
  have h := owner_knows SimulatedChip.datasheet (fun _ : Bool => SimulatedChip.resetBoard)
    SimState.chip 3 (fun _ => SimulatedChip.resetBoard_bus) (fun _ => SimulatedChip.resetBoard_pin)
    [(false, .inner .init), (false, .inner (.configurePlca ⟨1, 4, 0, 0⟩)), (true, .inner .init)]
    ⟨staleChip, []⟩
  have hknown : (session.1.foldl (Known.afterOn true) .nothing).Describes SimulatedChip.datasheet
      (session.2.1 true).inner session.2.2.chip.mmd := h.1 true
  clear h
  clear_value session
  rw [hoff] at hknown
  exact ⟨hstale, hknown.2⟩

end EthPhy
