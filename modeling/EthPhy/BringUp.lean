import EthPhy.Clients
import EthPhy.InitRecovery
import EthPhy.PlcaRecovery

/-!
# Bringing a node up on a bus that may fail

A PLCA node is brought up by `init` and then `configurePlca`.  The documented way out
of a failure of either is to call it again.  `bringUp` does so, up to `n` times for
each, and that is enough whenever fewer than `n` transactions fail: wherever they do,
and whether or not the failed ones took effect, the node ends up as after a bring-up
without faults (`bringUp_outlasts_faults`).
-/

namespace EthPhy
open Interaction Lan867x

variable {ε : Type}

/-- A response that reports a bus error is not a success. -/
theorem Response.isOk_eq_false {r : Response ε} {e : ε} (h : r.bus? = some e) :
    r.isOk = false := by
  rcases r with (_ | _) | (_ | _) | (_ | _)
  all_goals first | rfl | cases h

/-- **Bring up a PLCA node**: `init` and then `configurePlca`, each tried `n` times at
most.  It returns whether both succeeded. -/
def Lan867xCall.bringUp (config : PlcaConfig) (n : Nat) :
    Client Lan867xCall (Response ε) Bool :=
  .retryBoth .init (.configurePlca config) Response.isOk n

section Attempts

variable {p : Part} {addr : U8} {phy : PhyLan867x} {s : Booting}

/-- What is ensured of the chip alone, when transactions may fail. -/
theorem ensures_silicon {x : Program Txn.Reply ε (Response ε × PhyLan867x)}
    {Q : Response ε × PhyLan867x → Silicon → Prop}
    (h : x.Ensures (device True (lan867x p.datasheet) addr) s.chip fun _ r c' => Q r c') :
    x.Ensures (p.device addr) s fun _ r s' => Q r s'.chip :=
  h.pull fun _ _ _ _ hr => hr.1

/-- A call either has no fault, or has one and fails. -/
theorem Response.faults_of_failStop {S σ : Type} {x : Program Txn.Reply ε (Response ε × S)}
    (hx : x.FailStop fun r => r.1.bus?) (D : Device Txn.Reply ε σ) (t : σ) :
    x.Ensures D t fun l r _ =>
      (faults l = [] ∧ r.1.bus? = none) ∨ ((faults l).length = 1 ∧ r.1.isOk = false) := by
  refine (hx.faults D t).mono fun l r t' hl => ?_
  cases hbus : r.1.bus? with
  | none => exact .inl ⟨by simpa [hbus] using hl, rfl⟩
  | some e =>
    refine .inr ⟨?_, Response.isOk_eq_false hbus⟩
    rw [hl, hbus]
    rfl

/-- One attempt at `init`. -/
theorem init_attempt (haddr : phy.addr = addr) :
    (Lan867xCall.init.op phy : Program Txn.Reply ε _).Ensures (p.device addr) s fun l r s' =>
      r.2.addr = addr ∧ (r.1.isOk = true ∧ faults l = [] ∧ Recovered p addr r.2 s' ∨
        r.1.isOk = false ∧ (faults l).length = 1) := by
  subst haddr
  have hkept : (Lan867xCall.init.op phy : Program Txn.Reply ε _).Ensures (p.device phy.addr) s
      fun _ r _ => r.2.addr = phy.addr :=
    ensures_silicon (Q := fun r _ => r.2.addr = phy.addr)
      ((Lan867xCall.init.follows p.datasheet phy (fun _ _ => rfl)).mono fun _ _ _ h => h.2.addr)
  have hfaults := Response.faults_of_failStop (Lan867xCall.init.op_failStop phy)
    (p.device phy.addr : Device _ ε _) s
  refine (hkept.and (hfaults.and (Program.ensures_of_reliable (init_op_boots p phy s)))).mono ?_
  rintro l ⟨r, phy'⟩ s' ⟨haddr, ⟨hnone, -⟩ | ⟨hone, hfailed⟩, hboots⟩
  · obtain ⟨rfl, hrec⟩ := hboots hnone
    exact ⟨haddr, .inl ⟨rfl, hnone, hrec⟩⟩
  · exact ⟨haddr, .inr ⟨hfailed, hone⟩⟩

/-- A recovered chip is one since `init`. -/
theorem Recovered.sinceInit (h : Recovered p addr phy s) :
    SinceInit p.datasheet (some p.package) phy s.chip.mmd where
  chip_eq := by rw [h.driver]
  t1spmactl_eq := by
    rw [h.registers _ p.datasheet.t1spmactl_not_status, RegFile.rmw_self, Bits.and_not_zero]
  plcaCtrl0_eq := by
    rw [h.registers _ p.datasheet.plcaCtrl0_not_status, RegFile.rmw_of_ne _ (by decide)]

/-- **The configuration is in force.** -/
structure InForce (p : Part) (addr : U8) (config : PlcaConfig) (phy : PhyLan867x)
    (s : Booting) : Prop where
  driver : phy = ⟨addr, some p.package, some config.nodeId⟩
  registers : RegFile.plcaRegs s.chip.mmd = configuredRegs p.datasheet config

/-- One attempt at `configurePlca`. -/
theorem configurePlca_attempt {config : PlcaConfig} (hvalid : config.Valid)
    (h : phy.addr = addr ∧ SinceInit p.datasheet (some p.package) phy s.chip.mmd) :
    ((Lan867xCall.configurePlca config).op phy : Program Txn.Reply ε _).Ensures (p.device addr) s
      fun l r s' =>
        (r.2.addr = addr ∧ SinceInit p.datasheet (some p.package) r.2 s'.chip.mmd) ∧
        (r.1 = .plca (.ok .unit) ∧ faults l = [] ∧ InForce p addr config r.2 s' ∨
          r.1.isOk = false ∧ (faults l).length = 1) := by
  obtain ⟨rfl, hsince⟩ := h
  have hkept : ((Lan867xCall.configurePlca config).op phy : Program Txn.Reply ε _).Ensures
      (p.device phy.addr) s fun _ r s' =>
        r.2.addr = phy.addr ∧ SinceInit p.datasheet (some p.package) r.2 s'.chip.mmd :=
    ensures_silicon (Q := fun r c => r.2.addr = phy.addr ∧
      SinceInit p.datasheet (some p.package) r.2 c.mmd) (sinceInit_step hsince _ nofun)
  have hstep : ((Lan867xCall.configurePlca config).op phy : Program Txn.Reply ε _).Ensures
      (p.device phy.addr) s fun _ r s' => (∃ e, r.1.bus? = some e) ∨
        r = (.plca (.ok .unit), ⟨phy.addr, some p.package, some config.nodeId⟩) ∧
          RegFile.plcaRegs s'.chip.mmd = configuredRegs p.datasheet config :=
    ensures_silicon (Q := fun r c => (∃ e, r.1.bus? = some e) ∨
        r = (.plca (.ok .unit), ⟨phy.addr, some p.package, some config.nodeId⟩) ∧
          RegFile.plcaRegs c.mmd = configuredRegs p.datasheet config)
      (configurePlca_step hvalid hsince)
  have hfaults := Response.faults_of_failStop ((Lan867xCall.configurePlca config).op_failStop phy)
    (p.device phy.addr : Device _ ε _) s
  refine (hkept.and (hfaults.and hstep)).mono ?_
  rintro l ⟨r, phy'⟩ s' ⟨hsince', ⟨hnone, hbus⟩ | ⟨hone, hfailed⟩, hend⟩
  · rcases hend with ⟨e, he⟩ | ⟨hr, hregs⟩
    · exact absurd (hbus.symm.trans he) nofun
    · obtain ⟨rfl, rfl⟩ := Prod.mk.inj hr
      exact ⟨hsince', .inl ⟨rfl, hnone, rfl, hregs⟩⟩
  · exact ⟨hsince', .inr ⟨hfailed, hone⟩⟩

/-- `bringUp` ends with the configuration in force, unless there have been at least `n`
faults. -/
theorem bringUp_ensures (phy : PhyLan867x) (s : Booting) {config : PlcaConfig}
    (hvalid : config.Valid) (n : Nat) :
    ((Lan867xCall.bringUp config n).calling Lan867xCall.op phy :
        Program Txn.Reply ε _).Ensures (p.device phy.addr) s fun l r s' =>
      r.1 = true ∧ InForce p phy.addr config r.2 s' ∨ r.1 = false ∧ n ≤ (faults l).length := by
  refine Client.retryBoth_ensures (I := fun o _ => o.addr = phy.addr)
    (J := fun o t => o.addr = phy.addr ∧ SinceInit p.datasheet (some p.package) o t.chip.mmd)
    (fun o t h => ?_) (fun o t h => ?_) n rfl
  · refine (init_attempt h).mono ?_
    rintro l r t' ⟨haddr, hend⟩
    exact ⟨haddr, hend.imp_left fun ⟨hok, hnone, hrec⟩ => ⟨hok, hnone, haddr, hrec.sinceInit⟩⟩
  · refine (configurePlca_attempt hvalid h).mono ?_
    rintro l r t' ⟨hsince, hend⟩
    exact ⟨hsince, hend.imp_left fun ⟨hr, hdone⟩ => ⟨by rw [hr]; rfl, hdone⟩⟩

end Attempts

/-- **A bring-up with `n` attempts outlasts fewer than `n` faults**, whatever the driver
remembered and whatever state the chip was in; and whenever it succeeds, driver and chip
are as after a bring-up without faults. -/
theorem bringUp_outlasts_faults {σ : Type} (p : Part) (bus : MdioBus ε σ) (view : σ → Booting)
    (phy : PhyLan867x) (hbus : bus.handler.Conforms (p.device phy.addr) view)
    (config : PlcaConfig) (hvalid : config.Valid) (n : Nat) (s : σ) :
    let o := ((Lan867xCall.bringUp config n).calling Lan867xCall.op phy).run bus.handler s
    ((faults o.trace).length < n → o.value.1 = true) ∧
      (o.value.1 = true → InForce p phy.addr config o.value.2 (view o.state)) := by
  intro o
  have hrun := (bringUp_ensures phy (view s) hvalid n).run hbus
  simp only [Outcome.map_trace, faults_map] at hrun
  rcases hrun with ⟨htrue, hconf⟩ | ⟨hfalse, hn⟩
  · exact ⟨fun _ => htrue, fun _ => hconf⟩
  · exact ⟨fun hlt => absurd hlt (Nat.not_lt.mpr hn), fun h => absurd (hfalse.symm.trans h) nofun⟩

/-- A bus that loses the transactions a script names. -/
def MdioBus.lossy {σ : Type} (bus : MdioBus ε σ) : MdioBus ε (σ × List (Option ε)) where
  read a r := bus.handler.lossy (.read a r)
  write a r v := bus.handler.lossy (.write a r v)

theorem MdioBus.lossy_handler {σ : Type} (bus : MdioBus ε σ) :
    bus.lossy.handler = bus.handler.lossy := by
  funext t s
  cases t <;> rfl

/-- The slowest chip, on a bus that loses a poll of the first reset and the enable bit of
the first configuration. -/
theorem bringUp_outlasts_two :
    let script := List.replicate 400 none ++ [some "timeout"] ++ List.replicate 2526 none ++
      [some "nack"]
    let o := ((Lan867xCall.bringUp ⟨1, 4, 0, 0⟩ 3).calling Lan867xCall.op (PhyLan867x.new 3)).run
      (Booting.slowBus 3).lossy.handler (⟨staleChip, 700, 2, false⟩, script)
    InForce slowPart 3 ⟨1, 4, 0, 0⟩ o.value.2 o.state.1.settled := by
  intro script
  have hscript : (script.filterMap id).length < 3 := by simp [script, -List.reduceReplicate]
  have hlost : ∀ (q : Txn) s (e : String),
      slowPart.device 3 (Booting.settled s) q (.error e) (Booting.settled s) :=
    fun q s e => ⟨.inl (Silicon.Drift.refl _), nofun⟩
  have hbus : (Booting.slowBus 3).lossy.handler.Conforms (slowPart.device 3)
      (Booting.settled ∘ Prod.fst) := by
    rw [MdioBus.lossy_handler]
    exact (slowBus_conforms 3).lossy hlost
  clear_value script
  obtain ⟨hup, hconf⟩ := bringUp_outlasts_faults slowPart (Booting.slowBus 3).lossy
    (Booting.settled ∘ Prod.fst) (PhyLan867x.new 3) hbus ⟨1, 4, 0, 0⟩ (by decide) 3
    (⟨staleChip, 700, 2, false⟩, script)
  refine hconf (hup ?_)
  rw [MdioBus.lossy_handler]
  exact (Program.run_lossy_faults (slowBus_reliable 3) _ _ script).trans_lt hscript

end EthPhy
