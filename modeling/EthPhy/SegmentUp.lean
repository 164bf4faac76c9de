import EthPhy.Segment

/-!
# A PLCA segment comes up

Every node of a segment brings itself up, with an identity of its own and nothing to tell
it how far the others are.  Each retries as it has to; the transactions of all of them are
interleaved in any way.

At no moment do two nodes run under one identity.  Once every node has had its turns, and
none of them more faults than it could retry, all of them run as configured, and there is
one coordinator (`segment_comes_up`).
-/

namespace EthPhy
open Interaction Lan867x

variable {ε : Type}

/-- A chip whose PLCA registers are configured runs PLCA. -/
theorem RegFile.configured_on {d : Datasheet} {f : RegFile} {config : PlcaConfig}
    (h : f.plcaRegs = configuredRegs d config) :
    f.PlcaOn ∧ idField (f plcaCtrl1) = config.nodeId := by
  have hctrl0 : f plcaCtrl0 = d.defaults plcaCtrl0 ||| plcaCtrl0En := congrArg Prod.fst h
  have hctrl1 : f plcaCtrl1 = PhyLan867x.ctrl1Of config := congrArg (fun regs => regs.2.1) h
  constructor
  · rw [RegFile.PlcaOn, hctrl0, Bits.or_and_self]
    decide
  · rw [hctrl1, idField_ctrl1Of]

/-- **A segment comes up.**  There may be any number of nodes, on any boards, each with an
identity of its own; each runs `init` and then `configurePlca`, trying each `n` times at
most; transactions may be lost or not be confirmed, and may be interleaved in any way.

From a segment with PLCA off, at every moment no two nodes run PLCA under one identity.
When every node has been scheduled for all the transactions that its bring-up has when it
runs alone, and `n` faults are met by none, each node has finished and runs its
configuration, its driver knows, and if there is to be a coordinator there is exactly one. -/
theorem segment_comes_up {B I : Type} [DecidableEq B] [DecidableEq I]
    (board : I → B) (phy : I → PhyLan867x)
    (hplace : Function.Injective fun i => (board i, (phy i).addr)) {σ : B × U8 → Type}
    (dev : (x : B × U8) → MdioBus ε (σ x)) (p : I → Part)
    (view : (i : I) → σ (board i, (phy i).addr) → Booting)
    (hdev : ∀ i, (dev (board i, (phy i).addr)).handler.Conforms
      ((p i).device (phy i).addr) (view i))
    (config : I → PlcaConfig) (hvalid : ∀ i, (config i).Valid)
    (hids : Function.Injective fun i => (config i).nodeId) (n : Nat) (s : (x : B × U8) → σ x)
    (hoff : ∀ i, ¬RegFile.PlcaOn (view i (s (board i, (phy i).addr))).chip.mmd)
    (schedule : List I) :
    let bringUp := fun i => (Lan867xCall.bringUp (config i) n).calling Lan867xCall.op (phy i)
    let alone := fun i => (bringUp i).run (dev (board i, (phy i).addr)).handler
      (s (board i, (phy i).addr))
    let pool := Pool.run (boards dev) schedule ⟨fun i => (bringUp i).onBus (board i), s⟩
    let chip := fun i => (view i (pool.bus (board i, (phy i).addr))).chip.mmd
    (∀ i j, RegFile.PlcaOn (chip i) → RegFile.PlcaOn (chip j) →
      idField (chip i plcaCtrl1) = idField (chip j plcaCtrl1) → i = j) ∧
    ((∀ i, (alone i).trace.length ≤ schedule.count i) →
      (∀ i, (faults (alone i).trace).length < n) →
      (∀ i, pool.threads i =
          .done (true, ⟨(phy i).addr, some (p i).package, some (config i).nodeId⟩) ∧
        RegFile.plcaRegs (chip i) = configuredRegs (p i).datasheet (config i)) ∧
      ((∃ i, (config i).nodeId = plcaIdCoordinator) →
        ∃! i, RegFile.PlcaOn (chip i) ∧ idField (chip i plcaCtrl1) = plcaIdCoordinator)) := by
  intro bringUp alone pool chip
  have hsilicon : ∀ i, (dev (board i, (phy i).addr)).handler.Conforms
      (device True (lan867x (p i).datasheet) (phy i).addr) fun s => (view i s).chip :=
    fun i q s => (hdev i q s).1
  have honly : ∀ i, RegFile.OnlyAs {config i} (chip i) :=
    segment_onlyAs hplace hsilicon
      (fun i => Lan867xCall.bringUp_within (Set.mem_singleton (config i)) n) hoff schedule
  have hself : ∀ i, RegFile.PlcaOn (chip i) → idField (chip i plcaCtrl1) = (config i).nodeId := by
    intro i hon
    obtain ⟨_, rfl, -, hid⟩ := honly i hon
    rw [hid, idField_ctrl1Of]
  refine ⟨fun i j hi hj hid => ?_, fun hturns hfaults => ?_⟩
  · rw [hself i hi, hself j hj] at hid
    exact hids hid
  have huses : ∀ i, (bringUp i).Uses (Addressed (phy i).addr) fun r => r.2.addr = (phy i).addr :=
    fun i => Lan867xCall.calling_uses _ (phy i)
  -- each node has ended as it does alone
  have hdone : ∀ i, pool.threads i = .done (alone i).value ∧
      pool.bus (board i, (phy i).addr) = (alone i).state := by
    intro i
    obtain ⟨hthread, hbus⟩ :=
      Pool.run_onBus (h := fun x => (dev x).handler) hplace schedule huses s i
    rw [Program.iterate_step_of_length _ (hturns i)] at hthread hbus
    exact ⟨hthread, hbus⟩
  have hup : ∀ i, pool.threads i =
      .done (true, ⟨(phy i).addr, some (p i).package, some (config i).nodeId⟩) ∧
        RegFile.plcaRegs (chip i) = configuredRegs (p i).datasheet (config i) := by
    intro i
    obtain ⟨hthread, hbus⟩ := hdone i
    have hrun := (bringUp_ensures (phy i) (view i (s (board i, (phy i).addr))) (hvalid i) n).run
      (hdev i)
    simp only [Outcome.map_trace, faults_map] at hrun
    rcases hrun with ⟨htrue, hdriver, hregs⟩ | ⟨-, hn⟩
    · have hchip : chip i = (view i (alone i).state).chip.mmd := by rw [← hbus]
      have hvalue : (alone i).value =
          (true, ⟨(phy i).addr, some (p i).package, some (config i).nodeId⟩) :=
        Prod.ext htrue hdriver
      exact ⟨by rw [hthread, hvalue], hchip ▸ hregs⟩
    · exact absurd (hfaults i) (Nat.not_lt.mpr hn)
  refine ⟨hup, fun ⟨i, hi⟩ => ⟨i, ?_, fun j ⟨hj, hjid⟩ => ?_⟩⟩
  · obtain ⟨hon, hid⟩ := RegFile.configured_on (hup i).2
    exact ⟨hon, hid.trans hi⟩
  · rw [hself j hj, ← hi] at hjid
    exact hids hjid

/-- What two boards with the slowest chip end up with: each loses transactions by `script`,
runs as `config` has it, and takes the other's turns as well as its own. -/
def twoBoards (config : Bool → PlcaConfig) (script : List (Option String)) (i : Bool) : RegFile :=
  let bringUp i := (Lan867xCall.bringUp (config i) 2).calling Lan867xCall.op (PhyLan867x.new 3)
  let alone i := (bringUp i).run (Booting.slowBus 3).lossy.handler
    (⟨staleChip, 700, 2, false⟩, script)
  let turns := ((alone false).trace ++ (alone true).trace).flatMap fun _ => [false, true]
  let pool := Pool.run (boards fun _ : Bool × U8 => (Booting.slowBus 3).lossy) turns
    ⟨fun i => (bringUp i).onBus i, fun _ => (⟨staleChip, 700, 2, false⟩, script)⟩
  (pool.bus (i, (PhyLan867x.new 3).addr)).1.settled.chip.mmd

/-- Both lose the enable bit of the first configuration. -/
theorem segment_comes_up_two :
    let chip := twoBoards (fun i => ⟨if i then 1 else 0, 2, 0, 0⟩)
      (List.replicate 2526 none ++ [some "nack"])
    ∃! i, RegFile.PlcaOn (chip i) ∧ idField (chip i plcaCtrl1) = plcaIdCoordinator := by
  have hlost : ∀ (q : Txn) s (e : String),
      slowPart.device 3 (Booting.settled s) q (.error e) (Booting.settled s) :=
    fun q s e => ⟨.inl (Silicon.Drift.refl _), nofun⟩
  have hbus : (Booting.slowBus 3).lossy.handler.Conforms (slowPart.device 3)
      (Booting.settled ∘ Prod.fst) := by
    rw [MdioBus.lossy_handler]
    exact (slowBus_conforms 3).lossy hlost
  have hoff : ¬RegFile.PlcaOn (Booting.settled ⟨staleChip, 700, 2, false⟩).chip.mmd :=
    fun hon => hon (by decide)
  have hcount : ∀ {α : Type} (l : List α) (i : Bool),
      l.length ≤ (l.flatMap fun _ => [false, true]).count i := by
    intro α l i
    induction l with
    | nil => exact Nat.zero_le _
    | cons x l ih => cases i <;> simpa [List.flatMap_cons] using ih
  have hup : ∀ (config : Bool → PlcaConfig) (script : List (Option String)),
      (∀ i, (config i).Valid) → (Function.Injective fun i => (config i).nodeId) →
      (∃ i, (config i).nodeId = plcaIdCoordinator) → (script.filterMap id).length < 2 →
      ∃! i, RegFile.PlcaOn (twoBoards config script i) ∧
        idField (twoBoards config script i plcaCtrl1) = plcaIdCoordinator := by
    intro config script hvalid hids hcoord hscript
    have h := segment_comes_up (fun i => i) (fun _ => PhyLan867x.new 3) twoPlaces_injective
      (fun _ : Bool × U8 => (Booting.slowBus 3).lossy) (fun _ => slowPart)
      (fun _ s => s.1.settled) (fun _ => hbus) config hvalid hids 2
      (fun _ => (⟨staleChip, 700, 2, false⟩, script)) (fun _ => hoff)
    refine ((h _).2 ?_ ?_).2 hcoord
    · intro i
      refine le_trans ?_ (hcount _ i)
      rw [List.length_append]
      cases i with
      | false => exact Nat.le_add_right _ _
      | true => exact Nat.le_add_left _ _
    · intro i
      rw [MdioBus.lossy_handler]
      exact (Program.run_lossy_faults (slowBus_reliable 3) _ _ script).trans_lt hscript
  exact hup _ _ (by decide) (by decide) ⟨false, rfl⟩ (by simp [-List.reduceReplicate])

end EthPhy
