import EthPhy.BringUp
import EthPhy.Noninterference
import EthPhy.PlcaSafety
import EthPhy.Threads

/-!
# The identities on a PLCA segment

A segment is a set of LAN867x nodes, each on some board, with a driver and a client of
its own.  PLCA needs every node that takes part to have an identity of its own, and one
coordinator at most.

Nothing in a driver knows of the other nodes.  What is in the clients' power is to divide
the identities among themselves, and that is enough: if no client configures an identity
that another one owns, no two nodes ever run PLCA under one identity — not in between two
transactions of a call, not when transactions are lost or are not confirmed, and however
the nodes' transactions are interleaved (`identities_distinct`).
-/

namespace EthPhy
open Interaction Lan867x

variable {ε : Type}

/-- **PLCA is off, or on as one of the configurations.** -/
def RegFile.OnlyAs (configs : Set PlcaConfig) (f : RegFile) : Prop :=
  f.PlcaOn → ∃ config ∈ configs, config.Valid ∧ f plcaCtrl1 = PhyLan867x.ctrl1Of config

/-- The call configures nothing but one of the configurations. -/
def Lan867xCall.Within (configs : Set PlcaConfig) (call : Lan867xCall) : Prop :=
  ∀ config, call = .configurePlca config → config ∈ configs

section Node

variable {configs : Set PlcaConfig} {f g : RegFile} {d : Datasheet} {call : Lan867xCall}

theorem RegFile.onlyAs_of_off (h : ¬f.PlcaOn) : f.OnlyAs configs := fun hon => absurd hon h

/-- It is a matter of two registers. -/
theorem Silicon.Holds.onlyAs {c : Silicon} (hc : c.Holds d.status f) (h : f.OnlyAs configs) :
    RegFile.OnlyAs configs c.mmd := by
  intro hon
  rw [hc _ d.plcaCtrl1_not_status]
  exact h (hc.plcaOn.mp hon)

/-- Once its identity is written, `configurePlca` is on as nothing else. -/
theorem RegFile.onlyAs_of_identity {config : PlcaConfig} (hvalid : config.Valid)
    (hmem : config ∈ configs) (hg : g plcaCtrl1 = PhyLan867x.ctrl1Of config) :
    g.OnlyAs configs := fun _ => ⟨config, hmem, hvalid, hg⟩

/-- **Every place of a plan is on as one of the configurations, if at all.** -/
theorem Lan867xCall.plan_onlyAs (hcall : call.Within configs) (hf : f.OnlyAs configs) :
    ∀ g ∈ f :: call.plan d f, g.OnlyAs configs := by
  cases call with
  | init =>
    have hend : ¬RegFile.PlcaOn (d.defaults.rmw t1spmactl 0 t1spmactlMde) := (initialised d).2
    simpa [plan] using
      ⟨hf, RegFile.onlyAs_of_off (defaults_off d), RegFile.onlyAs_of_off hend⟩
  | configurePlca config =>
    by_cases hvalid : config.Valid
    · have hmem : config ∈ configs := hcall config rfl
      let f₁ : RegFile := Function.update f plcaCtrl1 (PhyLan867x.ctrl1Of config)
      let f₂ : RegFile := Function.update f₁ plcaBurst (PhyLan867x.burstOf config)
      have h₁ : f₁ plcaCtrl1 = PhyLan867x.ctrl1Of config := Function.update_self ..
      have h₂ : f₂ plcaCtrl1 = PhyLan867x.ctrl1Of config :=
        (Function.update_of_ne (by decide) _ _).trans h₁
      have h₃ : f₂.rmw plcaCtrl0 0 plcaCtrl0En plcaCtrl1 = PhyLan867x.ctrl1Of config :=
        (RegFile.rmw_of_ne _ (by decide) _ _).trans h₂
      rw [plan_configurePlca hvalid]
      simpa [configuredBy] using ⟨hf, RegFile.onlyAs_of_identity hvalid hmem h₁,
        RegFile.onlyAs_of_identity hvalid hmem h₂, RegFile.onlyAs_of_identity hvalid hmem h₃⟩
    · rw [plan_configurePlca_invalid hvalid]
      simpa using hf
  | disablePlca =>
    have hend : ¬RegFile.PlcaOn (f.rmw plcaCtrl0 plcaCtrl0En 0) := disabled_plcaOff
    simpa [plan] using ⟨hf, RegFile.onlyAs_of_off hend⟩
  | _ => simpa [plan] using hf

/-- **A call within the configurations leaves the node on as nothing else**, after each of
its transactions, whatever the bus loses. -/
theorem Lan867xCall.onlyAs_step (hcall : call.Within configs) {phy : PhyLan867x} {c : Silicon}
    (hc : RegFile.OnlyAs configs c.mmd) :
    (call.op phy : Program Txn.Reply ε _).Ensures (device True (lan867x d) phy.addr) c
      fun l r c' => (∀ x ∈ l, RegFile.OnlyAs configs x.post.mmd) ∧ r.2.addr = phy.addr ∧
        RegFile.OnlyAs configs c'.mmd := by
  refine (call.follows d phy (f := c.mmd) (fun _ _ => rfl)).mono ?_
  rintro l ⟨r, phy'⟩ c' ⟨hprog, hupd⟩
  have hplaces := call.plan_onlyAs (d := d) hcall hc
  refine ⟨fun x hx => ?_, hupd.addr, ?_⟩
  · obtain ⟨followed, rest, hplan, halong, -⟩ := hprog
    obtain ⟨g, k, hgk, -, hpost⟩ := halong.moves x hx
    have hk : k ∈ c.mmd :: followed := by
      rcases hgk with ⟨hg, rfl⟩ | hgk
      · exact hg
      · exact hgk.subset (List.mem_cons_of_mem _ List.mem_cons_self)
    refine hpost.onlyAs (hplaces k ?_)
    rw [hplan, ← List.cons_append]
    exact List.mem_append_left _ hk
  · obtain ⟨g, hg, hc'⟩ := hprog.somewhere
    exact hc'.onlyAs (hplaces g hg)

/-- The same of all that a client does. -/
theorem Lan867xCall.onlyAs_client {α : Type} {client : Client Lan867xCall (Response ε) α}
    (hclient : client.Uses (Within configs) fun _ => True) {phy : PhyLan867x} {c : Silicon}
    (hc : RegFile.OnlyAs configs c.mmd) :
    (client.calling op phy : Program Txn.Reply ε _).Ensures (device True (lan867x d) phy.addr) c
      fun l _ _ => ∀ x ∈ l, RegFile.OnlyAs configs x.post.mmd := by
  have hop : ∀ (call : Lan867xCall) (o : PhyLan867x) (t : Silicon), call.Within configs →
      o.addr = phy.addr ∧ RegFile.OnlyAs configs t.mmd →
      (call.op o : Program Txn.Reply ε _).Ensures (device True (lan867x d) phy.addr) t
        fun l r t' => (∀ x ∈ l, RegFile.OnlyAs configs x.post.mmd) ∧ r.2.addr = phy.addr ∧
          RegFile.OnlyAs configs t'.mmd := by
    rintro call o t hcall ⟨haddr, ht⟩
    rw [← haddr]
    exact call.onlyAs_step hcall ht
  exact (hclient.ensures_calling (I := fun o t => o.addr = phy.addr ∧
    RegFile.OnlyAs configs t.mmd) hop ⟨rfl, hc⟩).mono fun _ _ _ h => h.1

/-- Whatever a client calls, only its own PHY is addressed. -/
theorem Lan867xCall.calling_uses {α : Type} (client : Client Lan867xCall (Response ε) α)
    (phy : PhyLan867x) : (client.calling op phy : Program Txn.Reply ε _).Uses
      (Addressed phy.addr) fun r => r.2.addr = phy.addr :=
  Program.Uses.calling (Q := fun o : PhyLan867x => o.addr = phy.addr)
    (fun call o ho => Driver.op_uses .lan867x (.inl call) o ho) client rfl

/-- A bring-up configures one configuration. -/
theorem Lan867xCall.bringUp_within {config : PlcaConfig} (hmem : config ∈ configs) (n : Nat) :
    (bringUp config n : Client Lan867xCall (Response ε) Bool).Uses (Within configs)
      fun _ => True := by
  have hconfig : Within configs (.configurePlca config) := by
    rintro config' h
    obtain rfl := Lan867xCall.configurePlca.inj h
    exact hmem
  exact Client.retryBoth_uses (fun _ h => nomatch h) hconfig n

end Node

/-! ## The segment -/

/-- **The MDIO buses of several boards**, with a device of its own at each address of each
board. -/
def boards {B : Type} [DecidableEq B] {σ : B × U8 → Type}
    (dev : (x : B × U8) → MdioBus ε (σ x)) :
    Handler (fun q : B × Txn => q.2.Reply) ε ((x : B × U8) → σ x) :=
  .product (fun q => (q.1, q.2.phyAddr)) fun x q => (dev x).handler q.2

/-- **Each node is on as one of the configurations of its client, if at all**, at every
moment of every schedule. -/
theorem segment_onlyAs {B I : Type} [DecidableEq B] [DecidableEq I] {R : I → Type}
    {board : I → B} {phy : I → PhyLan867x}
    (hplace : Function.Injective fun i => (board i, (phy i).addr)) {σ : B × U8 → Type}
    {dev : (x : B × U8) → MdioBus ε (σ x)} {d : I → Datasheet}
    {view : (i : I) → σ (board i, (phy i).addr) → Silicon}
    (hdev : ∀ i, (dev (board i, (phy i).addr)).handler.Conforms
      (device True (lan867x (d i)) (phy i).addr) (view i))
    {configs : I → Set PlcaConfig} {client : (i : I) → Client Lan867xCall (Response ε) (R i)}
    (hclient : ∀ i, (client i).Uses (Lan867xCall.Within (configs i)) fun _ => True)
    {s : (x : B × U8) → σ x}
    (hoff : ∀ i, ¬RegFile.PlcaOn (view i (s (board i, (phy i).addr))).mmd)
    (schedule : List I) (i : I) :
    RegFile.OnlyAs (configs i) (view i ((Pool.run (boards dev) schedule
      ⟨fun i => ((client i).calling Lan867xCall.op (phy i)).onBus (board i), s⟩).bus
        (board i, (phy i).addr))).mmd := by
  have hrun := (Lan867xCall.onlyAs_client (hclient i) (RegFile.onlyAs_of_off (hoff i))).run
    (hdev i)
  -- the node is where it was, or where a transaction has left it when it ran alone
  unfold boards
  rw [(Pool.run_onBus (h := fun x => (dev x).handler) hplace schedule
    (fun i => Lan867xCall.calling_uses (client i) (phy i)) s i).2]
  rcases Program.iterate_step_state (dev (board i, (phy i).addr)).handler (schedule.count i)
    ((client i).calling Lan867xCall.op (phy i)) (s (board i, (phy i).addr))
    with hs | ⟨x, hx, hs⟩
  · rw [hs]
    exact RegFile.onlyAs_of_off (hoff i)
  · rw [hs]
    exact hrun (x.map (view i)) (List.mem_map_of_mem hx)

/-- **No two nodes of a segment ever run PLCA under one identity.**  There may be any
number of nodes, on any boards; each has a driver and a client that may choose every call
by the responses so far; transactions may be lost or not be confirmed, and may be
interleaved in any way.  From a segment with PLCA off, if every identity has an owner and
no client configures what its node does not own, then at every moment a node that runs
PLCA does so under a valid identity that it owns. -/
theorem identities_distinct {B I : Type} [DecidableEq B] [DecidableEq I] {R : I → Type}
    (board : I → B) (phy : I → PhyLan867x)
    (hplace : Function.Injective fun i => (board i, (phy i).addr)) {σ : B × U8 → Type}
    (dev : (x : B × U8) → MdioBus ε (σ x)) (d : I → Datasheet)
    (view : (i : I) → σ (board i, (phy i).addr) → Silicon)
    (hdev : ∀ i, (dev (board i, (phy i).addr)).handler.Conforms
      (device True (lan867x (d i)) (phy i).addr) (view i))
    (owner : U8 → I) (client : (i : I) → Client Lan867xCall (Response ε) (R i))
    (hclient : ∀ i,
      (client i).Uses (Lan867xCall.Within {config | owner config.nodeId = i}) fun _ => True)
    (s : (x : B × U8) → σ x)
    (hoff : ∀ i, ¬RegFile.PlcaOn (view i (s (board i, (phy i).addr))).mmd)
    (schedule : List I) :
    let pool := Pool.run (boards dev) schedule
      ⟨fun i => ((client i).calling Lan867xCall.op (phy i)).onBus (board i), s⟩
    let chip := fun i => (view i (pool.bus (board i, (phy i).addr))).mmd
    (∀ i, RegFile.PlcaOn (chip i) → owner (idField (chip i plcaCtrl1)) = i ∧
      idField (chip i plcaCtrl1) ≠ plcaIdDisabled ∧
      (ncntField (chip i plcaCtrl1) = 0 ∨
        idField (chip i plcaCtrl1) < ncntField (chip i plcaCtrl1))) ∧
    ∀ i j, RegFile.PlcaOn (chip i) → RegFile.PlcaOn (chip j) →
      idField (chip i plcaCtrl1) = idField (chip j plcaCtrl1) → i = j := by
  intro pool chip
  have honly : ∀ i, RegFile.OnlyAs {config | owner config.nodeId = i} (chip i) :=
    segment_onlyAs hplace hdev hclient hoff schedule
  have hown : ∀ i, RegFile.PlcaOn (chip i) → owner (idField (chip i plcaCtrl1)) = i := by
    intro i hon
    obtain ⟨config, hmem, -, hid⟩ := honly i hon
    rw [hid, idField_ctrl1Of]
    exact hmem
  refine ⟨fun i hon => ⟨hown i hon, ?_⟩, fun i j hi hj hid => ?_⟩
  · obtain ⟨config, -, hvalid, hid⟩ := honly i hon
    rw [hid, idField_ctrl1Of, ncntField_ctrl1Of]
    exact hvalid
  · rw [← hown i hi, ← hown j hj, hid]

/-- One node on each of two boards, at the same address. -/
theorem twoPlaces_injective {addr : U8} : Function.Injective fun i : Bool => (i, addr) :=
  fun _ _ h => congrArg Prod.fst h

/-- A client that brings up one of two nodes, and the LAN8670 it does so on.  The
confirmation of the enable bit is lost; so it tries again. -/
def nodeOfTwo (i : Bool) : Program Txn.Reply String (Bool × PhyLan867x) × SimState String :=
  ((Lan867xCall.bringUp ⟨if i then 1 else 0, 2, 0, 0⟩ 2).calling Lan867xCall.op (PhyLan867x.new 3),
    ⟨staleChip, List.replicate 36 .delivered ++ [.unconfirmed "timeout"]⟩)

/-- The registers of two boards whose nodes take turns. -/
def twoNodes (turns : List Bool) (i : Bool) : RegFile :=
  let pool := Pool.run (boards fun _ : Bool × U8 => SimulatedChip.lan8670.bus 3 true) turns
    ⟨fun i => (nodeOfTwo i).1.onBus i, fun x => (nodeOfTwo x.1).2⟩
  (pool.bus (i, (PhyLan867x.new 3).addr)).chip.mmd

/-- A node that has had its turns has ended as it does alone. -/
theorem twoNodes_eq (turns : List Bool) (i : Bool) :
    let alone := (nodeOfTwo i).1.run (SimulatedChip.lan8670.bus 3 true).handler (nodeOfTwo i).2
    alone.trace.length ≤ turns.count i → twoNodes turns i = alone.state.chip.mmd := by
  intro alone hlen
  have huses : ∀ i, (nodeOfTwo i).1.Uses (Addressed (PhyLan867x.new 3).addr)
      fun r => r.2.addr = (PhyLan867x.new 3).addr := fun i => Lan867xCall.calling_uses _ _
  have hpool := (Pool.run_onBus
    (h := fun _ : Bool × U8 => (SimulatedChip.lan8670.bus 3 true).handler) twoPlaces_injective
    turns huses (fun x => (nodeOfTwo x.1).2) i).2
  rw [Program.iterate_step_of_length _ hlen] at hpool
  exact congrArg (fun x : SimState String => x.chip.mmd) hpool

/-- Two boards, each with a LAN8670 at address 3, one the coordinator and the other a
follower: both are on in the end, under two identities. -/
theorem identities_distinct_two :
    let chip := twoNodes (List.replicate 60 [false, true]).flatten
    RegFile.PlcaOn (chip false) ∧ RegFile.PlcaOn (chip true) ∧
      idField (chip false plcaCtrl1) ≠ idField (chip true plcaCtrl1) := by
  have hown : ∀ i : Bool, (⟨if i then 1 else 0, 2, 0, 0⟩ : PlcaConfig) ∈
      {config | (config.nodeId != 0) = i} := fun i => by cases i <;> rfl
  have hoff : ¬RegFile.PlcaOn staleChip.mmd := fun h => h (by decide)
  have hdistinct : ∀ turns, RegFile.PlcaOn (twoNodes turns false) →
      RegFile.PlcaOn (twoNodes turns true) →
      idField (twoNodes turns false plcaCtrl1) ≠ idField (twoNodes turns true plcaCtrl1) := by
    intro turns hcoord hfollower hid
    have hsame := (identities_distinct id (fun _ => PhyLan867x.new 3) twoPlaces_injective
      (fun _ : Bool × U8 => SimulatedChip.lan8670.bus 3 true) (fun _ => SimulatedChip.datasheet)
      (fun _ => SimState.chip) (fun _ => SimulatedChip.lan8670.conforms 3 true fun _ => trivial)
      (fun x => x != 0) (fun i => Lan867xCall.bringUp ⟨if i then 1 else 0, 2, 0, 0⟩ 2)
      (fun i => Lan867xCall.bringUp_within (hown i) 2) (fun x => (nodeOfTwo x.1).2)
      (fun _ => hoff) turns).2 false true hcoord hfollower hid
    exact Bool.false_ne_true hsame
  have hon : ∀ i, RegFile.PlcaOn (twoNodes (List.replicate 60 [false, true]).flatten i) := by
    intro i
    rw [twoNodes_eq _ i (by cases i <;> decide +kernel), RegFile.PlcaOn]
    cases i <;> decide +kernel
  exact ⟨hon false, hon true, hdistinct _ (hon false) (hon true)⟩

end EthPhy
