import EthPhy.Noninterference
import EthPhy.Threads

/-!
# Drivers that share the bus transaction by transaction

A driver borrows the bus for a whole call, so calls are never interleaved when there is
one bus object.  A bus object that is itself shared — by tasks, or by cores — hands out
single transactions, and then the calls of several drivers overlap.  Any number of
drivers with addresses of their own may do so, each used by any client: every schedule
of the transactions gives each client the results it would have got alone, from whole
calls (`concurrent_drivers`).
-/

namespace EthPhy
open Interaction

variable {ε : Type}

/-- **Drivers may overlap**: any number of drivers with addresses of their own, each
with a client that may choose every call by the responses so far.  However their
transactions are interleaved, a client is finished once it has been scheduled as often
as it has transactions when it runs alone; its result, the fields of its driver and the
state of its PHY are those of running alone, call by call; and no other PHY has moved. -/
theorem concurrent_drivers {σ : U8 → Type} (dev : (a : U8) → MdioDevice ε (σ a))
    {I : Type} [DecidableEq I] {R : I → Type} (kind : I → Driver)
    (phy : (i : I) → (kind i).Fields)
    (haddr : Function.Injective fun i => (kind i).addr (phy i))
    (client : (i : I) → Client (kind i).Call (Response ε) (R i)) (schedule : List I)
    (s : (a : U8) → σ a) :
    let bus := (productBus dev).handler
    let thread := fun i => (client i).calling (kind i).op (phy i)
    let pool := Pool.run bus schedule ⟨thread, s⟩
    (∀ i, ((pool.threads i).Finished ↔
        ((thread i).run bus s).trace.length ≤ schedule.count i) ∧
      ∀ r self, pool.threads i = .done (r, self) →
        let alone := (client i).run (serve bus (kind i).op).handler (phy i, s)
        r = alone.value ∧ self = alone.state.1 ∧
          pool.bus ((kind i).addr (phy i)) = alone.state.2 ((kind i).addr (phy i))) ∧
    ∀ a, (∀ i, (kind i).addr (phy i) ≠ a) → pool.bus a = s a := by
  intro bus thread pool
  have hbus : bus = Handler.product Txn.phyAddr fun a => (dev a).handler := productBus_handler dev
  have hthread : ∀ i, (thread i).Uses (fun t => t.phyAddr = (kind i).addr (phy i))
      fun r => (kind i).addr r.2 = (kind i).addr (phy i) :=
    fun i => Program.Uses.calling (kind i).op_uses (client i) rfl
  refine ⟨fun i => ?_, ?_⟩
  · obtain ⟨hfinished, hdone⟩ :=
      Pool.run_thread (h := fun a => (dev a).handler) (x := ⟨thread, s⟩) haddr schedule hthread i
    obtain ⟨hvalue, hstate, -⟩ := run_product (h := fun a => (dev a).handler) (hthread i) s
    have hlength := Pool.run_product_length (h := fun a => (dev a).handler) (hthread i) s
    obtain ⟨hwhole, hleft⟩ := Program.calling_run bus (client i) (phy i) s
    rw [← hbus] at hfinished hdone hvalue hstate hlength
    refine ⟨by rw [hlength]; exact hfinished, fun r self hr => ?_⟩
    obtain ⟨hpair, hpost⟩ := hdone (r, self) hr
    -- alone on its device, on the whole bus, and call by call are the same
    have hresult : (r, self) = _ := hpair.trans (hvalue.symm.trans hwhole)
    refine ⟨congrArg Prod.fst hresult, congrArg Prod.snd hresult, ?_⟩
    have hdevice := congrFun (hstate.symm.trans hleft) ((kind i).addr (phy i))
    rw [Function.update_self] at hdevice
    exact hpost.trans hdevice
  · show ∀ a, (∀ i, (kind i).addr (phy i) ≠ a) →
      (Pool.run bus schedule ⟨thread, s⟩).bus a = s a
    rw [hbus]
    exact (Pool.run_product haddr schedule hthread).2

/-- A LAN867x at address 3 and a LAN87xx at address 1. -/
def onePhyEach : (k : Driver) → k.Fields
  | .lan867x => PhyLan867x.new 3
  | .lan87xx => PhyLan87xx.new 1

/-- Initialise the driver, in two attempts at most. -/
def initTwice : (k : Driver) → Client k.Call (Response String) (Option (Response String))
  | .lan867x => .retry (.inl .init) Response.isOk 2
  | .lan87xx => .retry (.inl .init) Response.isOk 2

theorem onePhyEach_injective : Function.Injective fun k : Driver => k.addr (onePhyEach k) := by
  intro k l h
  cases k <;> cases l
  · rfl
  · exact absurd (show (3 : U8) = 1 from h) (by decide)
  · exact absurd (show (1 : U8) = 3 from h) (by decide)
  · rfl

/-- The two are initialised at the same time, taking turns. -/
theorem concurrent_drivers_turns :
    let bus := (productBus fun _ => countingDevice).handler
    let turns := (List.replicate 10 [Driver.lan867x, Driver.lan87xx]).flatten
    let pool := Pool.run bus turns
      ⟨fun k => (initTwice k).calling k.op (onePhyEach k), fun _ => 0⟩
    (pool.threads .lan867x).Finished ∧ (pool.threads .lan87xx).Finished ∧ pool.bus 2 = 0 := by
  have h := concurrent_drivers (fun _ => countingDevice) id onePhyEach onePhyEach_injective
    initTwice (List.replicate 10 [Driver.lan867x, Driver.lan87xx]).flatten fun _ => 0
  refine ⟨(h.1 .lan867x).1.mpr ?_, (h.1 .lan87xx).1.mpr ?_, h.2 2 ?_⟩
  · exact Nat.le_of_ble_eq_true rfl
  · exact Nat.le_of_ble_eq_true rfl
  · intro k
    cases k
    · exact show (3 : U8) ≠ 2 by decide
    · exact show (1 : U8) ≠ 2 by decide

end EthPhy
