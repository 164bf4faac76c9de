import EthPhy.Clients
import EthPhy.Product
import Mathlib.Logic.Function.Iterate

/-!
# Programs that share a bus

A pool of threads is a family of programs on one bus.  A schedule says which thread
issues the next request, so the requests of two calls may be interleaved in any way.
On a product of devices, threads that keep to devices of their own advance exactly as
they would alone (`Pool.run_product`): a thread is finished once it has been scheduled
as often as its run alone has exchanges, and then has the same result.
-/

namespace Interaction

variable {Req : Type} {Reply : Req → Type} {ε α σ : Type}

namespace Program

/-! ## One request at a time -/

/-- Issue the next request, if there is one. -/
def step (h : Handler Reply ε σ) : Program Reply ε α × σ → Program Reply ε α × σ
  | (done a, s) => (done a, s)
  | (call q k, s) => (k (h q s).1, (h q s).2)

/-- There is no request left to issue. -/
def Finished (p : Program Reply ε α) : Prop := ∃ a, p = done a

variable (h : Handler Reply ε σ)

theorem finished_iff (p : Program Reply ε α) (s : σ) :
    p.Finished ↔ (p.run h s).trace = [] := by
  cases p with
  | done a => exact ⟨fun _ => rfl, fun _ => ⟨a, rfl⟩⟩
  | call q k => simp [Finished, run_call]

/-- What is left of a program after `n` requests runs to the same end, and the
exchanges that are left are those after the first `n`. -/
theorem iterate_step_run (n : Nat) (p : Program Reply ε α) (s : σ) :
    let x := (step h)^[n] (p, s)
    (x.1.run h x.2).value = (p.run h s).value ∧ (x.1.run h x.2).state = (p.run h s).state ∧
      (x.1.run h x.2).trace = (p.run h s).trace.drop n := by
  induction n generalizing p s with
  | zero => exact ⟨rfl, rfl, rfl⟩
  | succ n ih =>
    rw [Function.iterate_succ_apply]
    cases p with
    | done a =>
      obtain ⟨hv, hs, ht⟩ := ih (done a) s
      exact ⟨hv, hs, by rw [step, ht]; simp⟩
    | call q k => exact ih (k (h q s).1) (h q s).2

/-- A program is finished once it has issued all the requests of its run. -/
theorem iterate_step_finished_iff (n : Nat) (p : Program Reply ε α) (s : σ) :
    ((step h)^[n] (p, s)).1.Finished ↔ (p.run h s).trace.length ≤ n := by
  obtain ⟨-, -, htrace⟩ := iterate_step_run h n p s
  rw [finished_iff h _ ((step h)^[n] (p, s)).2, htrace, List.drop_eq_nil_iff]

/-- A finished program has the value and the state of the whole run. -/
theorem iterate_step_of_done {n : Nat} {p : Program Reply ε α} {s : σ} {a : α}
    (hdone : ((step h)^[n] (p, s)).1 = done a) :
    a = (p.run h s).value ∧ ((step h)^[n] (p, s)).2 = (p.run h s).state := by
  obtain ⟨hv, hs, -⟩ := iterate_step_run h n p s
  rw [hdone] at hv hs
  exact ⟨hv, hs⟩

/-- A program that has issued all its requests has ended as its run does. -/
theorem iterate_step_of_length {n : Nat} {p : Program Reply ε α} {s : σ}
    (hn : (p.run h s).trace.length ≤ n) :
    (step h)^[n] (p, s) = (done (p.run h s).value, (p.run h s).state) := by
  obtain ⟨a, ha⟩ := (iterate_step_finished_iff h n p s).mpr hn
  obtain ⟨hvalue, hstate⟩ := iterate_step_of_done h ha
  exact Prod.ext (by rw [ha, hvalue]) hstate

/-- After some of its requests, a program has left the bus where it was, or where one of
the exchanges of its run did. -/
theorem iterate_step_state (n : Nat) (p : Program Reply ε α) (s : σ) :
    ((step h)^[n] (p, s)).2 = s ∨
      ∃ x ∈ (p.run h s).trace, ((step h)^[n] (p, s)).2 = x.post := by
  induction n generalizing p s with
  | zero => exact .inl rfl
  | succ n ih =>
    rw [Function.iterate_succ_apply]
    cases p with
    | done a => exact ih (done a) s
    | call q k =>
      refine .inr ?_
      rcases ih (k (h q s).1) (h q s).2 with hs | ⟨x, hx, hs⟩
      · exact ⟨_, List.mem_cons_self, hs⟩
      · exact ⟨x, List.mem_cons_of_mem _ hx, hs⟩

/-! ## Several buses -/

/-- The program with all its requests issued on bus `b` of several. -/
def onBus {B : Type} (b : B) :
    Program Reply ε α → Program (fun q : B × Req => Reply q.2) ε α
  | done a => done a
  | call q k => call (b, q) fun r => (k r).onBus b

/-- What keeps to device `k` keeps to that device of that bus. -/
theorem Uses.onBus {B K : Type} {route : Req → K} {k : K} {Q : α → Prop}
    {p : Program Reply ε α} (hp : p.Uses (fun q => route q = k) Q) (b : B) :
    (p.onBus b).Uses (fun q => (q.1, route q.2) = (b, k)) Q := by
  induction p with
  | done a => exact hp
  | call q f ih => exact ⟨Prod.ext rfl hp.1, fun r => ih r (hp.2 r)⟩

/-- It advances as it does on that bus. -/
theorem iterate_step_onBus {B : Type} (b : B) (n : Nat) (p : Program Reply ε α) (s : σ) :
    (step fun q : B × Req => h q.2)^[n] (p.onBus b, s) =
      (((step h)^[n] (p, s)).1.onBus b, ((step h)^[n] (p, s)).2) := by
  induction n generalizing p s with
  | zero => rfl
  | succ n ih =>
    rw [Function.iterate_succ_apply, Function.iterate_succ_apply]
    cases p with
    | done a => exact ih (done a) s
    | call q k => exact ih (k (h q s).1) (h q s).2

end Program

/-! ## Pools of threads -/

/-- **A pool of threads on one bus**: what each has still to do, and the bus. -/
structure Pool {I : Type} (Reply : Req → Type) (ε : Type) (α : I → Type) (σ : Type) where
  threads : (i : I) → Program Reply ε (α i)
  bus : σ

namespace Pool

variable {I : Type} [DecidableEq I] {α : I → Type}

/-- Thread `i` issues its next request. -/
def step (h : Handler Reply ε σ) (x : Pool Reply ε α σ) (i : I) : Pool Reply ε α σ :=
  let r := Program.step h (x.threads i, x.bus)
  ⟨Function.update x.threads i r.1, r.2⟩

/-- The threads issue their requests in the order of the schedule. -/
def run (h : Handler Reply ε σ) (schedule : List I) (x : Pool Reply ε α σ) : Pool Reply ε α σ :=
  schedule.foldl (step h) x

variable {K : Type} [DecidableEq K] {τ : K → Type} {route : Req → K}
  {h : (k : K) → Handler Reply ε (τ k)} {key : I → K} {Q : (i : I) → α i → Prop}

/-- A request of a thread that keeps to device `k` moves that device only, as it would
alone. -/
theorem step_thread {β : Type} {p : Program Reply ε β} {k : K} {R : β → Prop}
    (hp : p.Uses (fun q => route q = k) R) (s : (k : K) → τ k) :
    let r := Program.step (h k) (p, s k)
    Program.step (Handler.product route h) (p, s) = (r.1, Function.update s k r.2) ∧
      r.1.Uses (fun q => route q = k) R := by
  cases p with
  | done a => exact ⟨by simp [Program.step], hp⟩
  | call q f =>
    obtain ⟨rfl, hf⟩ := hp
    exact ⟨rfl, hf _⟩

/-- A program that keeps to one device has as many exchanges as on that device alone. -/
theorem run_product_length {β : Type} {p : Program Reply ε β} {k : K} {R : β → Prop}
    (hp : p.Uses (fun q => route q = k) R) (s : (k : K) → τ k) :
    (p.run (Handler.product route h) s).trace.length = (p.run (h k) (s k)).trace.length := by
  induction p generalizing s with
  | done a => rfl
  | call q f ih =>
    obtain ⟨rfl, hf⟩ := hp
    simpa [Program.run_call, Handler.product] using
      ih _ (hf (h (route q) q (s (route q))).1)
        (Function.update s (route q) (h (route q) q (s (route q))).2)

/-- **Threads on devices of their own advance as they would alone**, under every
schedule, and move no other device. -/
theorem run_product (hkey : Function.Injective key) (schedule : List I)
    {x : Pool Reply ε α ((k : K) → τ k)}
    (hx : ∀ i, (x.threads i).Uses (fun q => route q = key i) (Q i)) :
    let y := x.run (Handler.product route h) schedule
    (∀ i, (y.threads i, y.bus (key i)) =
      (Program.step (h (key i)))^[schedule.count i] (x.threads i, x.bus (key i))) ∧
    ∀ k, (∀ i, key i ≠ k) → y.bus k = x.bus k := by
  induction schedule generalizing x with
  | nil => exact ⟨fun i => rfl, fun k _ => rfl⟩
  | cons j schedule ih =>
    obtain ⟨hstep, huses⟩ := step_thread (h := h) (hx j) x.bus
    have hnext : ∀ i, ((x.step (Handler.product route h) j).threads i).Uses
        (fun q => route q = key i) (Q i) := by
      intro i
      by_cases hij : i = j
      · subst hij
        simpa [step, hstep] using huses
      · simpa [step, Function.update_of_ne hij] using hx i
    obtain ⟨hrun, hother⟩ := ih hnext
    refine ⟨fun i => ?_, fun k hk => ?_⟩
    · rw [run, List.foldl_cons]
      refine (hrun i).trans ?_
      by_cases hij : i = j
      · subst hij
        rw [List.count_cons_self, Function.iterate_succ_apply]
        simp [step, hstep]
      · -- the device of another thread is another device
        have hk : key i ≠ key j := fun h => hij (hkey h)
        rw [List.count_cons_of_ne (fun h => hij h.symm)]
        simp [step, hstep, Function.update_of_ne hij, Function.update_of_ne hk]
    · rw [run, List.foldl_cons]
      refine (hother k hk).trans ?_
      simp [step, hstep, Function.update_of_ne (hk j).symm]

/-- **What becomes of each thread**: it is finished once it has been scheduled as often
as its run alone has exchanges, and then has the value of that run and has left its
device in the state of that run. -/
theorem run_thread (hkey : Function.Injective key) (schedule : List I)
    {x : Pool Reply ε α ((k : K) → τ k)}
    (hx : ∀ i, (x.threads i).Uses (fun q => route q = key i) (Q i)) (i : I) :
    let y := x.run (Handler.product route h) schedule
    let alone := (x.threads i).run (h (key i)) (x.bus (key i))
    ((y.threads i).Finished ↔ alone.trace.length ≤ schedule.count i) ∧
      ∀ a, y.threads i = .done a → a = alone.value ∧ y.bus (key i) = alone.state := by
  intro y alone
  have hpair := (run_product (h := h) hkey schedule hx).1 i
  have hprogram : y.threads i = _ := congrArg Prod.fst hpair
  have hbus : y.bus (key i) = _ := congrArg Prod.snd hpair
  refine ⟨?_, fun a ha => ?_⟩
  · rw [hprogram]
    exact Program.iterate_step_finished_iff _ _ _ _
  · obtain ⟨hvalue, hstate⟩ := Program.iterate_step_of_done (h (key i)) (hprogram.symm.trans ha)
    exact ⟨hvalue, hbus.trans hstate⟩

/-- **Threads on buses of their own**, or on devices of their own on one bus, have as much
left to do as they would alone, and leave their devices where they would, at every moment of
every schedule. -/
theorem run_onBus {B : Type} [DecidableEq B] {bus : I → B} {τ : B × K → Type}
    {h : (x : B × K) → Handler Reply ε (τ x)}
    (hkey : Function.Injective fun i => (bus i, key i)) (schedule : List I)
    {threads : (i : I) → Program Reply ε (α i)}
    (hthreads : ∀ i, (threads i).Uses (fun q => route q = key i) (Q i))
    (s : (x : B × K) → τ x) (i : I) :
    let product : Handler (fun q : B × Req => Reply q.2) ε ((x : B × K) → τ x) :=
      .product (fun q => (q.1, route q.2)) fun x q => h x q.2
    let pool := Pool.run product schedule ⟨fun i => (threads i).onBus (bus i), s⟩
    let left := (Program.step (h (bus i, key i)))^[schedule.count i]
      (threads i, s (bus i, key i))
    pool.threads i = left.1.onBus (bus i) ∧ pool.bus (bus i, key i) = left.2 := by
  intro product pool left
  have hpair := (run_product (h := fun x (q : B × Req) => h x q.2)
    (x := ⟨fun i => (threads i).onBus (bus i), s⟩) hkey schedule
    fun i => (hthreads i).onBus (bus i)).1 i
  exact Prod.mk.inj (hpair.trans (Program.iterate_step_onBus (h (bus i, key i)) _ _ _ _))

end Pool
end Interaction
