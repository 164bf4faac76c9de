import EthPhy.ErrorTransparency
import EthPhy.Polling

/-!
# The soft reset

`softReset` writes RESET and then polls BMCR until the bit clears.  It is a polling loop
of single reads (`pollReset_eq_poll`), so what it returns is read off the list of its
reads, on every bus and for every bound (`soft_reset_polls_exactly`), and a bound that
has sufficed is as good as any larger one.
-/

namespace EthPhy
open Interaction Ieee802_3

variable {ε σ : Type}

namespace Ieee802_3

/-- RESET is clear in a value read from BMCR. -/
def resetCleared (val : U16) : Bool := decide (val &&& bmcr.reset = 0)

/-- The polling loop is the general one, with single reads of BMCR. -/
theorem pollReset_eq_poll (phyAddr : U8) (n : Nat) :
    (pollReset phyAddr n : Mdio ε Bool) =
      Fallible.poll (mdioRead phyAddr regs.bmcr) resetCleared n := by
  induction n with
  | zero => rfl
  | succ n ih =>
    simp only [pollReset, Fallible.poll, resetCleared, decide_eq_true_eq, ih]

end Ieee802_3

/-- A read of BMCR, with its reply. -/
abbrev bmcrRead (phyAddr : U8) (r : Except ε U16) : TxnEvent ε := ⟨.read phyAddr regs.bmcr, r⟩

/-- **A run of `softReset` with the bound `n`**: the write of RESET, answered by `w`,
and then the reads of BMCR. -/
structure SoftResetRun (phyAddr : U8) (n : Nat) (o : Outcome Txn.Reply ε σ (Except ε Bool))
    (w : Except ε Unit) (reads : List (Except ε U16)) : Prop where
  trace : o.trace.map Exchange.event =
    ⟨.write phyAddr regs.bmcr bmcr.reset, w⟩ :: reads.map (bmcrRead phyAddr)
  /-- It returns `Ok(true)` when a read within the bound is the first to succeed with
  RESET clear, all before it having succeeded with RESET set. -/
  cleared : o.value = .ok true ↔ w = .ok () ∧ ∃ k < n, StopsAt resetCleared reads k
  /-- It issues no read after that one. -/
  stops : ∀ k, StopsAt resetCleared reads k → reads.length = k + 1
  /-- It returns `Ok(false)` when all reads the bound allows succeeded with RESET set. -/
  timeout : o.value = .ok false ↔
    w = .ok () ∧ reads.length = n ∧ ∀ r ∈ reads, Waited resetCleared r
  /-- Otherwise it returns the error of the first transaction that fails, which is the
  last one it issues. -/
  failed : ∀ e, o.value = .error e ↔
    ∃ l x, o.trace = l ++ [x] ∧ (∀ y ∈ l, y.fault = none) ∧ x.fault = some e

section Runs

variable (h : Handler Txn.Reply ε σ) (phyAddr : U8) (maxAttempts : U32) (s : σ)

/-- The write and the reads of `softReset`, and how its result follows from them. -/
theorem softReset_run : ∃ w reads,
    let o := (softReset phyAddr maxAttempts).run.run h s
    o.trace.map Exchange.event =
        ⟨.write phyAddr regs.bmcr bmcr.reset, w⟩ :: reads.map (bmcrRead phyAddr) ∧
      ((∃ e, w = .error e ∧ reads = [] ∧ o.value = .error e) ∨
        (w = .ok () ∧ Polled resetCleared maxAttempts.toNat reads o.value)) := by
  have hheeds : (softReset phyAddr maxAttempts : Mdio ε Bool).run.Heeds (fun _ _ => True)
      (fun l r => ∃ w reads,
        l = ⟨.write phyAddr regs.bmcr bmcr.reset, w⟩ :: reads.map (bmcrRead phyAddr) ∧
        ((∃ e, w = .error e ∧ reads = [] ∧ r = .error e) ∨
          (w = .ok () ∧ Polled resetCleared maxAttempts.toNat reads r))) [] := by
    refine ⟨trivial, fun w => ?_⟩
    cases w with
    | error e => exact ⟨.error e, [], rfl, .inl ⟨e, rfl, rfl, rfl⟩⟩
    | ok u =>
      show (pollReset phyAddr maxAttempts.toNat : Mdio ε Bool).run.Heeds _ _ _
      rw [pollReset_eq_poll]
      refine (Fallible.heeds_poll_request maxAttempts.toNat _).mono ?_
      rintro l r ⟨reads, rfl, hpolled⟩
      exact ⟨.ok (), reads, rfl, .inr ⟨rfl, hpolled⟩⟩
  exact (hheeds.run h s).1

variable {maxAttempts s} in
/-- A bound that has sufficed is as good as any larger one. -/
theorem run_softReset_mono {m : U32} (hm : maxAttempts ≤ m)
    (hend : ((softReset phyAddr maxAttempts).run.run h s).value ≠ .ok false) :
    (softReset phyAddr m).run.run h s = (softReset phyAddr maxAttempts).run.run h s := by
  have hsplit : ∀ n : U32, (softReset phyAddr n : Mdio ε Bool) =
      mdioWrite phyAddr regs.bmcr bmcr.reset >>= fun _ =>
        Fallible.poll (mdioRead phyAddr regs.bmcr) resetCleared n.toNat := by
    intro n
    rw [← pollReset_eq_poll]
    rfl
  rw [hsplit, Fallible.run_bind, Program.run_bind] at hend
  rw [hsplit, hsplit, Fallible.run_bind, Fallible.run_bind, Program.run_bind, Program.run_bind]
  cases hw : ((mdioWrite phyAddr regs.bmcr bmcr.reset : Mdio ε Unit).run.run h s).value with
  | error e => rfl
  | ok u =>
    rw [hw] at hend
    rw [Fallible.run_poll_mono (BitVec.le_def.mp hm) hend]

end Runs

/-- **`softReset` polls exactly as promised**, for every bus, PHY address and bound, and
is monotone in the bound. -/
theorem soft_reset_polls_exactly (bus : MdioBus ε σ) (phyAddr : U8) (maxAttempts : U32) (s : σ) :
    let o := (softReset phyAddr maxAttempts).run.run bus.handler s
    (∃ w reads, SoftResetRun phyAddr maxAttempts.toNat o w reads) ∧
      (o.value ≠ .ok false → ∀ m : U32, maxAttempts ≤ m →
        (softReset phyAddr m).run.run bus.handler s = o) := by
  intro o
  obtain ⟨w, reads, htrace, hend⟩ := softReset_run bus.handler phyAddr maxAttempts s
  have hfailed := (softReset_failStop phyAddr maxAttempts).error_iff bus.handler s
  refine ⟨⟨w, reads, htrace, ?_, ?_, ?_, hfailed⟩, fun hne m hm => ?_⟩
  · rcases hend with ⟨e, rfl, rfl, hvalue⟩ | ⟨rfl, hpolled⟩
    · exact iff_of_false (by rw [hvalue]; nofun) nofun
    · rw [hpolled.ok_true_iff]
      exact (and_iff_right rfl).symm
  · intro k hk
    rcases hend with ⟨e, -, rfl, -⟩ | ⟨-, hpolled⟩
    · obtain ⟨-, v, hv, -⟩ := hk
      cases hv
    · exact hpolled.length_of_stopsAt hk
  · rcases hend with ⟨e, rfl, rfl, hvalue⟩ | ⟨rfl, hpolled⟩
    · exact iff_of_false (by rw [hvalue]; nofun) nofun
    · rw [hpolled.ok_false_iff]
      exact (and_iff_right rfl).symm
  · exact run_softReset_mono bus.handler phyAddr hm hne

end EthPhy
