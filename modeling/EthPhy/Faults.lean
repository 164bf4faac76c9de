import EthPhy.FailStop
import EthPhy.Reliable

/-!
# The faults of a run

`faults l` is the list of the errors of the exchanges `l`, in order.  A fail-stop
program has at most one fault in a run, and it is the one it reports
(`FailStop.faults`); and what a program ensures against a reliable device it ensures
of every run that has none (`ensures_of_reliable`).
-/

namespace Interaction

variable {Req : Type} {Reply : Req → Type} {ε S α β σ τ : Type}

/-- The errors of the exchanges that failed, in order. -/
def faults (l : List (Exchange Reply ε σ)) : List ε := l.filterMap Exchange.fault

@[simp] theorem faults_nil : faults ([] : List (Exchange Reply ε σ)) = [] := rfl

@[simp] theorem faults_append (l l' : List (Exchange Reply ε σ)) :
    faults (l ++ l') = faults l ++ faults l' := List.filterMap_append

@[simp] theorem faults_cons_ok (s t : σ) (q : Req) (v : Reply q)
    (l : List (Exchange Reply ε σ)) : faults (⟨s, q, .ok v, t⟩ :: l) = faults l := rfl

@[simp] theorem faults_cons_error (s t : σ) (q : Req) (e : ε)
    (l : List (Exchange Reply ε σ)) : faults (⟨s, q, .error e, t⟩ :: l) = e :: faults l := rfl

/-- A view of the state does not change the faults. -/
@[simp] theorem faults_map (view : σ → τ) (l : List (Exchange Reply ε σ)) :
    faults (l.map (Exchange.map view)) = faults l := by
  unfold faults
  rw [List.filterMap_map]
  exact congrArg (l.filterMap ·) (funext fun x => x.map_fault view)

namespace Program

variable {bus? : α → Option ε} {p : Program Reply ε α}

/-- **The faults of a fail-stop program are what it reports**: none, or one. -/
theorem FailStop.faults (hp : p.FailStop bus?) (D : Device Reply ε σ) (s : σ) :
    p.Ensures D s fun l a _ => Interaction.faults l = (bus? a).toList := by
  induction p generalizing s with
  | done a =>
    rw [ensures_done, show bus? a = none from hp]
    rfl
  | call q k ih =>
    intro r t _
    cases r with
    | error e =>
      obtain ⟨a, hk, ha⟩ := hp.1 e
      rw [hk, ensures_done]
      show [e] = (bus? a).toList
      rw [ha]
      rfl
    | ok v => exact (ih _ (hp.2 v) t).mono fun l a u h => h

/-- **What is ensured when nothing fails holds of every run without faults.** -/
theorem ensures_of_reliable {D : Device Reply ε σ} {s : σ}
    {Q : List (Exchange Reply ε σ) → α → σ → Prop} (h : p.Ensures D.reliable s Q) :
    p.Ensures D s fun l a t => Interaction.faults l = [] → Q l a t := by
  induction p generalizing s Q with
  | done a => exact fun _ => h
  | call q k ih =>
    intro r t hr
    cases r with
    | error e => exact ensures_of_forall _ _ fun l a u hno => absurd hno (List.cons_ne_nil _ _)
    | ok v => exact ih _ (h (.ok v) t ⟨hr, v, rfl⟩)

/-- On a bus that loses what a script names, and nothing else, there are no more faults
than the script has. -/
theorem run_lossy_faults {h : Handler Reply ε σ} (hh : ∀ q s, ∃ v, (h q s).1 = .ok v)
    (p : Program Reply ε α) (s : σ) (script : List (Option ε)) :
    (Interaction.faults (p.run h.lossy (s, script)).trace).length ≤
      (script.filterMap id).length := by
  induction p generalizing s script with
  | done a => exact Nat.zero_le _
  | call q k ih =>
    rcases script with _ | ⟨_ | e, script⟩
    · obtain ⟨v, hv⟩ := hh q s
      simpa [run_call, Handler.lossy, hv] using ih (.ok v) (h q s).2 []
    · obtain ⟨v, hv⟩ := hh q s
      simpa [run_call, Handler.lossy, hv] using ih (.ok v) (h q s).2 script
    · simpa [run_call, Handler.lossy] using ih (.error e) s script

end Program
end Interaction
