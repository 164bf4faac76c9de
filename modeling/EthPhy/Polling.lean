import EthPhy.History
import Mathlib.Data.List.Basic

/-!
# Polling

`poll x done n` makes up to `n` attempts of `x` and ends at the first whose value is
`done`; an attempt that fails ends it with its error.  `Polled` relates all the
attempts of such a loop to what it returns, and says by itself which of the three ends
it was, after how many attempts.

Whatever the loop polls, a bound that has sufficed is as good as any larger one
(`run_poll_mono`).
-/

namespace Interaction

variable {Req : Type} {Reply : Req → Type} {ε α σ : Type}

/-! ## The attempts of a polling loop -/

/-- **The attempts of a polling loop with a budget of `n`, and what it returns.** -/
inductive Polled (done : α → Bool) : Nat → List (Except ε α) → Except ε Bool → Prop
  | exhausted : Polled done 0 [] (.ok false)
  | stopped {n : Nat} {a : α} (h : done a = true) : Polled done (n + 1) [.ok a] (.ok true)
  | failed {n : Nat} (e : ε) : Polled done (n + 1) [.error e] (.error e)
  | waited {n : Nat} {a : α} {as : List (Except ε α)} {r : Except ε Bool} (h : done a = false)
    (rest : Polled done n as r) : Polled done (n + 1) (.ok a :: as) r

/-- The attempt has succeeded, in vain. -/
def Waited (done : α → Bool) (r : Except ε α) : Prop := ∃ a, r = .ok a ∧ done a = false

/-- Attempt `k`, counted from zero, is the first that is not in vain, and is done. -/
def StopsAt (done : α → Bool) (as : List (Except ε α)) (k : Nat) : Prop :=
  (∀ i < k, ∃ r, as[i]? = some r ∧ Waited done r) ∧ ∃ a, as[k]? = some (.ok a) ∧ done a = true

namespace Polled

variable {done : α → Bool} {n k : Nat} {a : α} {as : List (Except ε α)} {r : Except ε Bool}

theorem stopsAt_zero (h : done a = true) : StopsAt done (.ok a :: as) 0 :=
  ⟨fun i hi => absurd hi (Nat.not_lt_zero i), a, rfl, h⟩

/-- An attempt in vain comes first. -/
theorem stopsAt_cons_iff (h : done a = false) :
    StopsAt done (.ok a :: as) k ↔ ∃ j, k = j + 1 ∧ StopsAt done as j := by
  constructor
  · rintro ⟨hwait, b, hb, hdone⟩
    cases k with
    | zero =>
      obtain rfl := Except.ok.inj (Option.some.inj hb)
      rw [h] at hdone
      cases hdone
    | succ j =>
      exact ⟨j, rfl, fun i hi => hwait (i + 1) (Nat.succ_lt_succ hi), b, hb, hdone⟩
  · rintro ⟨j, rfl, hwait, hb⟩
    refine ⟨fun i hi => ?_, hb⟩
    cases i with
    | zero => exact ⟨.ok a, rfl, a, rfl, h⟩
    | succ i => exact hwait i (Nat.lt_of_succ_lt_succ hi)

/-- **The loop returns `true` when an attempt within the budget stops it.** -/
theorem ok_true_iff (h : Polled done n as r) :
    r = .ok true ↔ ∃ k < n, StopsAt done as k := by
  induction h with
  | exhausted =>
    constructor
    · intro hr
      cases hr
    · rintro ⟨k, hk, -⟩
      exact absurd hk (Nat.not_lt_zero k)
  | stopped hdone => exact iff_of_true rfl ⟨0, Nat.succ_pos _, stopsAt_zero hdone⟩
  | failed e =>
    constructor
    · intro hr
      cases hr
    · rintro ⟨k, -, hwait, a, ha, -⟩
      cases k with
      | zero => cases ha
      | succ k => cases ha
  | waited hwait _ ih =>
    rw [ih]
    constructor
    · rintro ⟨k, hk, hstop⟩
      exact ⟨k + 1, Nat.succ_lt_succ hk, (stopsAt_cons_iff hwait).mpr ⟨k, rfl, hstop⟩⟩
    · rintro ⟨k, hk, hstop⟩
      obtain ⟨j, rfl, hj⟩ := (stopsAt_cons_iff hwait).mp hstop
      exact ⟨j, Nat.lt_of_succ_lt_succ hk, hj⟩

/-- **It makes no attempt after the one that stops it.** -/
theorem length_of_stopsAt (h : Polled done n as r) (hk : StopsAt done as k) :
    as.length = k + 1 := by
  induction h generalizing k with
  | exhausted =>
    obtain ⟨-, a, ha, -⟩ := hk
    cases ha
  | stopped hdone =>
    obtain ⟨-, b, hb, -⟩ := hk
    cases k with
    | zero => rfl
    | succ k => cases hb
  | failed e =>
    obtain ⟨-, b, hb, -⟩ := hk
    cases k with
    | zero => cases hb
    | succ k => cases hb
  | waited hwait _ ih =>
    obtain ⟨j, rfl, hj⟩ := (stopsAt_cons_iff hwait).mp hk
    rw [List.length_cons, ih hj]

/-- **It returns `false` when the whole budget was spent in vain.** -/
theorem ok_false_iff (h : Polled done n as r) :
    r = .ok false ↔ as.length = n ∧ ∀ x ∈ as, Waited done x := by
  induction h with
  | exhausted => exact iff_of_true rfl ⟨rfl, nofun⟩
  | stopped hdone =>
    constructor
    · intro hr
      cases hr
    · rintro ⟨-, hall⟩
      obtain ⟨b, hb, hwait⟩ := hall _ List.mem_cons_self
      obtain rfl := Except.ok.inj hb
      rw [hdone] at hwait
      cases hwait
  | failed e =>
    constructor
    · intro hr
      cases hr
    · rintro ⟨-, hall⟩
      obtain ⟨b, hb, -⟩ := hall _ List.mem_cons_self
      cases hb
  | waited hwait _ ih =>
    rw [ih, List.length_cons, List.forall_mem_cons, Nat.add_right_cancel_iff]
    exact and_congr_right fun _ => (and_iff_right ⟨_, rfl, hwait⟩).symm

end Polled

/-! ## The loop -/

namespace Fallible

/-- **A polling loop**: up to `n` attempts of `x`, ending at the first that is `done`.
Returns whether there was one. -/
def poll (x : Fallible Reply ε α) (done : α → Bool) : Nat → Fallible Reply ε Bool
  | 0 => pure false
  | n + 1 => do
    let a ← x
    if done a then
      pure true
    else
      poll x done n

variable {x : Fallible Reply ε α} {done : α → Bool} {G : Guard Reply ε}

/-- **Rule for polling loops**, with an invariant `I` of the values read so far. -/
theorem heeds_poll {I : List α → List (Event Reply ε) → Prop} (n : Nat)
    (hx : ∀ as past, as.length < n → (∀ a ∈ as, done a = false) → I as past →
      x.Heeds G past fun l a => I (as ++ [a]) l)
    {past : List (Event Reply ε)} (hI : I [] past) :
    (poll x done n).Heeds G past fun l b =>
      ∃ as, (∀ a ∈ as, done a = false) ∧
        if b then as.length < n ∧ ∃ a, done a = true ∧ I (as ++ [a]) l
        else as.length = n ∧ I as l := by
  -- the loop with `k` attempts left, after the values `as`
  have hloop : ∀ k as past, as.length + k = n → (∀ a ∈ as, done a = false) → I as past →
      (poll x done k).Heeds G past fun l b =>
        ∃ as, (∀ a ∈ as, done a = false) ∧
          if b then as.length < n ∧ ∃ a, done a = true ∧ I (as ++ [a]) l
          else as.length = n ∧ I as l := by
    intro k
    induction k with
    | zero => exact fun as past hlen hwait hI => heeds_pure ⟨as, hwait, hlen, hI⟩
    | succ k ih =>
      intro as past hlen hwait hI
      have hlt : as.length < n := by omega
      refine (hx as past hlt hwait hI).bind fun l a hI' => ?_
      cases hdone : done a with
      | true => exact heeds_pure ⟨as, hwait, hlt, a, hdone, hI'⟩
      | false =>
        refine ih (as ++ [a]) l ?_ ?_ hI'
        · rw [List.length_append, List.length_singleton]
          omega
        · intro b hb
          rcases List.mem_append.mp hb with hb | hb
          · exact hwait b hb
          · rwa [List.mem_singleton.mp hb]
  exact hloop n [] past (Nat.zero_add n) nofun hI

/-- A loop that polls with single requests: its events are its attempts. -/
theorem heeds_poll_request {q : Req} {done : Reply q → Bool} (n : Nat)
    (past : List (Event Reply ε)) :
    (poll (request q : Fallible Reply ε _) done n).run.Heeds (fun _ _ => True)
      (fun l r => ∃ as, l = past ++ as.map (Event.mk q) ∧ Polled done n as r) past := by
  induction n generalizing past with
  | zero => exact ⟨[], (List.append_nil past).symm, .exhausted⟩
  | succ n ih =>
    refine ⟨trivial, fun r => ?_⟩
    cases r with
    | error e => exact ⟨[.error e], rfl, .failed e⟩
    | ok v =>
      show (if done v then pure true else poll (request q) done n :
        Fallible Reply ε Bool).run.Heeds _ _ _
      cases hdone : done v with
      | true => exact ⟨[.ok v], rfl, .stopped hdone⟩
      | false =>
        refine (ih _).mono ?_
        rintro l r ⟨as, rfl, hpolled⟩
        exact ⟨.ok v :: as, by simp, .waited hdone hpolled⟩

/-- One attempt, and the loop goes on according to it. -/
theorem poll_succ_run (x : Fallible Reply ε α) (done : α → Bool) (n : Nat) :
    (poll x done (n + 1)).run = x.run.bind fun r => match r with
      | .ok a => (if done a then pure true else poll x done n : Fallible Reply ε Bool).run
      | .error e => .done (.error e) := Fallible.run_bind x _

/-- **A bound that has sufficed is as good as any larger one.** -/
theorem run_poll_mono {h : Handler Reply ε σ} {n m : Nat} (hnm : n ≤ m) {s : σ}
    (hend : ((poll x done n).run.run h s).value ≠ .ok false) :
    (poll x done m).run.run h s = (poll x done n).run.run h s := by
  induction n generalizing m s with
  | zero => exact absurd rfl hend
  | succ n ih =>
    obtain ⟨m, rfl⟩ := Nat.exists_eq_add_of_le' (Nat.one_le_of_lt hnm)
    rw [poll_succ_run, Program.run_bind] at hend
    rw [poll_succ_run, poll_succ_run, Program.run_bind, Program.run_bind]
    cases hr : (x.run.run h s).value with
    | error e => rfl
    | ok a =>
      rw [hr] at hend
      cases hdone : done a with
      | true => simp only [hdone, if_true]
      | false =>
        simp only [hdone, Bool.false_eq_true, if_false] at hend ⊢
        rw [ih (Nat.le_of_succ_le_succ hnm) hend]

end Fallible
end Interaction
