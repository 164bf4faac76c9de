import EthPhy.Polling

/-!
# How many requests a program issues

`p.Takes Q`: however its requests are answered, the program issues `n` of them and
returns a value `a` with `Q n a`.  A helper function that stops at the first failure
takes between `m` and `n` requests when it succeeds, and at most `n`, but at least the
one that failed, when it does not (`Fallible.Takes`).
-/

namespace Interaction

variable {Req : Type} {Reply : Req → Type} {ε S E α β σ : Type}

namespace Program

/-- **The program issues `n` requests and returns `a`, with `Q n a`.** -/
def Takes : Program Reply ε α → (Nat → α → Prop) → Prop
  | done a, Q => Q 0 a
  | call _ k, Q => ∀ r, (k r).Takes fun n a => Q (n + 1) a

variable {P Q : Nat → α → Prop} {R : Nat → β → Prop} {p : Program Reply ε α}

theorem Takes.mono (hp : p.Takes P) (h : ∀ n a, P n a → Q n a) : p.Takes Q := by
  induction p generalizing P Q with
  | done a => exact h 0 a hp
  | call q k ih => exact fun r => ih r (hp r) fun n a => h (n + 1) a

theorem Takes.bind {f : α → Program Reply ε β} (hp : p.Takes P)
    (hf : ∀ n a, P n a → (f a).Takes fun m b => R (n + m) b) : (p.bind f).Takes R := by
  induction p generalizing P R with
  | done a =>
    refine (hf 0 a hp).mono fun m b hR => ?_
    rwa [Nat.zero_add] at hR
  | call q k ih =>
    refine fun r => ih r (hp r) fun n a hP => (hf (n + 1) a hP).mono fun m b hR => ?_
    rwa [Nat.add_right_comm] at hR

/-- **Every run has that many exchanges.** -/
theorem Takes.run (hp : p.Takes Q) (h : Handler Reply ε σ) (s : σ) :
    Q (p.run h s).trace.length (p.run h s).value := by
  induction p generalizing s Q with
  | done a => exact hp
  | call q k ih => exact ih _ (hp _) _

/-- The program issues at most `n` requests. -/
def Within (n : Nat) (p : Program Reply ε α) : Prop := p.Takes fun k _ => k ≤ n

theorem within_done (n : Nat) (a : α) : (done a : Program Reply ε α).Within n := Nat.zero_le n

/-- Against every device the program issues that many requests. -/
theorem Takes.ensures (hp : p.Takes Q) (D : Device Reply ε σ) (s : σ) :
    p.Ensures D s fun l a _ => Q l.length a := by
  induction p generalizing s Q with
  | done a => exact hp
  | call q k ih => exact fun r t _ => ih r (hp r) t

end Program

/-! ## Helper functions and methods -/

namespace Fallible

/-- A helper function takes between `m` and `n` requests when it succeeds, and between
one and `n` when it fails. -/
def Takes (m n : Nat) (x : Fallible Reply ε α) : Prop :=
  x.run.Takes fun k r => match r with
    | .ok _ => m ≤ k ∧ k ≤ n
    | .error _ => 1 ≤ k ∧ k ≤ n

variable {x : Fallible Reply ε α} {m n m' n' : Nat}

theorem takes_pure (a : α) : (pure a : Fallible Reply ε α).Takes 0 0 :=
  ⟨Nat.le_refl 0, Nat.le_refl 0⟩

theorem takes_request (q : Req) : (request q : Fallible Reply ε (Reply q)).Takes 1 1 := by
  intro r
  cases r <;> exact ⟨Nat.le_refl 1, Nat.le_refl 1⟩

theorem Takes.mono (hx : x.Takes m n) (hm : m' ≤ m) (hn : n ≤ n') : x.Takes m' n' := by
  refine Program.Takes.mono hx fun k r hk => ?_
  cases r with
  | ok a =>
    obtain ⟨hlo, hhi⟩ := hk
    exact ⟨by omega, by omega⟩
  | error e =>
    obtain ⟨hlo, hhi⟩ := hk
    exact ⟨hlo, by omega⟩

/-- **Rule of the `?` operator.** -/
theorem Takes.bind {f : α → Fallible Reply ε β} (hx : x.Takes m n)
    (hf : ∀ a, (f a).Takes m' n') : (x >>= f).Takes (m + m') (n + n') := by
  refine Program.Takes.bind hx fun k r hk => ?_
  cases r with
  | error e =>
    obtain ⟨hlo, hhi⟩ := hk
    exact ⟨hlo, by omega⟩
  | ok a =>
    obtain ⟨hlo, hhi⟩ := hk
    refine Program.Takes.mono (hf a) fun k' r hk' => ?_
    cases r with
    | ok b =>
      obtain ⟨hlo', hhi'⟩ := hk'
      exact ⟨by omega, by omega⟩
    | error e =>
      obtain ⟨hlo', hhi'⟩ := hk'
      exact ⟨by omega, by omega⟩

/-- A polling loop takes what its attempts take. -/
theorem Takes.poll (hx : x.Takes m n) (done : α → Bool) (k : Nat) :
    (poll x done k).Takes 0 (k * n) := by
  induction k with
  | zero => exact (takes_pure false).mono (Nat.le_refl 0) (Nat.zero_le _)
  | succ k ih =>
    have hrest : n + k * n ≤ (k + 1) * n := by
      simp [Nat.succ_mul, Nat.add_comm]
    refine Takes.mono (m := m + 0) (hx.bind fun a => ?_) (Nat.zero_le _) hrest
    split
    · exact (takes_pure true).mono (Nat.le_refl 0) (Nat.zero_le _)
    · exact ih

end Fallible

namespace Method

variable {s : S} {wrap : ε → E} {n n' : Nat}

/-- **Rule of `map_err(wrap)?`.** -/
theorem within_lift_bind {x : Fallible Reply ε α} {f : α → Method Reply ε S E β}
    (hx : x.Takes n' n) {k : Nat} (hf : ∀ a, ((f a).on s).Within k) :
    ((lift wrap x >>= f : Method Reply ε S E β).on s).Within (n + k) := by
  rw [bind_on]
  refine Program.Takes.bind (Program.Takes.bind
    (R := fun i (r : Except E α × S) => i ≤ n ∧ r.2 = s) hx ?_) ?_
  · intro i r hi
    cases r with
    | ok a => exact ⟨hi.2, rfl⟩
    | error e => exact ⟨hi.2, rfl⟩
  · rintro i ⟨e | a, s'⟩ ⟨hi, rfl⟩
    · exact Nat.le_trans hi (Nat.le_add_right n k)
    · exact (hf a).mono fun j _ hj => Nat.add_le_add hi hj

end Method
end Interaction
