import EthPhy.Device

/-!
# Runs without faults

`D.reliable` is the device `D` behind a bus that never fails.  A fault-free run on
a bus that conforms to `D` is a run against `D.reliable` (`Ensures.run_faultFree`),
so what a program does when nothing fails is specified against it, with rules that
have no case for an error.
-/

namespace Interaction

variable {Req : Type} {Reply : Req → Type} {ε S E α β σ τ : Type}

/-- The device behind a bus that never fails. -/
def Device.reliable (D : Device Reply ε σ) : Device Reply ε σ :=
  fun s q r t => D s q r t ∧ ∃ v, r = .ok v

namespace Program

variable {D : Device Reply ε σ}

/-- What a program ensures, it ensures when nothing fails. -/
theorem Ensures.reliable {p : Program Reply ε α} {s : σ}
    {Q : List (Exchange Reply ε σ) → α → σ → Prop} (h : p.Ensures D s Q) :
    p.Ensures D.reliable s Q := h.anti fun _ _ _ _ hr => hr.1

/-- **A run in which nothing failed is a run against the reliable device.** -/
theorem Ensures.run_faultFree {h : Handler Reply ε σ} {D : Device Reply ε τ} {view : σ → τ}
    (hD : h.Conforms D view) {p : Program Reply ε α} {s : σ}
    {Q : List (Exchange Reply ε τ) → α → τ → Prop} (hp : p.Ensures D.reliable (view s) Q)
    (hff : (p.run h s).FaultFree) :
    let o := (p.run h s).map view
    Q o.trace o.value o.state := by
  induction p generalizing s Q with
  | done a => exact hp
  | call q k ih =>
    have hnone := hff _ (List.mem_cons_self)
    have hok : ∃ v, (h q s).1 = .ok v := by
      cases hr : (h q s).1 with
      | ok v => exact ⟨v, rfl⟩
      | error e =>
        rw [hr] at hnone
        cases hnone
    exact ih _ (hp _ _ ⟨hD q s, hok⟩) fun x hx => hff x (List.mem_cons_of_mem _ hx)

/-- On a bus that never fails, every run is fault-free. -/
theorem run_faultFree_of_reliable {h : Handler Reply ε σ}
    (hh : ∀ q s, ∃ v, (h q s).1 = .ok v) (p : Program Reply ε α) (s : σ) :
    (p.run h s).FaultFree := by
  induction p generalizing s with
  | done a => exact fun x hx => absurd hx List.not_mem_nil
  | call q k ih =>
    obtain ⟨v, hv⟩ := hh q s
    intro x hx
    rcases List.mem_cons.mp hx with rfl | hx
    · rw [Exchange.fault, hv]
    · exact ih _ _ x hx

end Program

namespace Fallible

variable {D : Device Reply ε σ} {s : σ}

theorem reliable_request {q : Req} {Q : List (Exchange Reply ε σ) → Except ε (Reply q) → σ → Prop}
    (h : ∀ v t, D s q (.ok v) t → Q [⟨s, q, .ok v, t⟩] (.ok v) t) :
    (request q).run.Ensures D.reliable s Q := by
  rintro r t ⟨hr, v, rfl⟩
  exact h v t hr

theorem reliable_request_bind {q : Req} {f : Reply q → Fallible Reply ε β}
    {Q : List (Exchange Reply ε σ) → Except ε β → σ → Prop}
    (h : ∀ v t, D s q (.ok v) t →
      (f v).run.Ensures D.reliable t fun l => Q (⟨s, q, .ok v, t⟩ :: l)) :
    (request q >>= f).run.Ensures D.reliable s Q := by
  rintro r t ⟨hr, v, rfl⟩
  exact h v t hr

/-- The rule of the `?` operator when nothing fails. -/
theorem reliable_bind {x : Fallible Reply ε α} {f : α → Fallible Reply ε β}
    {P : List (Exchange Reply ε σ) → α → σ → Prop}
    {Q : List (Exchange Reply ε σ) → Except ε β → σ → Prop}
    (hx : x.run.Ensures D.reliable s fun l r t => ∃ a, r = .ok a ∧ P l a t)
    (hf : ∀ l a t, P l a t → (f a).run.Ensures D.reliable t fun l' => Q (l ++ l')) :
    (x >>= f).run.Ensures D.reliable s Q := by
  refine ensures_bind hx ?_ ?_
  · rintro l a t ⟨b, hb, hP⟩
    obtain rfl := Except.ok.inj hb
    exact hf l a t hP
  · rintro l e t ⟨a, ha, -⟩
    cases ha

end Fallible

namespace Method

variable {D : Device Reply ε σ} {c : σ} {s : S} {wrap : ε → E}

/-- A helper function is called last, when nothing fails. -/
theorem reliable_lift {x : Fallible Reply ε α}
    {P : List (Exchange Reply ε σ) → α → σ → Prop}
    {Q : List (Exchange Reply ε σ) → Except E α × S → σ → Prop}
    (hx : x.run.Ensures D.reliable c fun l r t => ∃ a, r = .ok a ∧ P l a t)
    (hf : ∀ l a t, P l a t → Q l (.ok a, s) t) :
    ((lift wrap x : Method Reply ε S E α).on s).Ensures D.reliable c Q := by
  refine ensures_lift hx ?_ ?_
  · rintro l a t ⟨b, hb, hP⟩
    obtain rfl := Except.ok.inj hb
    exact hf l a t hP
  · rintro l e t ⟨a, ha, -⟩
    cases ha

/-- The rule of `map_err(wrap)?` when nothing fails. -/
theorem reliable_lift_bind {x : Fallible Reply ε α} {f : α → Method Reply ε S E β}
    {P : List (Exchange Reply ε σ) → α → σ → Prop}
    {Q : List (Exchange Reply ε σ) → Except E β × S → σ → Prop}
    (hx : x.run.Ensures D.reliable c fun l r t => ∃ a, r = .ok a ∧ P l a t)
    (hf : ∀ l a t, P l a t → ((f a).on s).Ensures D.reliable t fun l' => Q (l ++ l')) :
    ((lift wrap x >>= f).on s).Ensures D.reliable c Q := by
  refine ensures_lift_bind hx ?_ ?_
  · rintro l a t ⟨b, hb, hP⟩
    obtain rfl := Except.ok.inj hb
    exact hf l a t hP
  · rintro l e t ⟨a, ha, -⟩
    cases ha

end Method
end Interaction
