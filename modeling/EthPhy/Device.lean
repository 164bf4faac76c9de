import EthPhy.Program

/-!
# Devices, and what every run of a program ensures

A `Device` says which replies a device may give to a request, and which states
it may be in afterwards.  It is a relation: a device that may raise a status bit
whenever it likes, or a bus that may lose any request, is one `Device`.

`p.Ensures D s Q` means that however the device `D` behaves from state `s`, the
program `p` ends with an exchange list, a value and a device state that satisfy
`Q`.  `Ensures` is the weakest precondition of `Q`, computed on the program, and
the rules below follow the ways programs are put together.

`Handler.Conforms` connects the two halves: a bus conforms to a device when,
through some view of its own state, every answer it gives is one the device may
give.  Whatever a program ensures against the device then holds of its run on
the bus (`Program.Ensures.run`).
-/

namespace Interaction

variable {Req : Type} {Reply : Req → Type} {ε S E α β σ τ : Type}

/-- **A device**: the replies it may give in a state, and the states it may be
in afterwards. -/
abbrev Device (Reply : Req → Type) (ε σ : Type) : Type :=
  σ → (q : Req) → Except ε (Reply q) → σ → Prop

namespace Device

/-- What a request that succeeds does, with a bus on which any request may fail.
Between two requests the device may move on its own, as `idle` allows.  A request
that fails has had no effect; on an `ambiguous` bus it may have had its effect
all the same. -/
def faulty (ambiguous : Prop) (idle : σ → σ → Prop)
    (effect : σ → (q : Req) → Reply q → σ → Prop) : Device Reply ε σ :=
  fun s q r t => match r with
    | .ok v => effect s q v t
    | .error _ => idle s t ∨ (ambiguous ∧ ∃ v, effect s q v t)

end Device

namespace Program

/-- **Every run of the program from `s` ends in `Q`**, a condition on the
exchanges, the returned value and the final state. -/
def Ensures (D : Device Reply ε σ) :
    Program Reply ε α → σ → (List (Exchange Reply ε σ) → α → σ → Prop) → Prop
  | done a, s, Q => Q [] a s
  | call q k, s, Q =>
      ∀ r t, D s q r t → (k r).Ensures D t (fun l a u => Q (⟨s, q, r, t⟩ :: l) a u)

variable {D : Device Reply ε σ} {P Q : List (Exchange Reply ε σ) → α → σ → Prop}

@[simp] theorem ensures_done (a : α) (s : σ) : (done a).Ensures D s Q ↔ Q [] a s := Iff.rfl

theorem ensures_call (q : Req) (k : Except ε (Reply q) → Program Reply ε α) (s : σ) :
    (call q k).Ensures D s Q ↔
      ∀ r t, D s q r t → (k r).Ensures D t (fun l a u => Q (⟨s, q, r, t⟩ :: l) a u) := Iff.rfl

theorem Ensures.mono {p : Program Reply ε α} {s : σ} (h : p.Ensures D s P)
    (hPQ : ∀ l a t, P l a t → Q l a t) : p.Ensures D s Q := by
  induction p generalizing s P Q with
  | done a => exact hPQ [] a s h
  | call q k ih => exact fun r t hr => ih r (h r t hr) (fun l a u => hPQ _ a u)

/-- What always holds is ensured. -/
theorem ensures_of_forall (p : Program Reply ε α) (s : σ) (h : ∀ l a t, Q l a t) :
    p.Ensures D s Q := by
  induction p generalizing s Q with
  | done a => exact h [] a s
  | call q k ih => exact fun r t _ => ih r t fun l a u => h _ a u

theorem Ensures.and {p : Program Reply ε α} {s : σ} (hP : p.Ensures D s P)
    (hQ : p.Ensures D s Q) : p.Ensures D s (fun l a t => P l a t ∧ Q l a t) := by
  induction p generalizing s P Q with
  | done a => exact ⟨hP, hQ⟩
  | call q k ih => exact fun r t hr => ih r (hP r t hr) (hQ r t hr)

/-- A device with fewer behaviours ensures at least as much. -/
theorem Ensures.anti {D' : Device Reply ε σ} {p : Program Reply ε α} {s : σ}
    (h : p.Ensures D s Q) (hD : ∀ s q r t, D' s q r t → D s q r t) : p.Ensures D' s Q := by
  induction p generalizing s Q with
  | done a => exact h
  | call q k ih => exact fun r t hr => ih r (h r t (hD s q r t hr))

theorem ensures_bind (p : Program Reply ε α) (f : α → Program Reply ε β) (s : σ)
    {Q : List (Exchange Reply ε σ) → β → σ → Prop} :
    (p.bind f).Ensures D s Q ↔
      p.Ensures D s (fun l a t => (f a).Ensures D t (fun l' => Q (l ++ l'))) := by
  induction p generalizing s Q with
  | done a => rfl
  | call q k ih =>
    simp only [call_bind, ensures_call, ih]
    rfl

/-- What a program ensures against a device it ensures against one that does more,
seen through `view`. -/
theorem Ensures.pull {D : Device Reply ε τ} {D' : Device Reply ε σ} {view : σ → τ}
    (hD : ∀ s q r t, D' s q r t → D (view s) q r (view t)) {p : Program Reply ε α} {s : σ}
    {Q : List (Exchange Reply ε τ) → α → τ → Prop} (h : p.Ensures D (view s) Q) :
    p.Ensures D' s fun l a t => Q (l.map (Exchange.map view)) a (view t) := by
  induction p generalizing s Q with
  | done a => exact h
  | call q k ih => exact fun r t hr => ih r (h r (view t) (hD s q r t hr))

/-- Renaming the value of a program renames it in what the program ensures. -/
theorem ensures_map (p : Program Reply ε α) (g : α → β) (s : σ)
    {Q : List (Exchange Reply ε σ) → β → σ → Prop} :
    (p.bind fun a => .done (g a)).Ensures D s Q ↔ p.Ensures D s (fun l a t => Q l (g a) t) := by
  rw [ensures_bind]
  simp only [ensures_done, List.append_nil]

end Program

/-! ## Rules for helper functions -/

namespace Fallible

variable {D : Device Reply ε σ} {s : σ}

theorem ensures_request {q : Req} {Q : List (Exchange Reply ε σ) → Except ε (Reply q) → σ → Prop}
    (h : ∀ r t, D s q r t → Q [⟨s, q, r, t⟩] r t) : (request q).run.Ensures D s Q := h

theorem ensures_pure {a : α} {Q : List (Exchange Reply ε σ) → Except ε α → σ → Prop}
    (h : Q [] (.ok a) s) : (pure a : Fallible Reply ε α).run.Ensures D s Q := h

/-- **Rule of the `?` operator**: an error ends the function, a value goes on to
the rest of it. -/
theorem ensures_bind {x : Fallible Reply ε α} {f : α → Fallible Reply ε β}
    {P : List (Exchange Reply ε σ) → Except ε α → σ → Prop}
    {Q : List (Exchange Reply ε σ) → Except ε β → σ → Prop} (hx : x.run.Ensures D s P)
    (hok : ∀ l a t, P l (.ok a) t → (f a).run.Ensures D t (fun l' => Q (l ++ l')))
    (herr : ∀ l e t, P l (.error e) t → Q l (.error e) t) :
    (x >>= f).run.Ensures D s Q := by
  refine (Program.ensures_bind x.run _ s).mpr (hx.mono ?_)
  intro l r t hP
  cases r with
  | ok a => exact hok l a t hP
  | error e =>
    show Q (l ++ []) (.error e) t
    rw [List.append_nil]
    exact herr l e t hP

/-- The rule of the `?` operator for a single request. -/
theorem ensures_request_bind {q : Req} {f : Reply q → Fallible Reply ε β}
    {Q : List (Exchange Reply ε σ) → Except ε β → σ → Prop}
    (hok : ∀ v t, D s q (.ok v) t →
      (f v).run.Ensures D t (fun l => Q (⟨s, q, .ok v, t⟩ :: l)))
    (herr : ∀ e t, D s q (.error e) t → Q [⟨s, q, .error e, t⟩] (.error e) t) :
    (request q >>= f).run.Ensures D s Q := by
  intro r t hr
  cases r with
  | ok v => exact hok v t hr
  | error e => exact herr e t hr

end Fallible

/-! ## Rules for methods -/

namespace Method

variable {D : Device Reply ε σ} {c : σ} {s : S} {wrap : ε → E}

theorem ensures_lift {x : Fallible Reply ε α}
    {P : List (Exchange Reply ε σ) → Except ε α → σ → Prop}
    {Q : List (Exchange Reply ε σ) → Except E α × S → σ → Prop} (hx : x.run.Ensures D c P)
    (hok : ∀ l a t, P l (.ok a) t → Q l (.ok a, s) t)
    (herr : ∀ l e t, P l (.error e) t → Q l (.error (wrap e), s) t) :
    ((lift wrap x : Method Reply ε S E α).on s).Ensures D c Q := by
  refine (Program.ensures_bind x.run _ c).mpr (hx.mono ?_)
  intro l r t hP
  cases r with
  | ok a => simpa [Except.mapError] using hok l a t hP
  | error e => simpa [Except.mapError] using herr l e t hP

/-- **Rule of `map_err(wrap)?`**: a method calls a helper function, which leaves
the method's object alone. -/
theorem ensures_lift_bind {x : Fallible Reply ε α} {f : α → Method Reply ε S E β}
    {P : List (Exchange Reply ε σ) → Except ε α → σ → Prop}
    {Q : List (Exchange Reply ε σ) → Except E β × S → σ → Prop} (hx : x.run.Ensures D c P)
    (hok : ∀ l a t, P l (.ok a) t → ((f a).on s).Ensures D t (fun l' => Q (l ++ l')))
    (herr : ∀ l e t, P l (.error e) t → Q l (.error (wrap e), s) t) :
    ((lift wrap x >>= f).on s).Ensures D c Q := by
  rw [bind_on, Program.ensures_bind]
  refine ensures_lift hx hok ?_
  intro l e t hP
  simpa using herr l e t hP

end Method

/-! ## Buses that conform to a device -/

/-- Every answer of the bus is one the device may give, seen through `view`. -/
def Handler.Conforms (h : Handler Reply ε σ) (D : Device Reply ε τ) (view : σ → τ) : Prop :=
  ∀ q s, D (view s) q (h q s).1 (view (h q s).2)

/-- **What a program ensures against a device holds of its run on every bus that
conforms to the device.** -/
theorem Program.Ensures.run {h : Handler Reply ε σ} {D : Device Reply ε τ} {view : σ → τ}
    (hD : h.Conforms D view) {p : Program Reply ε α} {s : σ}
    {Q : List (Exchange Reply ε τ) → α → τ → Prop} (hp : p.Ensures D (view s) Q) :
    let o := (p.run h s).map view
    Q o.trace o.value o.state := by
  induction p generalizing s Q with
  | done a => exact hp
  | call q k ih => exact ih _ (hp _ _ (hD q s))

/-- A bus in front of `h` that loses the requests a script names; when the script is
used up, it loses none. -/
def Handler.lossy (h : Handler Reply ε σ) : Handler Reply ε (σ × List (Option ε))
  | _, (s, some e :: script) => (.error e, (s, script))
  | q, (s, script) => ((h q s).1, ((h q s).2, script.tail))

/-- Losing requests is no new behaviour of a device that may lose them. -/
theorem Handler.Conforms.lossy {h : Handler Reply ε σ} {D : Device Reply ε τ} {view : σ → τ}
    (hD : h.Conforms D view) (hlost : ∀ (q : Req) s (e : ε), D (view s) q (.error e) (view s)) :
    h.lossy.Conforms D (view ∘ Prod.fst) := by
  rintro q ⟨s, script⟩
  cases script with
  | nil => exact hD q s
  | cons fate script =>
    cases fate with
    | none => exact hD q s
    | some e => exact hlost q s e

end Interaction
