import EthPhy.Clients
import EthPhy.Plan
import EthPhy.Requests

/-!
# Programs over an interface, and its implementation

An interface offers requests; an implementation makes each of them by a helper function
over another interface, the way a register that is not on the bus is reached through ones
that are.  `p.lowering impl` is the program `p` with every request so made.

The implementation is right when, however the device below behaves, each helper function
does what a device above might have done on its own (`Implements`).  Then every run of a
lowered program is a run of the program itself (`Implements.lowering`): with the same
value and the same faults, and at every moment in a state the run above goes through.
-/

namespace Interaction

variable {Req Req' : Type} {Reply : Req → Type} {Reply' : Req' → Type}
  {ε S E α β γ σ τ C A : Type}

namespace Program

/-! ## Runs against a device -/

/-- **A run** of a program against a device: the exchanges it makes from a state, the value
it returns and the state it ends in. -/
inductive Runs (D : Device Reply ε σ) :
    Program Reply ε α → σ → List (Exchange Reply ε σ) → α → σ → Prop
  | done (a : α) (s : σ) : Runs D (.done a) s [] a s
  | call {q : Req} {k : Except ε (Reply q) → Program Reply ε α} {s t u : σ}
    {r : Except ε (Reply q)} {l : List (Exchange Reply ε σ)} {a : α} (step : D s q r t)
    (rest : Runs D (k r) t l a u) : Runs D (.call q k) s (⟨s, q, r, t⟩ :: l) a u

/-- A run ends in the last of the states it goes through. -/
theorem Runs.ends {D : Device Reply ε σ} {p : Program Reply ε α} {s t : σ}
    {l : List (Exchange Reply ε σ)} {a : α} (h : p.Runs D s l a t) :
    (l.map Exchange.post).getLastD s = t := by
  induction h with
  | done a s => rfl
  | call step rest ih => rwa [List.map_cons, List.getLastD_cons]

/-! ## Lowering -/

theorem bind_done (p : Program Reply ε α) : p.bind .done = p := by
  induction p with
  | done a => rfl
  | call q k ih => exact congrArg (Program.call q) (funext ih)

theorem bind_assoc (p : Program Reply ε α) (f : α → Program Reply ε β)
    (g : β → Program Reply ε γ) : (p.bind f).bind g = p.bind fun a => (f a).bind g := by
  induction p with
  | done a => rfl
  | call q k ih => exact congrArg (Program.call q) (funext ih)

variable {impl : (q : Req) → Fallible Reply' ε (Reply q)}

/-- **The program with every request made as `impl` has it.** -/
def lowering (impl : (q : Req) → Fallible Reply' ε (Reply q)) :
    Program Reply ε α → Program Reply' ε α
  | done a => done a
  | call q k => (impl q).run.bind fun r => (k r).lowering impl

theorem bind_lowering (p : Program Reply ε α) (f : α → Program Reply ε β) :
    (p.bind f).lowering impl = (p.lowering impl).bind fun a => (f a).lowering impl := by
  induction p with
  | done a => rfl
  | call q k ih => simp only [call_bind, lowering, ih, bind_assoc]

/-- A client of an object with lowered operations is a lowered client. -/
theorem calling_lowering {op : C → S → Program Reply ε (A × S)}
    {op' : C → S → Program Reply' ε (A × S)} (hop : ∀ c o, op' c o = (op c o).lowering impl)
    (p : Client C A α) (o : S) : p.calling op' o = (p.calling op o).lowering impl := by
  induction p generalizing o with
  | done a => rfl
  | call c k ih => simp only [calling, hop, ih, bind_lowering]

end Program

/-! ## Helper functions and methods that are lowered -/

variable {impl : (q : Req) → Fallible Reply' ε (Reply q)}

namespace Fallible

/-- `y` is `x`, lowered. -/
def LowersTo (impl : (q : Req) → Fallible Reply' ε (Reply q)) (x : Fallible Reply ε α)
    (y : Fallible Reply' ε α) : Prop := y.run = x.run.lowering impl

theorem lowersTo_pure (a : α) :
    (pure a : Fallible Reply ε α).LowersTo impl (pure a) := rfl

theorem lowersTo_request (q : Req) : (request q).LowersTo impl (impl q) :=
  (Program.bind_done (impl q).run).symm

theorem LowersTo.bind {x : Fallible Reply ε α} {y : Fallible Reply' ε α}
    {f : α → Fallible Reply ε β} {g : α → Fallible Reply' ε β} (hx : x.LowersTo impl y)
    (hf : ∀ a, (f a).LowersTo impl (g a)) : (x >>= f).LowersTo impl (y >>= g) := by
  unfold LowersTo at hx ⊢
  rw [run_bind, run_bind, hx, Program.bind_lowering]
  refine congrArg _ (funext fun r => ?_)
  cases r with
  | ok a => exact hf a
  | error e => rfl

theorem LowersTo.ite {c : Prop} [Decidable c] {x x' : Fallible Reply ε α}
    {y y' : Fallible Reply' ε α} (hx : x.LowersTo impl y) (hx' : x'.LowersTo impl y') :
    (if c then x else x').LowersTo impl (if c then y else y') := by
  split
  · exact hx
  · exact hx'

end Fallible

namespace Method

/-- `n` is `m`, lowered. -/
def LowersTo (impl : (q : Req) → Fallible Reply' ε (Reply q)) (m : Method Reply ε S E α)
    (n : Method Reply' ε S E α) : Prop := ∀ s, n.on s = (m.on s).lowering impl

theorem lowersTo_pure (a : α) :
    (pure a : Method Reply ε S E α).LowersTo impl (pure a) := fun _ => rfl

theorem lowersTo_throw (e : E) :
    (throw e : Method Reply ε S E α).LowersTo impl (throw e) := fun _ => rfl

theorem lowersTo_throw_bind (e : E) (f : β → Method Reply ε S E α)
    (g : β → Method Reply' ε S E α) :
    ((throw e : Method Reply ε S E β) >>= f).LowersTo impl (throw e >>= g) := fun _ => rfl

theorem lowersTo_get : (get : Method Reply ε S E S).LowersTo impl get := fun _ => rfl

theorem lowersTo_modify (f : S → S) :
    (modify f : Method Reply ε S E PUnit).LowersTo impl (modify f) := fun _ => rfl

theorem LowersTo.bind {m : Method Reply ε S E α} {n : Method Reply' ε S E α}
    {f : α → Method Reply ε S E β} {g : α → Method Reply' ε S E β} (hm : m.LowersTo impl n)
    (hf : ∀ a, (f a).LowersTo impl (g a)) : (m >>= f).LowersTo impl (n >>= g) := by
  intro s
  rw [bind_on, bind_on, hm s, Program.bind_lowering]
  refine congrArg _ (funext fun r => ?_)
  rcases r with ⟨e | a, t⟩
  · rfl
  · exact hf a t

theorem LowersTo.ite {c : Prop} [Decidable c] {m m' : Method Reply ε S E α}
    {n n' : Method Reply' ε S E α} (hm : m.LowersTo impl n) (hm' : m'.LowersTo impl n') :
    (if c then m else m').LowersTo impl (if c then n else n') := by
  split
  · exact hm
  · exact hm'

theorem LowersTo.lift {x : Fallible Reply ε α} {y : Fallible Reply' ε α}
    (hx : x.LowersTo impl y) (wrap : ε → E) :
    (lift wrap x : Method Reply ε S E α).LowersTo impl (lift wrap y) := by
  intro s
  show y.run.bind _ = (x.run.bind _).lowering impl
  rw [Program.bind_lowering, ← show y.run = x.run.lowering impl from hx]
  rfl

end Method

/-! ## Right implementations -/

section Implements

variable {R : σ → τ → Prop} {s : σ} {t : τ} {l : List (Exchange Reply' ε τ)}

/-- A program stays in a place if none of the requests it can issue leaves it. -/
theorem Program.Uses.along {P : Req' → Prop} {Q : α → Prop} {D' : Device Reply' ε τ}
    {p : Program Reply' ε α} (hp : p.Uses P Q)
    (hstay : ∀ t q r u, P q → D' t q r u → R s t → R s u) (ht : R s t) :
    p.Ensures D' t fun l _ u => Along R s [] l u := by
  induction p generalizing t with
  | done a => exact Along.nil ht
  | call q k ih =>
    intro r u hr
    have hu := hstay t q r u hp.1 hr ht
    exact (ih r (hp.2 r) hu).mono fun l a v h => (Along.stay ht hu).append h

/-- A stay is a step to where one is. -/
theorem Along.idle (h : Along R s [] l t) : Along R s [s] l t := by
  refine ⟨h.ends, fun x hx => ?_⟩
  obtain ⟨g, k, hgk, hg, hk⟩ := h.moves x hx
  refine ⟨g, k, .inl ?_, hg, hk⟩
  rcases hgk with ⟨hmem, heq⟩ | hinfix
  · exact ⟨List.mem_cons_of_mem s hmem, heq⟩
  · have hlen := hinfix.length_le
    simp at hlen

/-- **The implementation is right**: whatever the device `D'` does, each of its helper
functions does what the device `D` might, in states that `R` relates; it fails exactly when
one of its own requests does. -/
def Implements (impl : (q : Req) → Fallible Reply' ε (Reply q)) (D : Device Reply ε σ)
    (D' : Device Reply' ε τ) (R : σ → τ → Prop) : Prop :=
  ∀ q s t, R s t → (impl q).run.Ensures D' t fun l r t' =>
    faults l = (reported some r).toList ∧ ∃ s', D s q r s' ∧ Along R s [s'] l t'

/-- **Every run of a lowered program is a run of the program**, with the same value and
the same faults, and at every moment in a state that run goes through. -/
theorem Implements.lowering {D : Device Reply ε σ} {D' : Device Reply' ε τ}
    (h : Implements impl D D' R) (p : Program Reply ε α) (hst : R s t) :
    (p.lowering impl).Ensures D' t fun l' a t' => ∃ l s', p.Runs D s l a s' ∧
      faults l' = faults l ∧ Along R s (l.map Exchange.post) l' t' := by
  induction p generalizing s t with
  | done a => exact ⟨[], s, .done a s, rfl, Along.nil hst⟩
  | call q k ih =>
    rw [Program.lowering, Program.ensures_bind]
    refine (h q s t hst).mono ?_
    rintro l₁ r t₁ ⟨hfaults, s₁, hstep, halong⟩
    refine (ih r halong.ends).mono ?_
    rintro l' a t' ⟨l, s', hrun, hfaults', halong'⟩
    refine ⟨⟨s, q, r, s₁⟩ :: l, s', .call hstep hrun, ?_, halong.append halong'⟩
    rw [faults_append, hfaults, hfaults']
    cases r <;> rfl

end Implements

end Interaction
