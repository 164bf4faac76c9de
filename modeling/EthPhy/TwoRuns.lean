import EthPhy.Session

/-!
# Two runs under the same circumstances

What a run meets with is settled beforehand: a `Script` says, for each of its requests,
whether it fails, and what the environment of the device contributes to the answer.  The
device itself is then a function (`Reaction`), and two runs with one script can be
compared.

`p.Agree p' x y Q` compares the run of `p` from `x` with that of `p'` from `y`.  There is
a rule for each way programs are put together, and the same for helper functions and for
methods, which are compared with themselves from states that are related.

For sessions, `Machine.play_purge` says when calls may be deleted: when the rest cannot
tell related states apart, and the deleted calls do not leave the relation.
-/

namespace Interaction

variable {Req : Type} {Reply : Req → Type} {ε W X S E K Γ α β A C : Type}

/-! ## Scripts and reactions -/

/-- What becomes of one request, and what the environment contributes. -/
inductive Passage (ε W : Type) where
  /-- The device answers. -/
  | answered (w : W)
  /-- The request fails before it has reached the device. -/
  | lost (e : ε)
  /-- The request fails after it has reached the device. -/
  | unconfirmed (w : W) (e : ε)
  deriving DecidableEq, Repr

/-- What becomes of the requests to come. -/
abbrev Script (ε W : Type) : Type := Nat → Passage ε W

/-- **A device**, as a function of its state and the contribution of its environment. -/
abbrev Reaction (Reply : Req → Type) (W X : Type) : Type :=
  (q : Req) → W → X → Reply q × X

/-- The bus that takes the script as it comes. -/
def Reaction.handler (react : Reaction Reply W X) : Handler Reply ε (Script ε W × X) :=
  fun q s =>
    let rest : Script ε W := fun n => s.1 (n + 1)
    match s.1 0 with
    | .answered w => (.ok (react q w s.2).1, rest, (react q w s.2).2)
    | .lost e => (.error e, rest, s.2)
    | .unconfirmed w e => (.error e, rest, (react q w s.2).2)

variable {react : Reaction Reply W X}

/-- A device whose every answer has the documented effect conforms to the documented
device, under any script. -/
theorem Reaction.handler_conforms {idle : Γ → Γ → Prop}
    {effect : Γ → (q : Req) → Reply q → Γ → Prop} (view : X → Γ) (hidle : ∀ s, idle s s)
    (heffect : ∀ q w x, effect (view x) q (react q w x).1 (view (react q w x).2)) :
    react.handler.Conforms (Device.faulty (ε := ε) True idle effect) (fun s => view s.2) := by
  rintro q ⟨script, x⟩
  simp only [handler]
  cases script 0 with
  | answered w => exact heffect q w x
  | lost e => exact .inl (hidle _)
  | unconfirmed w e => exact .inr ⟨trivial, _, heffect q w x⟩

/-! ## Programs -/

/-- **The runs of `p` from `x` and of `p'` from `y` under one script** leave the same of
it, and end as `Q` says. -/
def Program.Agree (react : Reaction Reply W X) (p p' : Program Reply ε α) (x y : X)
    (Q : α → α → X → X → Prop) : Prop :=
  ∀ script : Script ε W,
    let o := p.run react.handler (script, x)
    let o' := p'.run react.handler (script, y)
    o.state.1 = o'.state.1 ∧ Q o.value o'.value o.state.2 o'.state.2

namespace Program

variable {x y : X}

theorem agree_done {a a' : α} {Q : α → α → X → X → Prop} (h : Q a a' x y) :
    (done a : Program Reply ε α).Agree react (done a') x y Q := fun _ => ⟨rfl, h⟩

theorem Agree.mono {p p' : Program Reply ε α} {P Q : α → α → X → X → Prop}
    (hp : p.Agree react p' x y P) (h : ∀ a a' x y, P a a' x y → Q a a' x y) :
    p.Agree react p' x y Q := fun script => ⟨(hp script).1, h _ _ _ _ (hp script).2⟩

theorem Agree.bind {p p' : Program Reply ε α} {f f' : α → Program Reply ε β}
    {P : α → α → X → X → Prop} {Q : β → β → X → X → Prop} (hp : p.Agree react p' x y P)
    (hf : ∀ a a' x y, P a a' x y → (f a).Agree react (f' a') x y Q) :
    (p.bind f).Agree react (p'.bind f') x y Q := by
  intro script
  simp only [run_bind]
  obtain ⟨hscript, hP⟩ := hp script
  rcases hs : (p.run react.handler (script, x)).state with ⟨rest, x₁⟩
  rcases hs' : (p'.run react.handler (script, y)).state with ⟨rest', y₁⟩
  rw [hs, hs'] at hscript hP
  obtain rfl : rest = rest' := hscript
  exact hf _ _ x₁ y₁ hP rest

/-- A run agrees with itself. -/
theorem agree_self (p : Program Reply ε α) (x : X) :
    p.Agree react p x x fun a a' x y => a = a' ∧ x = y := fun _ => ⟨rfl, rfl, rfl⟩

end Program

/-! ## Helper functions -/

namespace Fallible

/-- **From states related by `P`, the helper function returns the same** and ends in
states related by `Q`, or by `R` where it returns an error. -/
def Agrees (react : Reaction Reply W X) (P R : X → X → Prop) (f : Fallible Reply ε α)
    (Q : α → X → X → Prop) : Prop :=
  ∀ x y, P x y → f.run.Agree react f.run x y fun r r' x y => r = r' ∧
    match r with
    | .ok a => Q a x y
    | .error _ => R x y

variable {P R : X → X → Prop}

theorem agrees_pure {a : α} {Q : α → X → X → Prop} (h : ∀ x y, P x y → Q a x y) :
    (pure a : Fallible Reply ε α).Agrees react P R Q :=
  fun x y hP => Program.agree_done ⟨rfl, h x y hP⟩

/-- **Rule for a request**: the device answers the same. -/
theorem agrees_request {q : Req} {Q : Reply q → X → X → Prop}
    (hreply : ∀ w x y, P x y → (react q w x).1 = (react q w y).1 ∧
      Q (react q w x).1 (react q w x).2 (react q w y).2)
    (hlost : ∀ x y, P x y → R x y) (hQ : ∀ v x y, Q v x y → R x y) :
    (request q : Fallible Reply ε (Reply q)).Agrees react P R Q := by
  intro x y hP script
  simp only [request, ExceptT.run_mk, Program.run_call, Program.run_done, Reaction.handler]
  cases script 0 with
  | answered w =>
    obtain ⟨hv, hq⟩ := hreply w x y hP
    exact ⟨rfl, congrArg Except.ok hv, hq⟩
  | lost e => exact ⟨rfl, rfl, hlost x y hP⟩
  | unconfirmed w e => exact ⟨rfl, rfl, hQ _ _ _ (hreply w x y hP).2⟩

/-- **Rule of the `?` operator.** -/
theorem Agrees.bind {f : Fallible Reply ε α} {g : α → Fallible Reply ε β}
    {Q : α → X → X → Prop} {Q' : β → X → X → Prop} (hf : f.Agrees react P R Q)
    (hg : ∀ a, (g a).Agrees react (Q a) R Q') : (f >>= g).Agrees react P R Q' := by
  intro x y hP
  rw [run_bind]
  refine (hf x y hP).bind ?_
  rintro r r' x₁ y₁ ⟨rfl, hr⟩
  cases r with
  | ok a => exact hg a x₁ y₁ hr
  | error e => exact Program.agree_done ⟨rfl, hr⟩

theorem Agrees.ite {c : Prop} [Decidable c] {f g : Fallible Reply ε α} {Q : α → X → X → Prop}
    (hf : f.Agrees react P R Q) (hg : g.Agrees react P R Q) :
    (if c then f else g).Agrees react P R Q := by
  split
  · exact hf
  · exact hg

/-- What a helper function does from one state it does twice. -/
theorem agrees_eq (f : Fallible Reply ε α) : f.Agrees react Eq Eq fun _ => Eq := by
  rintro x _ rfl
  refine (Program.agree_self f.run x).mono ?_
  rintro r _ x₁ _ ⟨rfl, rfl⟩
  exact ⟨rfl, by cases r <;> rfl⟩

end Fallible

/-! ## Methods -/

namespace Method

/-- **From objects related by `same` and states related by `R`, the method returns the
same** and keeps both relations. -/
def Agrees (react : Reaction Reply W X) (same : S → S → Prop) (R : X → X → Prop)
    (m : Method Reply ε S E α) : Prop :=
  ∀ o o' x y, same o o' → R x y → (m.on o).Agree react (m.on o') x y fun r r' x y =>
    r.1 = r'.1 ∧ same r.2 r'.2 ∧ R x y

variable {same : S → S → Prop} {R : X → X → Prop}

theorem agrees_pure (a : α) : (pure a : Method Reply ε S E α).Agrees react same R :=
  fun _ _ _ _ ho hR => Program.agree_done ⟨rfl, ho, hR⟩

theorem agrees_throw (e : E) : (throw e : Method Reply ε S E α).Agrees react same R :=
  fun _ _ _ _ ho hR => Program.agree_done ⟨rfl, ho, hR⟩

theorem agrees_throw_bind (e : E) (f : β → Method Reply ε S E α) :
    ((throw e : Method Reply ε S E β) >>= f).Agrees react same R :=
  fun _ _ _ _ ho hR => Program.agree_done ⟨rfl, ho, hR⟩

theorem agrees_modify {g : S → S} (hg : ∀ o o', same o o' → same (g o) (g o')) :
    (modify g : Method Reply ε S E PUnit).Agrees react same R :=
  fun o o' _ _ ho hR => Program.agree_done ⟨rfl, hg o o' ho, hR⟩

/-- Of the object, only what is the same of related objects may be used. -/
theorem agrees_get_bind {f : S → Method Reply ε S E α}
    (hf : ∀ o o', same o o' → f o = f o' ∧ (f o).Agrees react same R) :
    (get >>= f).Agrees react same R := by
  intro o o' x y ho hR
  obtain ⟨hsame, hagrees⟩ := hf o o' ho
  show ((f o).on o).Agree react ((f o').on o') x y _
  rw [← hsame]
  exact hagrees o o' x y ho hR

theorem Agrees.bind {m : Method Reply ε S E α} {f : α → Method Reply ε S E β}
    (hm : m.Agrees react same R) (hf : ∀ a, (f a).Agrees react same R) :
    (m >>= f).Agrees react same R := by
  intro o o' x y ho hR
  rw [bind_on, bind_on]
  refine (hm o o' x y ho hR).bind ?_
  rintro ⟨r, o₁⟩ ⟨r', o₁'⟩ x₁ y₁ ⟨hr, ho₁, hR₁⟩
  obtain rfl : r = r' := hr
  cases r with
  | ok a => exact hf a o₁ o₁' x₁ y₁ ho₁ hR₁
  | error e => exact Program.agree_done ⟨rfl, ho₁, hR₁⟩

/-- **Rule of `map_err(wrap)?`.** -/
theorem Agrees.lift {f : Fallible Reply ε α} (hf : f.Agrees react R R fun _ => R) {wrap : ε → E} :
    (lift wrap f : Method Reply ε S E α).Agrees react same R := by
  intro o o' x y ho hR
  refine (hf x y hR).bind ?_
  rintro r _ x₁ y₁ ⟨rfl, hr⟩
  cases r with
  | ok a => exact Program.agree_done ⟨rfl, ho, hr⟩
  | error e => exact Program.agree_done ⟨rfl, ho, hr⟩

theorem Agrees.ite {c : Prop} [Decidable c] {m m' : Method Reply ε S E α}
    (hm : m.Agrees react same R) (hm' : m'.Agrees react same R) :
    (if c then m else m').Agrees react same R := by
  split
  · exact hm
  · exact hm'

end Method

/-! ## Deleting calls from a session -/

/-- **Purge rule**: calls that are `deleted` do not leave the relation `R`, and the others
cannot tell related states apart.  Then a session without the deleted calls responds to
the remaining ones as before, and ends in a related state. -/
theorem Machine.play_purge {m : Machine C A X} {R : X → X → Prop} (deleted : C → Bool)
    (hkept : ∀ c x y, deleted c = false → R x y → (m c x).1 = (m c y).1 ∧ R (m c x).2 (m c y).2)
    (hdeleted : ∀ c x y, deleted c = true → R x y → R (m c x).2 y) (cs : List C) {x y : X}
    (h : R x y) :
    let full := m.play cs x
    let purged := m.play (cs.filter fun c => !deleted c) y
    (full.1.filter fun e => !deleted e.1) = purged.1 ∧ R full.2 purged.2 := by
  induction cs generalizing x y with
  | nil => exact ⟨rfl, h⟩
  | cons c cs ih =>
    cases hc : deleted c with
    | true =>
      have hrest := ih (hdeleted c x y hc h)
      simpa only [play, List.filter_cons, hc, Bool.not_true, Bool.false_eq_true, if_false]
        using hrest
    | false =>
      obtain ⟨hresponse, hR⟩ := hkept c x y hc h
      have hrest := ih hR
      simpa only [play, List.filter_cons, hc, Bool.not_false, if_true, hresponse,
        List.cons.injEq, true_and] using hrest

/-- One step of a session: a call, with the script of its requests, or a move of the
environment. -/
inductive Step (C B ε W : Type) where
  | call (c : C) (script : Script ε W)
  | environment (b : B)

/-- **A step of a session some of whose calls are to be deleted**, and only calls that
observe. -/
structure Markable {C : Type} (observes : C → Prop) (B ε W : Type) where
  step : Step C B ε W
  deleted : Bool
  deletable : deleted = true → ∃ c script, step = .call c script ∧ observes c

variable {B : Type} {op : C → S → Program Reply ε (A × S)} (act : B → X → X)

/-- **A session under given circumstances.** -/
def Step.serve (react : Reaction Reply W X) (op : C → S → Program Reply ε (A × S))
    (act : B → X → X) : Machine (Step C B ε W) (Option A) (S × X)
  | .call c script, x =>
    let o := (op c x.1).run react.handler (script, x.2)
    (some o.value.1, o.value.2, o.state.2)
  | .environment b, x => (none, x.1, act b x.2)

/-- **Observers may be deleted** from a session under given circumstances, when the calls
cannot tell related objects and states apart, and the observers do not leave the
relations. -/
theorem observers_deletable {observes : C → Prop} {same : S → S → Prop} {R : X → X → Prop}
    (hcall : ∀ c o o' x y, same o o' → R x y →
      (op c o).Agree react (op c o') x y fun r r' x' y' =>
        r.1 = r'.1 ∧ same r.2 r'.2 ∧ R x' y')
    (hobserve : ∀ c, observes c → ∀ o o' x y, same o o' → R x y →
      (op c o).Agree react (op c o) x x fun r _ x' _ => same r.2 o' ∧ R x' y)
    (hact : ∀ b x y, R x y → R (act b x) (act b y))
    (steps : List (Markable observes B ε W)) {o : S} {x : X} (ho : same o o) (hx : R x x) :
    let machine : Machine (Markable observes B ε W) (Option A) (S × X) :=
      fun i => Step.serve react op act i.step
    let full := machine.play steps (o, x)
    let purged := machine.play (steps.filter fun i => !i.deleted) (o, x)
    (full.1.filter fun e => !e.1.deleted) = purged.1 ∧
      same full.2.1 purged.2.1 ∧ R full.2.2 purged.2.2 := by
  intro machine full purged
  refine Machine.play_purge (m := machine) (R := fun a b => same a.1 b.1 ∧ R a.2 b.2)
    (fun i => i.deleted) ?_ ?_ steps ⟨ho, hx⟩
  · rintro ⟨step, deleted, -⟩ ⟨o, x⟩ ⟨o', y⟩ - ⟨ho, hx⟩
    cases step with
    | call c script =>
      obtain ⟨-, hresponse, hsame, hR⟩ := hcall c o o' x y ho hx script
      exact ⟨congrArg some hresponse, hsame, hR⟩
    | environment b => exact ⟨rfl, ho, hact b x y hx⟩
  · rintro ⟨step, deleted, hdeletable⟩ ⟨o, x⟩ ⟨o', y⟩ hdeleted ⟨ho, hx⟩
    obtain ⟨c, script, rfl, hobs⟩ := hdeletable hdeleted
    exact (hobserve c hobs o o' x y ho hx script).2

end Interaction
