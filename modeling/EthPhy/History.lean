import EthPhy.Device

/-!
# Requests guarded by what has happened

`p.Heeds G Q past`: after the events `past`, the program `p` issues a request only
when the guard `G` allows it after everything that has happened by then, and what it
returns satisfies `Q`.  It is a property of the program alone, whatever is replied to
it, so it holds of every run on every bus (`Heeds.run`).
-/

namespace Interaction

variable {Req : Type} {Reply : Req → Type} {ε S E α β σ : Type}

/-- A request and what became of it. -/
structure Event (Reply : Req → Type) (ε : Type) where
  req : Req
  reply : Except ε (Reply req)

/-- An exchange, without the states of the bus. -/
def Exchange.event (x : Exchange Reply ε σ) : Event Reply ε := ⟨x.req, x.reply⟩

/-- Which requests may be issued after which events. -/
abbrev Guard (Reply : Req → Type) (ε : Type) : Type := List (Event Reply ε) → Req → Prop

/-- The guard only looks back a while: what it allows after some events, it allows after
them whatever came before. -/
def Guard.Local (G : Guard Reply ε) : Prop := ∀ l past q, G past q → G (l ++ past) q

variable {G : Guard Reply ε} {past : List (Event Reply ε)}

namespace Program

/-- **The program heeds the guard**, and what it returns satisfies `Q`. -/
def Heeds (G : Guard Reply ε) (Q : List (Event Reply ε) → α → Prop) :
    List (Event Reply ε) → Program Reply ε α → Prop
  | past, done a => Q past a
  | past, call q k => G past q ∧ ∀ r, (k r).Heeds G Q (past ++ [⟨q, r⟩])

variable {P Q : List (Event Reply ε) → α → Prop} {R : List (Event Reply ε) → β → Prop}

theorem Heeds.mono {p : Program Reply ε α} (hp : p.Heeds G P past)
    (h : ∀ l a, P l a → Q l a) : p.Heeds G Q past := by
  induction p generalizing past with
  | done a => exact h past a hp
  | call q k ih => exact ⟨hp.1, fun r => ih r (hp.2 r)⟩

/-- A guard that allows more is heeded as well. -/
theorem Heeds.of_imp {G' : Guard Reply ε} {p : Program Reply ε α} (hp : p.Heeds G Q past)
    (h : ∀ l q, G l q → G' l q) : p.Heeds G' Q past := by
  induction p generalizing past with
  | done a => exact hp
  | call q k ih => exact ⟨h past q hp.1, fun r => ih r (hp.2 r)⟩

/-- A local guard that is heeded is heeded later too. -/
theorem Heeds.later {Q : α → Prop} {p : Program Reply ε α} (hp : p.Heeds G (fun _ => Q) past)
    (hG : G.Local) (l : List (Event Reply ε)) : p.Heeds G (fun _ => Q) (l ++ past) := by
  induction p generalizing past with
  | done a => exact hp
  | call q k ih =>
    refine ⟨hG l past q hp.1, fun r => ?_⟩
    rw [List.append_assoc]
    exact ih r (hp.2 r)

theorem Heeds.bind {p : Program Reply ε α} {f : α → Program Reply ε β} (hp : p.Heeds G P past)
    (hf : ∀ l a, P l a → (f a).Heeds G R l) : (p.bind f).Heeds G R past := by
  induction p generalizing past with
  | done a => exact hf past a hp
  | call q k ih => exact ⟨hp.1, fun r => ih r (hp.2 r)⟩

/-- **On every bus, every request of a run is one the guard allows.** -/
theorem Heeds.run {p : Program Reply ε α} (hp : p.Heeds G Q past) (h : Handler Reply ε σ) (s : σ) :
    let o := p.run h s
    Q (past ++ o.trace.map Exchange.event) o.value ∧
      ∀ l x l', o.trace = l ++ x :: l' → G (past ++ l.map Exchange.event) x.req := by
  induction p generalizing past s with
  | done a =>
    refine ⟨by rwa [run_done, List.map_nil, List.append_nil], fun l x l' hl => ?_⟩
    exact absurd hl.symm (List.append_ne_nil_of_right_ne_nil _ (List.cons_ne_nil _ _))
  | call q k ih =>
    obtain ⟨hQ, hG⟩ := ih (h q s).1 (hp.2 (h q s).1) (h q s).2
    refine ⟨?_, fun l x l' hl => ?_⟩
    · rw [run_call, List.map_cons, List.append_cons]
      exact hQ
    · cases l with
      | nil =>
        obtain rfl := (List.cons.inj hl).1
        rw [List.map_nil, List.append_nil]
        exact hp.1
      | cons y l =>
        obtain ⟨rfl, htail⟩ := List.cons.inj hl
        rw [List.map_cons, List.append_cons]
        exact hG l x l' htail

/-- The same of the events of the run. -/
theorem Heeds.run_guard {p : Program Reply ε α} (hp : p.Heeds G Q []) (h : Handler Reply ε σ)
    (s : σ) {l l' : List (Event Reply ε)} {e : Event Reply ε}
    (hl : (p.run h s).trace.map Exchange.event = l ++ e :: l') : G l e.req := by
  obtain ⟨made, rest, htrace, rfl, hrest⟩ := List.map_eq_append_iff.mp hl
  obtain ⟨x, made', rfl, rfl, -⟩ := List.map_eq_cons_iff.mp hrest
  exact (hp.run h s).2 made x made' htrace

end Program

/-! ## Helper functions and methods -/

/-- A helper function heeds the guard, and what it returns when it succeeds satisfies
`Φ`. -/
def Fallible.Heeds (G : Guard Reply ε) (past : List (Event Reply ε)) (x : Fallible Reply ε α)
    (Φ : List (Event Reply ε) → α → Prop) : Prop :=
  x.run.Heeds G (fun l r => ∀ a, r = .ok a → Φ l a) past

namespace Fallible

variable {Φ Ψ : List (Event Reply ε) → α → Prop} {Χ : List (Event Reply ε) → β → Prop}

theorem heeds_pure {a : α} (h : Φ past a) : (pure a : Fallible Reply ε α).Heeds G past Φ := by
  rintro b hb
  obtain rfl := Except.ok.inj hb
  exact h

theorem heeds_request {q : Req} (hq : G past q) :
    (request q : Fallible Reply ε (Reply q)).Heeds G past fun l v => l = past ++ [⟨q, .ok v⟩] := by
  refine ⟨hq, fun r v hr => ?_⟩
  subst hr
  rfl

theorem Heeds.mono {x : Fallible Reply ε α} (hx : x.Heeds G past Φ)
    (h : ∀ l a, Φ l a → Ψ l a) : x.Heeds G past Ψ :=
  Program.Heeds.mono hx fun l _ hr a ha => h l a (hr a ha)

/-- **Rule of the `?` operator.** -/
theorem Heeds.bind {x : Fallible Reply ε α} {f : α → Fallible Reply ε β}
    (hx : x.Heeds G past Φ) (hf : ∀ l a, Φ l a → (f a).Heeds G l Χ) :
    (x >>= f).Heeds G past Χ := by
  refine Program.Heeds.bind hx ?_
  rintro l (e | a) hr
  · exact fun b hb => by cases hb
  · exact hf l a (hr a rfl)

end Fallible

/-- From object state `s`, the method heeds the guard. -/
def Method.Heeds (G : Guard Reply ε) (past : List (Event Reply ε)) (s : S)
    (m : Method Reply ε S E α) : Prop := (m.on s).Heeds G (fun _ _ => True) past

namespace Method

variable {s : S} {wrap : ε → E}

theorem heeds_done {m : Method Reply ε S E α} {r : Except E α × S} (hm : m.on s = .done r) :
    m.Heeds G past s := by
  unfold Method.Heeds
  rw [hm]
  trivial

/-- A helper function called by a method leaves the method's object alone. -/
theorem heeds_lift {x : Fallible Reply ε α} {Φ : List (Event Reply ε) → α → Prop}
    (hx : x.Heeds G past Φ) :
    ((lift wrap x : Method Reply ε S E α).on s).Heeds G (fun l r => r.2 = s ∧
      match r.1 with
      | .ok a => Φ l a
      | .error e => ∃ e', e = wrap e') past := by
  refine Program.Heeds.bind hx ?_
  rintro l (e | a) hr
  · exact ⟨rfl, e, rfl⟩
  · exact ⟨rfl, hr a rfl⟩

/-- **Rule of `map_err(wrap)?`**, with what the method returns. -/
theorem heeds_lift_bind_of {x : Fallible Reply ε α} {f : α → Method Reply ε S E β}
    {Φ : List (Event Reply ε) → α → Prop} {Q : List (Event Reply ε) → Except E β × S → Prop}
    (hx : x.Heeds G past Φ) (herr : ∀ l e, Q l (.error (wrap e), s))
    (hf : ∀ l a, Φ l a → ((f a).on s).Heeds G Q l) :
    ((lift wrap x >>= f : Method Reply ε S E β).on s).Heeds G Q past := by
  rw [bind_on]
  refine Program.Heeds.bind (heeds_lift hx) ?_
  rintro l ⟨e | a, s'⟩ ⟨rfl, hr⟩
  · obtain ⟨e', rfl⟩ := hr
    exact herr l e'
  · exact hf l a hr

/-- **Rule of `map_err(wrap)?`.** -/
theorem heeds_lift_bind {x : Fallible Reply ε α} {f : α → Method Reply ε S E β}
    {Φ : List (Event Reply ε) → α → Prop} (hx : x.Heeds G past Φ)
    (hf : ∀ l a, Φ l a → (f a).Heeds G l s) :
    (lift wrap x >>= f : Method Reply ε S E β).Heeds G past s :=
  heeds_lift_bind_of hx (fun _ _ => trivial) hf

end Method
end Interaction
