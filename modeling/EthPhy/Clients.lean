import EthPhy.Faults
import EthPhy.History
import EthPhy.Requests
import EthPhy.Session

/-!
# Clients of an object

A client of an object is itself a program: its requests are calls of the object, and
what it calls next may depend on every response so far.  `Program.calling` puts client
and object together into one program on the bus; its run is that of the client with
every call made whole (`calling_run`).

The client that matters most on a bus that may fail is `retry`.  For an object that
fails only when one of its exchanges does, it fails exactly when there has been a fault
in every attempt (`retry_ensures`).
-/

namespace Interaction

variable {Req : Type} {Reply : Req → Type} {ε S σ τ C A α β : Type}

/-- **A client** of an object: a program that calls it.  A call always gets a
response. -/
abbrev Client (C A α : Type) : Type := Program (fun _ : C => A) Empty α

/-- The bus on which the clients of a machine run. -/
def Machine.handler {X : Type} (m : Machine C A X) : Handler (fun _ : C => A) Empty X :=
  fun c x => (.ok (m c x).1, (m c x).2)

namespace Client

/-- Make a call, and go on with its response. -/
def ask (c : C) (k : A → Client C A α) : Client C A α :=
  .call c fun
    | .ok a => k a
    | .error e => e.elim

/-- Make a call until a response is accepted, `n` times at most. -/
def retry (c : C) (accept : A → Bool) : Nat → Client C A (Option A)
  | 0 => .done none
  | n + 1 => ask c fun a => if accept a then .done (some a) else retry c accept n

/-- Make one call until a response is accepted, and then another, `n` times at most each.
It returns whether both were accepted. -/
def retryBoth (c d : C) (accept : A → Bool) (n : Nat) : Client C A Bool :=
  (retry c accept n).bind fun
    | some _ => (retry d accept n).bind fun r => .done r.isSome
    | none => .done false

end Client

namespace Program

/-- The client together with the object it calls. -/
def calling (op : C → S → Program Reply ε (A × S)) : Client C A α → S → Program Reply ε (α × S)
  | done a, o => done (a, o)
  | call c k, o => (op c o).bind fun r => (k (.ok r.1)).calling op r.2

variable {op : C → S → Program Reply ε (A × S)}

theorem calling_ask (c : C) (k : A → Client C A α) (o : S) :
    (Client.ask c k).calling op o = (op c o).bind fun r => (k r.1).calling op r.2 := rfl

theorem calling_bind (p : Client C A α) (f : α → Client C A β) (o : S) :
    (p.bind f).calling op o = (p.calling op o).bind fun r => (f r.1).calling op r.2 := by
  induction p generalizing o with
  | done a => rfl
  | call c k ih =>
    have hassoc : ∀ q : Program Reply ε (A × S),
        (q.bind fun r => ((k (.ok r.1)).bind f).calling op r.2) =
          (q.bind fun r => (k (.ok r.1)).calling op r.2).bind fun r => (f r.1).calling op r.2 := by
      intro q
      induction q with
      | done r => exact ih _ _
      | call t j ihq => exact congrArg (Program.call t) (funext ihq)
    exact hassoc (op c o)

/-- **Request by request, the client gets what it gets from whole calls.** -/
theorem calling_run (h : Handler Reply ε σ) (p : Client C A α) (o : S) (s : σ) :
    let whole := p.run (serve h op).handler (o, s)
    ((p.calling op o).run h s).value = (whole.value, whole.state.1) ∧
      ((p.calling op o).run h s).state = whole.state.2 := by
  induction p generalizing o s with
  | done a => exact ⟨rfl, rfl⟩
  | call c k ih =>
    simp only [calling, run_bind]
    exact ih _ _ _

theorem Uses.calling {P : Req → Prop} {Q : S → Prop}
    (hop : ∀ c o, Q o → (op c o).Uses P fun r => Q r.2) (p : Client C A α) {o : S} (ho : Q o) :
    (p.calling op o).Uses P fun r => Q r.2 := by
  induction p generalizing o with
  | done a => exact ho
  | call c k ih => exact (hop c o ho).bind fun r hr => ih _ hr

/-- What a program that heeds a guard returns is what it returns whatever is replied. -/
theorem Heeds.uses {G : Guard Reply ε} {past : List (Event Reply ε)} {P : Req → Prop}
    {Q : List (Event Reply ε) → α → Prop} {R : α → Prop} {p : Program Reply ε α}
    (hp : p.Heeds G Q past) (hu : p.Uses P R) : p.Heeds G (fun _ => R) past := by
  induction p generalizing past with
  | done a => exact hu
  | call q k ih => exact ⟨hp.1, fun r => ih r (hp.2 r) (hu.2 r)⟩

/-- **Local rules hold of clients**: a rule that looks back no further than the call does is
one that a client's whole run keeps to. -/
theorem Heeds.calling {G : Guard Reply ε} {I : S → Prop} (hG : G.Local)
    (hop : ∀ c o, I o → (op c o).Heeds G (fun _ r => I r.2) []) (p : Client C A α) {o : S}
    (ho : I o) (past : List (Event Reply ε)) : (p.calling op o).Heeds G (fun _ r => I r.2) past := by
  induction p generalizing o past with
  | done a => exact ho
  | call c k ih =>
    have hcall := (hop c o ho).later hG past
    rw [List.append_nil] at hcall
    exact hcall.bind fun l r hr => ih _ hr l

/-- **Rule for clients**: what each call that the client may make keeps, and each
exchange of such a call satisfies, all of the client's run does. -/
theorem Uses.ensures_calling {D : Device Reply ε τ} {P : C → Prop} {Q : α → Prop}
    {I : S → τ → Prop} {G : Exchange Reply ε τ → Prop}
    (hop : ∀ c o t, P c → I o t →
      (op c o).Ensures D t fun l r t' => (∀ x ∈ l, G x) ∧ I r.2 t')
    {p : Client C A α} (hp : p.Uses P Q) {o : S} {t : τ} (ho : I o t) :
    (p.calling op o).Ensures D t fun l r t' => (∀ x ∈ l, G x) ∧ I r.2 t' := by
  induction p generalizing o t with
  | done a => exact ⟨nofun, ho⟩
  | call c k ih =>
    obtain ⟨hc, hk⟩ := hp
    rw [Program.calling, ensures_bind]
    refine (hop c o t hc ho).mono ?_
    rintro l r t' ⟨hl, ho'⟩
    refine (ih (.ok r.1) (hk _) ho').mono ?_
    rintro l' r' t'' ⟨hl', ho''⟩
    exact ⟨List.forall_mem_append.mpr ⟨hl, hl'⟩, ho''⟩

end Program

namespace Client

variable {op : C → S → Program Reply ε (A × S)} {D : Device Reply ε τ}
  {I J : S → τ → Prop} {G : S → τ → Prop} {c d : C} {accept : A → Bool}

theorem retry_uses {P : C → Prop} (hc : P c) (n : Nat) :
    (retry c accept n).Uses P fun _ => True := by
  induction n with
  | zero => trivial
  | succ n ih =>
    refine ⟨hc, ?_⟩
    rintro (e | a)
    · exact e.elim
    · show Program.Uses P _ (if accept a then .done (some a) else retry c accept n)
      split
      · trivial
      · exact ih

theorem retryBoth_uses {P : C → Prop} (hc : P c) (hd : P d) (n : Nat) :
    (retryBoth c d accept n).Uses P fun _ => True := by
  refine (retry_uses hc n).bind ?_
  rintro (_ | a) -
  · trivial
  · exact (retry_uses hd n).bind fun _ _ => trivial

/-- **Rule for retries**: each attempt keeps `I`, and is accepted with `G` if it has no
fault, or has one fault and is not.  Then `n` attempts end in `G` if there are fewer than
`n` faults, and otherwise fail with `n` faults. -/
theorem retry_ensures
    (hattempt : ∀ o t, I o t → (op c o).Ensures D t fun l r t' => I r.2 t' ∧
      (accept r.1 = true ∧ faults l = [] ∧ G r.2 t' ∨
        accept r.1 = false ∧ (faults l).length = 1))
    (n : Nat) {o : S} {t : τ} (ho : I o t) :
    ((retry c accept n).calling op o).Ensures D t fun l r t' =>
      (∃ a, r.1 = some a) ∧ G r.2 t' ∧ (faults l).length < n ∨
        r.1 = none ∧ (faults l).length = n := by
  induction n generalizing o t with
  | zero => exact .inr ⟨rfl, rfl⟩
  | succ n ih =>
    rw [retry, Program.calling_ask, Program.ensures_bind]
    refine (hattempt o t ho).mono ?_
    rintro l ⟨a, o'⟩ t' ⟨ho', ⟨hok, hnone, hgood⟩ | ⟨hno, hone⟩⟩
    · rw [if_pos hok]
      exact .inl ⟨⟨a, rfl⟩, hgood, by simp [hnone]⟩
    · rw [if_neg (by simp [hno])]
      refine (ih ho').mono ?_
      rintro l' r t'' (⟨hb, hgood, hlt⟩ | ⟨hfail, hn⟩)
      · refine .inl ⟨hb, hgood, ?_⟩
        rw [faults_append, List.length_append]
        omega
      · refine .inr ⟨hfail, ?_⟩
        rw [faults_append, List.length_append]
        omega

/-- **Rule for one call after another**: what the first leaves when it is accepted, every
attempt at the second keeps.  Then `n` attempts at each end in `G`, unless there are at
least `n` faults. -/
theorem retryBoth_ensures
    (hfirst : ∀ o t, I o t → (op c o).Ensures D t fun l r t' => I r.2 t' ∧
      (accept r.1 = true ∧ faults l = [] ∧ J r.2 t' ∨
        accept r.1 = false ∧ (faults l).length = 1))
    (hsecond : ∀ o t, J o t → (op d o).Ensures D t fun l r t' => J r.2 t' ∧
      (accept r.1 = true ∧ faults l = [] ∧ G r.2 t' ∨
        accept r.1 = false ∧ (faults l).length = 1))
    (n : Nat) {o : S} {t : τ} (ho : I o t) :
    ((retryBoth c d accept n).calling op o).Ensures D t fun l r t' =>
      r.1 = true ∧ G r.2 t' ∨ r.1 = false ∧ n ≤ (faults l).length := by
  rw [retryBoth, Program.calling_bind, Program.ensures_bind]
  refine (retry_ensures hfirst n ho).mono ?_
  rintro l ⟨_, o₁⟩ t₁ (⟨⟨a, rfl⟩, hleft, -⟩ | ⟨rfl, hn⟩)
  · dsimp only
    rw [Program.calling_bind, Program.ensures_bind]
    refine (retry_ensures hsecond n hleft).mono ?_
    rintro l' ⟨_, o₂⟩ t₂ (⟨⟨b, rfl⟩, hgood, -⟩ | ⟨rfl, hn⟩)
    · exact .inl ⟨rfl, hgood⟩
    · refine .inr ⟨rfl, ?_⟩
      rw [faults_append, List.length_append, List.append_nil]
      omega
  · refine .inr ⟨rfl, ?_⟩
    rw [List.append_nil]
    omega

end Client
end Interaction
