import EthPhy.Device
import Mathlib.Data.List.Chain

/-!
# Runs that follow a plan

An abstract view of a run.  While the program issues its requests, an abstract
state moves along a path laid down beforehand: some requests move it one place on,
the others leave it where it is.  A run that ends early has followed the first
part of its plan.

`R f s` says that the device state `s` is an instance of the abstract state `f`.
`Follows` is the property of a helper function or method that every run of it
follows its plan, and the bind rules put plans one after the other.  A reader of
the device follows the empty plan.
-/

namespace Interaction

variable {Req : Type} {Reply : Req → Type} {ε S E α β σ F : Type}

/-! ## Paths -/

/-- The exchanges move along `f :: path`, each either staying in a place or going
on to the next one, and end in the last place. -/
structure Along (R : F → σ → Prop) (f : F) (path : List F) (l : List (Exchange Reply ε σ))
    (t : σ) : Prop where
  ends : R (path.getLastD f) t
  moves : ∀ x ∈ l, ∃ g h, (g ∈ f :: path ∧ g = h ∨ [g, h] <:+: f :: path) ∧
    R g x.pre ∧ R h x.post

section Along

variable {R : F → σ → Prop} {f g : F} {path path' : List F} {s t u : σ}
  {l l' : List (Exchange Reply ε σ)}

theorem Along.nil (h : R f t) : Along R f [] ([] : List (Exchange Reply ε σ)) t :=
  ⟨h, fun _ hx => absurd hx List.not_mem_nil⟩

/-- An exchange that stays in its place. -/
theorem Along.stay {q : Req} {r : Except ε (Reply q)} (hs : R f s) (ht : R f t) :
    Along R f [] [⟨s, q, r, t⟩] t := by
  refine ⟨ht, fun x hx => ?_⟩
  obtain rfl := List.mem_singleton.mp hx
  exact ⟨f, f, .inl ⟨List.mem_cons_self, rfl⟩, hs, ht⟩

/-- An exchange that goes on to the next place. -/
theorem Along.move {q : Req} {r : Except ε (Reply q)} (hs : R f s) (ht : R g t) :
    Along R f [g] [⟨s, q, r, t⟩] t := by
  refine ⟨ht, fun x hx => ?_⟩
  obtain rfl := List.mem_singleton.mp hx
  exact ⟨f, g, .inr (List.infix_rfl), hs, ht⟩

/-- A path continued from its last place. -/
theorem getLastD_cons_suffix (f : F) (path path' : List F) :
    path.getLastD f :: path' <:+ f :: (path ++ path') := by
  induction path generalizing f with
  | nil => exact List.suffix_rfl
  | cons g path ih =>
    rw [List.getLastD_cons]
    exact (ih g).trans (List.suffix_cons f _)

theorem getLastD_append (f : F) (path path' : List F) :
    (path ++ path').getLastD f = path'.getLastD (path.getLastD f) := by
  induction path generalizing f with
  | nil => rfl
  | cons g path ih =>
    simp only [List.cons_append, List.getLastD_cons]
    exact ih g

theorem Along.append (h : Along R f path l s) (h' : Along R (path.getLastD f) path' l' t) :
    Along R f (path ++ path') (l ++ l') t := by
  have hsuf := getLastD_cons_suffix f path path'
  have hpre : f :: path <+: f :: (path ++ path') := ⟨path', rfl⟩
  refine ⟨?_, fun x hx => ?_⟩
  · rw [getLastD_append]
    exact h'.ends
  · rcases List.mem_append.mp hx with hx | hx
    · obtain ⟨g, k, hgk, hg, hk⟩ := h.moves x hx
      refine ⟨g, k, ?_, hg, hk⟩
      exact hgk.imp (fun ⟨hm, he⟩ => ⟨hpre.subset hm, he⟩) (fun hi => hi.trans hpre.isInfix)
    · obtain ⟨g, k, hgk, hg, hk⟩ := h'.moves x hx
      refine ⟨g, k, ?_, hg, hk⟩
      exact hgk.imp (fun ⟨hm, he⟩ => ⟨hsuf.subset hm, he⟩) (fun hi => hi.trans hsuf.isInfix)

end Along

/-! ## Plans -/

/-- **How far a run got with its plan**: to the end if it succeeded, and, if
`strict`, not to the end if it did not. -/
def Progress (R : F → σ → Prop) (strict : Prop) (f : F) (plan : List F) (ok : Prop)
    (l : List (Exchange Reply ε σ)) (t : σ) : Prop :=
  ∃ followed rest, plan = followed ++ rest ∧ Along R f followed l t ∧ (ok → rest = []) ∧
    (strict → ¬ok → rest ≠ [])

section Progress

variable {R : F → σ → Prop} {strict strict' ok ok' : Prop} {f : F} {p q : List F} {s t : σ}
  {l l' : List (Exchange Reply ε σ)}

/-- Nothing of the plan has been done. -/
theorem Progress.start (h : Along R f [] l t) (hok : ok → p = []) (hs : strict → ¬ok → p ≠ []) :
    Progress R strict f p ok l t := ⟨[], p, rfl, h, hok, hs⟩

/-- All of the plan has been done. -/
theorem Progress.all (h : Along R f p l t) (hs : strict → ok) : Progress R strict f p ok l t :=
  ⟨p, [], (List.append_nil p).symm, h, fun _ => rfl, fun h hno => absurd (hs h) hno⟩

theorem Progress.relax (h : Progress R strict f p ok l t) (hs : strict' → strict) :
    Progress R strict' f p ok l t := by
  obtain ⟨followed, rest, hp, halong, hok, hstrict⟩ := h
  exact ⟨followed, rest, hp, halong, hok, fun h => hstrict (hs h)⟩

/-- A run that succeeded has got to the last place of its plan. -/
theorem Progress.reached (h : Progress R strict f p ok l t) (hok : ok) : R (p.getLastD f) t := by
  obtain ⟨followed, rest, rfl, halong, hrest, -⟩ := h
  obtain rfl := hrest hok
  rw [List.append_nil]
  exact halong.ends

theorem getLastD_mem (f : F) (path : List F) : path.getLastD f ∈ f :: path := by
  have hsuf := getLastD_cons_suffix f path []
  rw [List.append_nil] at hsuf
  exact hsuf.subset List.mem_cons_self

/-- A run has got to some place of its plan. -/
theorem Progress.somewhere (h : Progress R strict f p ok l t) : ∃ g ∈ f :: p, R g t := by
  obtain ⟨followed, rest, rfl, halong, -, -⟩ := h
  have hpre : f :: followed <+: f :: (followed ++ rest) := ⟨rest, rfl⟩
  exact ⟨_, hpre.subset (getLastD_mem f followed), halong.ends⟩

/-- A strict run that failed has not got to the last place of its plan. -/
theorem Progress.stopped (h : Progress R strict f p ok l t) (hs : strict) (hno : ¬ok) :
    ∃ g ∈ f :: p.dropLast, R g t := by
  obtain ⟨followed, rest, rfl, halong, -, hstrict⟩ := h
  rw [List.dropLast_append_of_ne_nil (hstrict hs hno)]
  have hpre : f :: followed <+: f :: (followed ++ rest.dropLast) := ⟨rest.dropLast, rfl⟩
  exact ⟨_, hpre.subset (getLastD_mem f followed), halong.ends⟩

/-- **What every step of the plan does, and staying does, every exchange does.** -/
theorem Progress.forall_moves {P : F → F → Prop} (h : Progress R strict f p ok l t)
    (hstay : ∀ g ∈ f :: p, P g g) (hmove : (f :: p).IsChain P) :
    ∀ x ∈ l, ∃ g k, P g k ∧ R g x.pre ∧ R k x.post := by
  obtain ⟨followed, rest, rfl, halong, -, -⟩ := h
  have hpre : f :: followed <+: f :: (followed ++ rest) := ⟨rest, rfl⟩
  intro x hx
  obtain ⟨g, k, ⟨hg, rfl⟩ | hgk, hs, ht⟩ := halong.moves x hx
  · exact ⟨g, g, hstay g (hpre.subset hg), hs, ht⟩
  · have hpair : [g, k].IsChain P := hmove.infix (hgk.trans hpre.isInfix)
    exact ⟨g, k, List.isChain_pair.mp hpair, hs, ht⟩

/-- All of a first plan, and then some of a second. -/
theorem Progress.bind (h : Progress R strict' f p ok' l s) (hok : ok')
    (h' : Progress R strict (p.getLastD f) q ok l' t) :
    Progress R strict f (p ++ q) ok (l ++ l') t := by
  obtain ⟨followed, rest, rfl, halong, hrest, -⟩ := h
  obtain rfl := hrest hok
  rw [List.append_nil] at h' ⊢
  obtain ⟨followed', rest', rfl, halong', hok', hstrict'⟩ := h'
  exact ⟨followed ++ followed', rest', (List.append_assoc _ _ _).symm, halong.append halong',
    hok', hstrict'⟩

/-- Some of a first plan, and nothing of a second. -/
theorem Progress.stop (h : Progress R strict' f p ok' l t) (hno : ¬ok) (hq : strict → q ≠ []) :
    Progress R strict f (p ++ q) ok l t := by
  obtain ⟨followed, rest, rfl, halong, -, -⟩ := h
  refine ⟨followed, rest ++ q, List.append_assoc _ _ _, halong, fun hok => absurd hok hno, ?_⟩
  intro hs _ hnil
  exact hq hs (List.append_eq_nil_iff.mp hnil).2

end Progress

/-! ## Helper functions and methods that follow a plan -/

/-- From `f`, every run of the helper function follows the plan, and what it
returns satisfies `Φ`. -/
def Fallible.Follows (D : Device Reply ε σ) (R : F → σ → Prop) (strict : Prop) (f : F)
    (x : Fallible Reply ε α) (plan : List F) (Φ : α → Prop) : Prop :=
  ∀ s, R f s → x.run.Ensures D s fun l r t =>
    Progress R strict f plan (r.isOk = true) l t ∧ ∀ a, r = .ok a → Φ a

/-- From `f` and object state `o`, every run of the method follows the plan, and
its result and the new object state satisfy `Φ`. -/
def Method.Follows (D : Device Reply ε σ) (R : F → σ → Prop) (strict : Prop) (f : F) (o : S)
    (m : Method Reply ε S E α) (plan : List F) (Φ : Except E α → S → Prop) : Prop :=
  ∀ s, R f s → (m.on o).Ensures D s fun l r t =>
    Progress R strict f plan (r.1.isOk = true) l t ∧ Φ r.1 r.2

section Rules

variable {D : Device Reply ε σ} {R : F → σ → Prop} {strict strict' : Prop} {f : F}
  {p q : List F}

namespace Fallible

variable {Φ : α → Prop} {Ψ : β → Prop}

theorem Follows.pure {a : α} (h : Φ a) :
    (pure a : Fallible Reply ε α).Follows D R strict f [] Φ := by
  intro s hs
  refine ensures_pure ⟨.start (Along.nil hs) (fun _ => rfl) (fun _ hno => absurd rfl hno), ?_⟩
  intro b hb
  obtain rfl := Except.ok.inj hb
  exact h

/-- **Plans are put one after the other.**  For a strict plan the second part may
not be empty: when it fails, some of the plan is left. -/
theorem Follows.bind {x : Fallible Reply ε α} {y : α → Fallible Reply ε β}
    (hx : x.Follows D R strict' f p Φ)
    (hy : ∀ a, Φ a → (y a).Follows D R strict (p.getLastD f) q Ψ) (hq : strict → q ≠ []) :
    (x >>= y).Follows D R strict f (p ++ q) Ψ := by
  intro s hs
  refine ensures_bind (hx s hs) ?_ ?_
  · rintro l a t ⟨hprog, hΦ⟩
    exact (hy a (hΦ a rfl) t (hprog.reached rfl)).mono
      fun l' r u h => ⟨hprog.bind rfl h.1, h.2⟩
  · rintro l e t ⟨hprog, -⟩
    exact ⟨hprog.stop (fun h => by cases h) hq, fun a ha => by cases ha⟩

/-- A reader of the device, and then the rest. -/
theorem Follows.read_bind {x : Fallible Reply ε α} {y : α → Fallible Reply ε β}
    (hx : x.Follows D R False f [] Φ) (hy : ∀ a, Φ a → (y a).Follows D R strict f q Ψ)
    (hq : strict → q ≠ []) : (x >>= y).Follows D R strict f q Ψ :=
  hx.bind hy hq

end Fallible

namespace Method

variable {o : S} {wrap : ε → E} {Φ : α → Prop} {Ψ : Except E β → S → Prop}

/-- A method that ends here, with all of its plan done if it succeeds. -/
theorem Follows.ended {m : Method Reply ε S E β} {r : Except E β} {o' : S}
    (hm : m.on o = .done (r, o')) (hok : r.isOk = true → p = [])
    (hs : strict → ¬r.isOk = true → p ≠ []) (hΨ : Ψ r o') : m.Follows D R strict f o p Ψ := by
  intro s h
  rw [hm]
  exact ⟨.start (Along.nil h) hok hs, hΨ⟩

theorem Follows.get_bind {y : S → Method Reply ε S E β}
    (h : (y o).Follows D R strict f o p Ψ) : (get >>= y).Follows D R strict f o p Ψ := h

theorem Follows.modify_bind {g : S → S} {y : PUnit → Method Reply ε S E β}
    (h : (y ⟨⟩).Follows D R strict f (g o) p Ψ) : (modify g >>= y).Follows D R strict f o p Ψ := h

theorem Follows.ite {c : Prop} [Decidable c] {m m' : Method Reply ε S E β}
    (hm : c → m.Follows D R strict f o p Ψ) (hm' : ¬c → m'.Follows D R strict f o p Ψ) :
    (if c then m else m').Follows D R strict f o p Ψ := by
  split
  · exact hm ‹_›
  · exact hm' ‹_›

/-- **A helper function is called, and the method goes on.** -/
theorem Follows.lift_bind {x : Fallible Reply ε α} {y : α → Method Reply ε S E β}
    (hx : x.Follows D R strict' f p Φ)
    (hy : ∀ a, Φ a → (y a).Follows D R strict (p.getLastD f) o q Ψ) (hq : strict → q ≠ [])
    (herr : ∀ e, Ψ (.error (wrap e)) o) :
    (lift wrap x >>= y).Follows D R strict f o (p ++ q) Ψ := by
  intro s hs
  refine ensures_lift_bind (hx s hs) ?_ ?_
  · rintro l a t ⟨hprog, hΦ⟩
    exact (hy a (hΦ a rfl) t (hprog.reached rfl)).mono
      fun l' r u h => ⟨hprog.bind rfl h.1, h.2⟩
  · rintro l e t ⟨hprog, -⟩
    exact ⟨hprog.stop (fun h => by cases h) hq, herr e⟩

/-- A helper function is called last, and what follows it uses the bus no more. -/
theorem Follows.lift_last {x : Fallible Reply ε α} {y : α → Method Reply ε S E β}
    (hx : x.Follows D R strict f p Φ)
    (hy : ∀ a, Φ a → ∃ b o', (y a).on o = .done (.ok b, o') ∧ Ψ (.ok b) o')
    (herr : ∀ e, Ψ (.error (wrap e)) o) : (lift wrap x >>= y).Follows D R strict f o p Ψ := by
  intro s hs
  refine ensures_lift_bind (hx s hs) ?_ ?_
  · rintro l a t ⟨hprog, hΦ⟩
    obtain ⟨b, o', hdone, hΨ⟩ := hy a (hΦ a rfl)
    rw [hdone, Program.ensures_done, List.append_nil]
    exact ⟨hprog, hΨ⟩
  · rintro l e t ⟨hprog, -⟩
    exact ⟨hprog, herr e⟩

/-- A helper function is called, and the method ends. -/
theorem Follows.lift {x : Fallible Reply ε β} {Φ : β → Prop} (hx : x.Follows D R strict f p Φ)
    (hok : ∀ a, Φ a → Ψ (.ok a) o) (herr : ∀ e, Ψ (.error (wrap e)) o) :
    (lift wrap x : Method Reply ε S E β).Follows D R strict f o p Ψ := by
  intro s hs
  refine ensures_lift (hx s hs) ?_ ?_
  · rintro l a t ⟨hprog, hΦ⟩
    exact ⟨hprog, hok a (hΦ a rfl)⟩
  · rintro l e t ⟨hprog, -⟩
    exact ⟨hprog, herr e⟩

end Method
end Rules
end Interaction
