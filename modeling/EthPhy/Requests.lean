import EthPhy.Device

/-!
# The requests a program can issue

`p.Uses P Q`: whatever is replied to it, the program `p` only issues requests that
satisfy `P`, and returns a value that satisfies `Q`.  It is a property of the
program alone; what it means for a device is an invariant rule (`Uses.ensures`).
For the methods of an object, `Q` is an invariant of the object, on which `P` may
depend: a driver uses its own address because it never rebinds itself.
-/

namespace Interaction

variable {Req : Type} {Reply : Req → Type} {ε S E α β σ : Type} {P : Req → Prop}

namespace Program

/-- **The requests a program can issue, and the values it can return.** -/
def Uses (P : Req → Prop) (Q : α → Prop) : Program Reply ε α → Prop
  | done a => Q a
  | call q k => P q ∧ ∀ r, (k r).Uses P Q

variable {Q : α → Prop} {R : β → Prop}

theorem Uses.bind {p : Program Reply ε α} {f : α → Program Reply ε β} (hp : p.Uses P Q)
    (hf : ∀ a, Q a → (f a).Uses P R) : (p.bind f).Uses P R := by
  induction p with
  | done a => exact hf a hp
  | call q k ih => exact ⟨hp.1, fun r => ih r (hp.2 r)⟩

/-- **Invariant rule**: what every request the program can issue preserves, every run
of the program preserves. -/
theorem Uses.ensures {D : Device Reply ε σ} {I : σ → Prop} {p : Program Reply ε α}
    (hp : p.Uses P Q) (hI : ∀ s q r t, P q → D s q r t → I s → I t) {s : σ} (hs : I s) :
    p.Ensures D s fun _ a t => Q a ∧ I t := by
  induction p generalizing s with
  | done a => exact ⟨hp, hs⟩
  | call q k ih => exact fun r t hr => ih r (hp.2 r) (hI s q r t hp.1 hr hs)

end Program

/-! ## Helper functions -/

namespace Fallible

/-- A helper function that only issues requests that satisfy `P`. -/
def Uses (P : Req → Prop) (x : Fallible Reply ε α) : Prop := x.run.Uses P fun _ => True

theorem uses_pure (a : α) : (pure a : Fallible Reply ε α).Uses P := trivial

theorem uses_request {q : Req} (hq : P q) : (request q : Fallible Reply ε (Reply q)).Uses P :=
  ⟨hq, fun _ => trivial⟩

theorem Uses.bind {x : Fallible Reply ε α} {f : α → Fallible Reply ε β} (hx : x.Uses P)
    (hf : ∀ a, (f a).Uses P) : (x >>= f).Uses P := by
  refine Program.Uses.bind hx ?_
  rintro (e | a) -
  · trivial
  · exact hf a

end Fallible

/-! ## Methods -/

namespace Method

/-- A method that only issues requests that satisfy `P`, and keeps the invariant `Q`
of its object. -/
def Uses (P : Req → Prop) (Q : S → Prop) (m : Method Reply ε S E α) : Prop :=
  ∀ s, Q s → (m.on s).Uses P fun r => Q r.2

variable {Q : S → Prop}

theorem uses_pure (a : α) : (pure a : Method Reply ε S E α).Uses P Q := fun _ hs => hs

theorem uses_throw (e : E) : (throw e : Method Reply ε S E α).Uses P Q := fun _ hs => hs

theorem uses_throw_bind (e : E) (f : β → Method Reply ε S E α) :
    ((throw e : Method Reply ε S E β) >>= f).Uses P Q := fun _ hs => hs

theorem uses_modify {g : S → S} (hg : ∀ s, Q s → Q (g s)) :
    (modify g : Method Reply ε S E PUnit).Uses P Q := fun s hs => hg s hs

/-- What is read off the object satisfies its invariant. -/
theorem uses_get_bind {f : S → Method Reply ε S E α} (hf : ∀ s, Q s → (f s).Uses P Q) :
    (get >>= f).Uses P Q := fun s hs => hf s hs s hs

theorem Uses.bind {m : Method Reply ε S E α} {f : α → Method Reply ε S E β}
    (hm : m.Uses P Q) (hf : ∀ a, (f a).Uses P Q) : (m >>= f).Uses P Q := by
  intro s hs
  rw [bind_on]
  refine (hm s hs).bind ?_
  rintro ⟨e | a, t⟩ ht
  · exact ht
  · exact hf a t ht

theorem Uses.lift {x : Fallible Reply ε α} (hx : x.Uses P) {wrap : ε → E} :
    (lift wrap x : Method Reply ε S E α).Uses P Q := by
  intro s hs
  exact Program.Uses.bind hx fun _ _ => hs

theorem Uses.ite {c : Prop} [Decidable c] {m m' : Method Reply ε S E α} (hm : m.Uses P Q)
    (hm' : m'.Uses P Q) : (if c then m else m').Uses P Q := by
  split
  · exact hm
  · exact hm'

end Method
end Interaction
