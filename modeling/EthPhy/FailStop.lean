import EthPhy.Program

/-!
# Fail-stop programs

A program is fail-stop when the first request that fails is the last one it
issues, and what it returns reports that request's error and no other.  Nothing
in the syntax forces this: a program may retry, or drop an error.  The rules
below show that programs built with the `?` operator alone have the property,
and `FailStop.run` says what it means for a run on any bus whatever.
-/

namespace Interaction

variable {Req : Type} {Reply : Req → Type} {ε S E α β σ : Type}

/-- The bus error a result reports: `bus?` picks the bus errors out of all
errors. -/
def reported (bus? : E → Option ε) : Except E α → Option ε
  | .ok _ => none
  | .error e => bus? e

/-- A helper function reports the error it returns. -/
theorem reported_some_iff {r : Except ε α} {e : ε} : reported some r = some e ↔ r = .error e := by
  cases r <;> simp [reported]

/-- **What is seen of a fail-stop program from outside**: it reports exactly the
errors of its exchanges, an exchange that failed is the last one, and unless it
reports an error every exchange succeeded. -/
structure Outcome.Transparent (bus? : α → Option ε)
    (o : Outcome Reply ε σ α) : Prop where
  reports : ∀ e, bus? o.value = some e ↔ ∃ x ∈ o.trace, x.fault = some e
  last : ∀ x ∈ o.trace, x.fault ≠ none → ∃ l, o.trace = l ++ [x] ∧ ∀ y ∈ l, y.fault = none
  clean : bus? o.value = none → o.FaultFree

/-- A transparent run without faults reports no error. -/
theorem Outcome.Transparent.none_of_faultFree {bus? : α → Option ε} {o : Outcome Reply ε σ α}
    (h : o.Transparent bus?) (hff : o.FaultFree) : bus? o.value = none := by
  cases he : bus? o.value with
  | none => rfl
  | some e =>
    obtain ⟨x, hx, hxe⟩ := (h.reports e).mp he
    rw [hff x hx] at hxe
    cases hxe

namespace Program

/-- **Fail-stop**: an error ends the program with a value that reports it, and
nothing else ends it with a value that reports an error.  `bus? a` is the error
that `a` reports. -/
def FailStop (bus? : α → Option ε) : Program Reply ε α → Prop
  | done a => bus? a = none
  | call _ k => (∀ e, ∃ a, k (.error e) = done a ∧ bus? a = some e) ∧
      ∀ v, (k (.ok v)).FailStop bus?

/-- A fail-stop program may be followed by one that passes reported errors on. -/
theorem FailStop.bind {bus? : α → Option ε} {bus?' : β → Option ε} {p : Program Reply ε α}
    {f : α → Program Reply ε β} (hp : p.FailStop bus?)
    (hnone : ∀ a, bus? a = none → (f a).FailStop bus?')
    (hsome : ∀ a e, bus? a = some e → ∃ b, f a = done b ∧ bus?' b = some e) :
    (p.bind f).FailStop bus?' := by
  induction p with
  | done a => exact hnone a hp
  | call q k ih =>
    refine ⟨fun e => ?_, fun v => ih _ (hp.2 v)⟩
    obtain ⟨a, hk, ha⟩ := hp.1 e
    show ∃ b, (k (.error e)).bind f = done b ∧ bus?' b = some e
    rw [hk]
    exact hsome a e ha

/-- **A run of a fail-stop program**, on any bus: either every exchange succeeded
and no error is reported, or the last exchange failed, every one before it
succeeded, and its error is reported. -/
theorem FailStop.run {bus? : α → Option ε} {p : Program Reply ε α} (hp : p.FailStop bus?)
    (h : Handler Reply ε σ) (s : σ) :
    let o := p.run h s
    (o.FaultFree ∧ bus? o.value = none) ∨
      ∃ l x e, o.trace = l ++ [x] ∧ (∀ y ∈ l, y.fault = none) ∧ x.fault = some e ∧
        bus? o.value = some e := by
  induction p generalizing s with
  | done a => exact .inl ⟨fun x hx => absurd hx List.not_mem_nil, hp⟩
  | call q k ih =>
    rcases hr : h q s with ⟨r, t⟩
    cases r with
    | error e =>
      obtain ⟨a, hk, ha⟩ := hp.1 e
      refine .inr ⟨[], ⟨s, q, .error e, t⟩, e, ?_, fun y hy => absurd hy List.not_mem_nil, rfl, ?_⟩
      · simp [run_call, hr, hk]
      · simpa [run_call, hr, hk] using ha
    | ok v =>
      rcases ih _ (hp.2 v) t with ⟨hff, hnone⟩ | ⟨l, x, e, htr, hl, hx, hv⟩
      · refine .inl ⟨?_, by simpa [run_call, hr] using hnone⟩
        simpa [Outcome.FaultFree, run_call, hr] using hff
      · refine .inr ⟨⟨s, q, .ok v, t⟩ :: l, x, e, ?_, ?_, hx, by simpa [run_call, hr] using hv⟩
        · simp [run_call, hr, htr]
        · simpa using hl

section Corollaries

variable {bus? : α → Option ε} {p : Program Reply ε α} (hp : p.FailStop bus?)
  (h : Handler Reply ε σ) (s : σ)
include hp

theorem FailStop.reports_iff (e : ε) :
    bus? (p.run h s).value = some e ↔ ∃ x ∈ (p.run h s).trace, x.fault = some e := by
  rcases hp.run h s with ⟨hff, hnone⟩ | ⟨l, x, e', htr, hl, hx, hv⟩
  · constructor
    · intro he
      rw [hnone] at he
      cases he
    · rintro ⟨x, hx, hxe⟩
      rw [hff x hx] at hxe
      cases hxe
  · constructor
    · intro he
      refine ⟨x, by rw [htr]; simp, ?_⟩
      rw [hx, ← hv, he]
    · rintro ⟨y, hy, hye⟩
      rw [htr, List.mem_append, List.mem_singleton] at hy
      rcases hy with hy | rfl
      · rw [hl y hy] at hye
        cases hye
      · rw [hv, ← hx, hye]

theorem FailStop.fault_last {x : Exchange Reply ε σ} (hx : x ∈ (p.run h s).trace)
    (hf : x.fault ≠ none) :
    ∃ l, (p.run h s).trace = l ++ [x] ∧ ∀ y ∈ l, y.fault = none := by
  rcases hp.run h s with ⟨hff, -⟩ | ⟨l, y, e, htr, hl, -, -⟩
  · exact absurd (hff x hx) hf
  · rw [htr, List.mem_append, List.mem_singleton] at hx
    rcases hx with hx | rfl
    · exact absurd (hl x hx) hf
    · exact ⟨l, htr, hl⟩

/-- Nothing follows an exchange that failed, and its error is the one reported. -/
theorem FailStop.stopped {l l' : List (Exchange Reply ε σ)} {x : Exchange Reply ε σ} {e : ε}
    (htrace : (p.run h s).trace = l ++ x :: l') (hx : x.fault = some e) :
    l' = [] ∧ bus? (p.run h s).value = some e := by
  have hmem : x ∈ (p.run h s).trace := by simp [htrace]
  refine ⟨?_, (hp.reports_iff h s e).mpr ⟨x, hmem, hx⟩⟩
  obtain ⟨l₀, htrace₀, hl₀⟩ := hp.fault_last h s hmem (by simp [hx])
  rcases List.eq_nil_or_concat' l' with hnil | ⟨l'', y, rfl⟩
  · exact hnil
  · -- `x` would come before the last exchange
    rw [htrace, ← List.cons_append, ← List.append_assoc] at htrace₀
    have hbefore := (List.append_inj' htrace₀ rfl).1
    have hclean := hl₀ x (by rw [← hbefore]; simp)
    rw [hx] at hclean
    cases hclean

theorem FailStop.faultFree_of_none (hnone : bus? (p.run h s).value = none) :
    (p.run h s).FaultFree := by
  rcases hp.run h s with ⟨hff, -⟩ | ⟨_, _, e, -, -, -, hv⟩
  · exact hff
  · rw [hnone] at hv
    cases hv

/-- It reports no error when no exchange failed, and only then. -/
theorem FailStop.faultFree_iff : (p.run h s).FaultFree ↔ bus? (p.run h s).value = none := by
  refine ⟨fun hff => ?_, hp.faultFree_of_none h s⟩
  rcases hp.run h s with ⟨-, hnone⟩ | ⟨l, x, e, htr, -, hx, -⟩
  · exact hnone
  · rw [hff x (by rw [htr]; simp)] at hx
    cases hx

/-- **A fail-stop program is transparent on every bus.** -/
theorem FailStop.transparent : (p.run h s).Transparent bus? where
  reports := hp.reports_iff h s
  last _ hx hf := hp.fault_last h s hx hf
  clean := hp.faultFree_of_none h s

end Corollaries

/-- Renaming the value of a program keeps it fail-stop. -/
theorem FailStop.map {bus? : α → Option ε} {bus?' : β → Option ε} {p : Program Reply ε α}
    (hp : p.FailStop bus?) {g : α → β} (hg : ∀ a, bus?' (g a) = bus? a) :
    (p.bind fun a => .done (g a)).FailStop bus?' :=
  hp.bind (fun a ha => (hg a).trans ha) (fun a _ ha => ⟨g a, rfl, (hg a).trans ha⟩)

end Program

/-! ## Helper functions -/

namespace Fallible

/-- A fail-stop helper function returns the error of the exchange that failed. -/
def FailStop (x : Fallible Reply ε α) : Prop := x.run.FailStop (reported some)

theorem failStop_pure (a : α) : (pure a : Fallible Reply ε α).FailStop := rfl

theorem failStop_request (q : Req) : (request q : Fallible Reply ε (Reply q)).FailStop :=
  ⟨fun e => ⟨.error e, rfl, rfl⟩, fun _ => rfl⟩

theorem FailStop.bind {x : Fallible Reply ε α} {f : α → Fallible Reply ε β} (hx : x.FailStop)
    (hf : ∀ a, (f a).FailStop) : (x >>= f).FailStop := by
  refine Program.FailStop.bind hx ?_ ?_
  · rintro (e | a) hr
    · cases hr
    · exact hf a
  · rintro (e' | a) e hr
    · obtain rfl := Option.some.inj hr
      exact ⟨_, rfl, rfl⟩
    · cases hr

/-- A fail-stop helper function returns an error when its last transaction failed with
it and no other failed. -/
theorem FailStop.error_iff {x : Fallible Reply ε α} (hx : x.FailStop) (h : Handler Reply ε σ)
    (s : σ) (e : ε) :
    (x.run.run h s).value = .error e ↔ ∃ l y, (x.run.run h s).trace = l ++ [y] ∧
      (∀ z ∈ l, z.fault = none) ∧ y.fault = some e := by
  rcases Program.FailStop.run hx h s with ⟨hff, hnone⟩ | ⟨l, y, e', htrace, hl, hy, hvalue⟩
  · constructor
    · intro he
      rw [he] at hnone
      cases hnone
    · rintro ⟨l, y, htrace, -, hy⟩
      rw [hff y (by rw [htrace]; simp)] at hy
      cases hy
  · rw [reported_some_iff.mp hvalue]
    constructor
    · intro he
      obtain rfl := Except.error.inj he
      exact ⟨l, y, htrace, hl, hy⟩
    · rintro ⟨l', y', htrace', -, hy'⟩
      have hlast : y = y' := by simpa using congrArg List.getLast? (htrace.symm.trans htrace')
      rw [← hlast, hy] at hy'
      rw [Option.some.inj hy']

end Fallible

/-! ## Methods -/

namespace Method

/-- A fail-stop method returns the error of the exchange that failed, translated;
`bus?` picks the translated bus errors out of the errors of the object. -/
def FailStop (bus? : E → Option ε) (m : Method Reply ε S E α) : Prop :=
  ∀ s, (m.on s).FailStop (fun r => reported bus? r.1)

variable {bus? : E → Option ε}

theorem failStop_pure (a : α) : (pure a : Method Reply ε S E α).FailStop bus? := fun _ => rfl

theorem failStop_throw {e : E} (he : bus? e = none) :
    (throw e : Method Reply ε S E α).FailStop bus? := fun _ => he

/-- Nothing of what would follow a thrown error is run. -/
theorem failStop_throw_bind {e : E} (he : bus? e = none) (f : β → Method Reply ε S E α) :
    ((throw e : Method Reply ε S E β) >>= f).FailStop bus? := fun _ => he

theorem failStop_modify (g : S → S) :
    (modify g : Method Reply ε S E PUnit).FailStop bus? := fun _ => rfl

theorem failStop_get : (get : Method Reply ε S E S).FailStop bus? := fun _ => rfl

theorem FailStop.bind {m : Method Reply ε S E α} {f : α → Method Reply ε S E β}
    (hm : m.FailStop bus?) (hf : ∀ a, (f a).FailStop bus?) : (m >>= f).FailStop bus? := by
  intro s
  rw [bind_on]
  refine (hm s).bind ?_ ?_
  · rintro ⟨e | a, t⟩ hr
    · exact hr
    · exact hf a t
  · rintro ⟨e' | a, t⟩ e hr
    · exact ⟨_, rfl, hr⟩
    · cases hr

/-- A helper function called with an error translation that keeps bus errors
apart. -/
theorem FailStop.lift {x : Fallible Reply ε α} (hx : x.FailStop) {wrap : ε → E}
    (hwrap : ∀ e, bus? (wrap e) = some e) :
    (lift wrap x : Method Reply ε S E α).FailStop bus? := by
  intro s
  refine Program.FailStop.bind hx ?_ ?_
  · rintro (e | a) hr
    · cases hr
    · rfl
  · rintro (e' | a) e hr
    · obtain rfl := Option.some.inj hr
      exact ⟨_, rfl, hwrap e'⟩
    · cases hr

theorem FailStop.ite {c : Prop} [Decidable c] {m m' : Method Reply ε S E α}
    (hm : m.FailStop bus?)
    (hm' : m'.FailStop bus?) : (if c then m else m').FailStop bus? := by
  split
  · exact hm
  · exact hm'

end Method
end Interaction
