import EthPhy.FailStop
import EthPhy.Requests

/-!
# Loops over a method

`repeatUntil` calls a method of an object until it returns what is wanted.  Its rule asks
for an invariant and a variant, as for any loop (`ensures_repeatUntil`).  What a device
does to the variant is known from the requests that the method issues
(`Uses.ensures_variant`).

`focus` makes a method of a part of an object a method of the object.  A method that
throws no error but those of the bus only relays them (`Relays`).
-/

namespace Interaction

variable {Req : Type} {Reply : Req → Type} {ε S T E α β σ : Type} {P : Req → Prop}

/-! ## What the requests of a program do to the device -/

namespace Program

variable {D : Device Reply ε σ} {Q : α → Prop} {p : Program Reply ε α} {s : σ}

/-- On every bus, a run issues only the requests the program can issue, and returns what it
can return. -/
theorem Uses.run (hp : p.Uses P Q) (h : Handler Reply ε σ) (s : σ) :
    Q (p.run h s).value ∧ ∀ x ∈ (p.run h s).trace, P x.req := by
  induction p generalizing s with
  | done a => exact ⟨hp, nofun⟩
  | call q k ih =>
    obtain ⟨hvalue, htrace⟩ := ih _ (hp.2 (h q s).1) (h q s).2
    exact ⟨hvalue, List.forall_mem_cons.mpr ⟨hp.1, htrace⟩⟩

/-- Every program issues requests and returns a value. -/
theorem uses_trivial (p : Program Reply ε α) : p.Uses (fun _ => True) fun _ => True := by
  induction p with
  | done a => trivial
  | call q k ih => exact ⟨trivial, ih⟩

/-- Every exchange of a run is the answer of the bus. -/
theorem run_reply (h : Handler Reply ε σ) (p : Program Reply ε α) (s : σ) :
    ∀ x ∈ (p.run h s).trace, x.reply = (h x.req x.pre).1 := by
  induction p generalizing s with
  | done a => exact nofun
  | call q k ih => exact List.forall_mem_cons.mpr ⟨rfl, ih _ _⟩

/-- **Invariant rule, with the exchanges**: each one is an answer of the device from a
state that satisfies the invariant. -/
theorem Uses.ensures_exchanges {I : σ → Prop} (hp : p.Uses P Q)
    (hI : ∀ s q r t, P q → D s q r t → I s → I t) (hs : I s) :
    p.Ensures D s fun l _ _ => ∀ x ∈ l, I x.pre ∧ D x.pre x.req x.reply x.post := by
  induction p generalizing s with
  | done a => exact nofun
  | call q k ih =>
    intro r t hr
    refine (ih r (hp.2 r) (hI s q r t hp.1 hr hs)).mono ?_
    intro l a u hl x hx
    rcases List.mem_cons.mp hx with rfl | hx
    · exact ⟨hs, hr⟩
    · exact hl x hx

/-- **Variant rule**: every exchange takes one off the variant. -/
theorem Uses.ensures_variant {variant : σ → Nat} (hp : p.Uses P Q)
    (hdec : ∀ s q r t, P q → D s q r t → variant t ≤ variant s - 1) :
    p.Ensures D s fun l _ t => variant t ≤ variant s - l.length := by
  induction p generalizing s with
  | done a => exact Nat.le_refl _
  | call q k ih =>
    intro r t hr
    have hle := hdec s q r t hp.1 hr
    refine (ih r (hp.2 r)).mono ?_
    intro l a u hu
    show variant u ≤ variant s - (l.length + 1)
    omega

end Program

namespace Method

/-! ## One method after another, on a bus -/

section Runs

variable {m : Method Reply ε S E α} {f : α → Method Reply ε S E β} {h : Handler Reply ε σ}
  {s t : S} {c : σ}

theorem run_bind_ok {a : α} (hm : ((m.on s).run h c).value = (.ok a, t)) :
    let first := (m.on s).run h c
    let second := ((f a).on t).run h first.state
    ((m >>= f).on s).run h c = ⟨first.trace ++ second.trace, second.value, second.state⟩ := by
  intro first second
  rw [bind_on, Program.run_bind, hm]

/-- What would follow a method that fails is not run. -/
theorem run_bind_error {e : E} (hm : ((m.on s).run h c).value = (.error e, t)) :
    let first := (m.on s).run h c
    ((m >>= f).on s).run h c = ⟨first.trace, (.error e, t), first.state⟩ := by
  intro first
  rw [bind_on, Program.run_bind, hm]
  simp only [Program.run_done, List.append_nil]
  rfl

end Runs

/-! ## Methods without errors of their own -/

/-- **The only errors of the method are those of the bus.** -/
def Relays (bus? : E → Option ε) (m : Method Reply ε S E α) : Prop :=
  ∀ s, (m.on s).Uses (fun _ => True) fun r => ∀ e, r.1 = .error e → bus? e ≠ none

section Relaying

variable {bus? : E → Option ε}

theorem relays_pure (a : α) : (pure a : Method Reply ε S E α).Relays bus? := fun _ => nofun

theorem relays_get : (get : Method Reply ε S E S).Relays bus? := fun _ => nofun

theorem relays_modify (g : S → S) : (modify g : Method Reply ε S E PUnit).Relays bus? :=
  fun _ => nofun

theorem Relays.bind {m : Method Reply ε S E α} {f : α → Method Reply ε S E β}
    (hm : m.Relays bus?) (hf : ∀ a, (f a).Relays bus?) : (m >>= f).Relays bus? := by
  intro s
  rw [bind_on]
  refine (hm s).bind ?_
  rintro ⟨e | a, t⟩ hr
  · intro e' he
    obtain rfl := Except.error.inj he
    exact hr e rfl
  · exact hf a t

/-- A helper function called with an error translation that keeps bus errors apart. -/
theorem relays_lift {x : Fallible Reply ε α} {wrap : ε → E}
    (hwrap : ∀ e, bus? (wrap e) = some e) : (lift wrap x : Method Reply ε S E α).Relays bus? := by
  intro s
  refine x.run.uses_trivial.bind ?_
  rintro (b | a) -
  · intro e he
    obtain rfl := Except.error.inj he
    rw [hwrap]
    exact Option.some_ne_none b
  · exact nofun

theorem Relays.ite {c : Prop} [Decidable c] {m m' : Method Reply ε S E α} (hm : m.Relays bus?)
    (hm' : m'.Relays bus?) : (if c then m else m').Relays bus? := by
  split
  · exact hm
  · exact hm'

/-- **On a bus that does not fail it returns a value.** -/
theorem Relays.run_ok {m : Method Reply ε S E α} (hm : m.Relays bus?) (hstop : m.FailStop bus?)
    (h : Handler Reply ε σ) (s : S) (c : σ) (hff : ((m.on s).run h c).FaultFree) :
    ∃ a, ((m.on s).run h c).value.1 = .ok a := by
  have hnone := ((hstop s).faultFree_iff h c).mp hff
  have hrelays := ((hm s).run h c).1
  rcases hvalue : ((m.on s).run h c).value.1 with e | a
  · rw [hvalue] at hnone
    exact absurd hnone (hrelays e hvalue)
  · exact ⟨a, rfl⟩

end Relaying

/-! ## Parts of an object -/

/-- A method of a part of an object, called through the object. -/
def focus (get : T → S) (set : S → T → T) (m : Method Reply ε S E α) : Method Reply ε T E α :=
  fun t => (m.on (get t)).bind fun r => .done (r.1, set r.2 t)

variable {get : T → S} {set : S → T → T} {m : Method Reply ε S E α}

theorem FailStop.focus {bus? : E → Option ε} (hm : m.FailStop bus?) :
    (m.focus get set).FailStop bus? :=
  fun t => Program.FailStop.map (hm (get t)) (g := fun r => (r.1, set r.2 t)) fun _ => rfl

theorem Uses.focus {Q : S → Prop} (hm : m.Uses P Q) (hset : ∀ s t, get (set s t) = s) :
    (m.focus get set).Uses P fun t => Q (get t) := by
  intro t ht
  refine (hm (get t) ht).bind ?_
  rintro ⟨r, s⟩ hs
  show Q (get (set s t))
  rw [hset]
  exact hs

theorem Relays.focus {bus? : E → Option ε} (hm : m.Relays bus?) :
    (m.focus get set).Relays bus? :=
  fun t => (hm (get t)).bind fun _ hr => hr

/-! ## Loops -/

/-- Call the method until it returns what is accepted, `n` times at most. -/
def repeatUntil (m : Method Reply ε S E α) (accept : α → Bool) :
    Nat → Method Reply ε S E (Option α)
  | 0 => pure none
  | n + 1 => do
    let a ← m
    if accept a then
      pure (some a)
    else
      repeatUntil m accept n

variable {accept : α → Bool}

theorem FailStop.repeatUntil {bus? : E → Option ε} (hm : m.FailStop bus?) (n : Nat) :
    (m.repeatUntil accept n).FailStop bus? := by
  induction n with
  | zero => exact failStop_pure none
  | succ n ih => exact .bind hm fun a => .ite (failStop_pure (some a)) ih

theorem Uses.repeatUntil {Q : S → Prop} (hm : m.Uses P Q) (n : Nat) :
    (m.repeatUntil accept n).Uses P Q := by
  induction n with
  | zero => exact uses_pure none
  | succ n ih => exact .bind hm fun a => .ite (uses_pure (some a)) ih

theorem Relays.repeatUntil {bus? : E → Option ε} (hm : m.Relays bus?) (n : Nat) :
    (m.repeatUntil accept n).Relays bus? := by
  induction n with
  | zero => exact relays_pure none
  | succ n ih => exact .bind hm fun a => .ite (relays_pure (some a)) ih

/-- **Rule for loops**: each call keeps the invariant, and either returns what is accepted
or makes the variant smaller.  Then the loop ends with what is accepted. -/
theorem ensures_repeatUntil {D : Device Reply ε σ} {I : S → σ → Prop}
    {G : List (Exchange Reply ε σ) → α → Prop} {variant : σ → Nat}
    (hstep : ∀ s c, I s c → (m.on s).Ensures D c fun l r c' => ∃ a, r.1 = .ok a ∧ I r.2 c' ∧
      (accept a = true ∧ G l a ∨ accept a = false ∧ variant c' < variant c))
    (n : Nat) {s : S} {c : σ} (hs : I s c) (hn : variant c < n) :
    ((m.repeatUntil accept n).on s).Ensures D c fun l r c' => I r.2 c' ∧
      ∃ a l₁ l₂, r.1 = .ok (some a) ∧ accept a = true ∧ l = l₁ ++ l₂ ∧ G l₂ a := by
  induction n generalizing s c with
  | zero => omega
  | succ n ih =>
    rw [repeatUntil, bind_on, Program.ensures_bind]
    refine (hstep s c hs).mono ?_
    rintro l ⟨r, s'⟩ c' ⟨a, hr, hs', hleave | ⟨hstay, hless⟩⟩
    · obtain rfl : r = .ok a := hr
      dsimp only
      rw [if_pos hleave.1]
      exact ⟨hs', a, [], l, rfl, hleave.1, by simp, hleave.2⟩
    · obtain rfl : r = .ok a := hr
      dsimp only
      rw [if_neg (by simp [hstay])]
      refine (ih hs' (by omega)).mono ?_
      rintro l' r' c'' ⟨hs'', b, l₁, l₂, hr', hb, rfl, hG⟩
      exact ⟨hs'', b, l ++ l₁, l₂, hr', hb, by simp, hG⟩

end Method
end Interaction
