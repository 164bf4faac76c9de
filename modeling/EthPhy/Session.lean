import EthPhy.Device
import Mathlib.Data.List.Induction

/-!
# Sessions

A session is a list of calls made one after the other.  Its log pairs every call
with its response, and `latest` asks the log for the last entry of some kind.

The rule for sessions is an induction on the last call (`play_invariant`): a
relation between the log and the state that holds at the start and is kept by
every call holds after every session.  For an object on a bus, each call's part of
it is a specification of the call's program against the device (`serve_invariant`).
-/

namespace Interaction

variable {Req : Type} {Reply : Req → Type} {ε S σ τ C A B X : Type}

/-- **A machine**: it responds to a call, and moves to a new state. -/
abbrev Machine (C A X : Type) : Type := C → X → A × X

namespace Machine

/-- The calls of a session with their responses, and the state it ends in. -/
def play (m : Machine C A X) : List C → X → List (C × A) × X
  | [], x => ([], x)
  | c :: cs, x => ((c, (m c x).1) :: (m.play cs (m c x).2).1, (m.play cs (m c x).2).2)

variable (m : Machine C A X)

theorem play_append (cs ds : List C) (x : X) :
    m.play (cs ++ ds) x =
      ((m.play cs x).1 ++ (m.play ds (m.play cs x).2).1, (m.play ds (m.play cs x).2).2) := by
  induction cs generalizing x with
  | nil => rfl
  | cons c cs ih => simp only [List.cons_append, play, ih]

/-- The last call of a session. -/
theorem play_concat (cs : List C) (c : C) (x : X) :
    m.play (cs ++ [c]) x =
      ((m.play cs x).1 ++ [(c, (m c (m.play cs x).2).1)], (m c (m.play cs x).2).2) :=
  play_append m cs [c] x

/-- The log names the calls that were made. -/
theorem play_calls (cs : List C) (x : X) : (m.play cs x).1.map Prod.fst = cs := by
  induction cs generalizing x with
  | nil => rfl
  | cons c cs ih => simp only [play, List.map_cons, ih]

/-- **Induction rule for sessions**, on the last call. -/
theorem play_invariant {ok : C → Prop} {P : List (C × A) → X → Prop}
    (hstep : ∀ log x c, ok c → P log x → P (log ++ [(c, (m c x).1)]) (m c x).2)
    {cs : List C} (hcs : ∀ c ∈ cs, ok c) {x : X} (h₀ : P [] x) :
    P (m.play cs x).1 (m.play cs x).2 := by
  induction cs using List.reverseRecOn with
  | nil => exact h₀
  | append_singleton cs c ih =>
    rw [play_concat]
    have hlast : ok c := hcs c (List.mem_append_right cs (List.mem_singleton_self c))
    exact hstep _ _ c hlast (ih fun d hd => hcs d (List.mem_append_left [c] hd))

end Machine

/-! ## Objects on a bus -/

/-- An object on a bus: its state is its own and that of the bus. -/
def serve (h : Handler Reply ε σ) (op : C → S → Program Reply ε (A × S)) :
    Machine C A (S × σ) :=
  fun c x =>
    let o := (op c x.1).run h x.2
    (o.value.1, o.value.2, o.state)

/-- **Induction rule for an object on a bus**: each call is specified against a
device the bus conforms to. -/
theorem serve_invariant {h : Handler Reply ε σ} {D : Device Reply ε τ} {view : σ → τ}
    (hD : h.Conforms D view) {op : C → S → Program Reply ε (A × S)} {ok : C → Prop}
    {P : List (C × A) → S → τ → Prop}
    (hstep : ∀ log c o t, ok c → P log o t →
      (op c o).Ensures D t fun _ r t' => P (log ++ [(c, r.1)]) r.2 t')
    {cs : List C} (hcs : ∀ c ∈ cs, ok c) {o : S} {s : σ} (h₀ : P [] o (view s)) :
    let r := (serve h op).play cs (o, s)
    P r.1 r.2.1 (view r.2.2) := by
  have hlift : ∀ (log : List (C × A)) (x : S × σ) c, ok c → P log x.1 (view x.2) →
      P (log ++ [(c, (serve h op c x).1)]) (serve h op c x).2.1 (view (serve h op c x).2.2) :=
    fun log x c hc hP => (hstep log c x.1 (view x.2) hc hP).run hD
  exact Machine.play_invariant (serve h op) (P := fun log x => P log x.1 (view x.2)) hlift hcs h₀

/-- The same when every object has its device, by a key that no call changes. -/
theorem serve_invariant_keyed {K : Type} (key : S → K) (D : K → Device Reply ε τ) {k : K}
    {h : Handler Reply ε σ} {view : σ → τ} (hD : h.Conforms (D k) view)
    {op : C → S → Program Reply ε (A × S)} {ok : C → Prop} {P : List (C × A) → S → τ → Prop}
    (hstep : ∀ log c o t, ok c → P log o t →
      (op c o).Ensures (D (key o)) t fun _ r t' =>
        key r.2 = key o ∧ P (log ++ [(c, r.1)]) r.2 t')
    {cs : List C} (hcs : ∀ c ∈ cs, ok c) {o : S} {s : σ} (hkey : key o = k)
    (h₀ : P [] o (view s)) :
    let r := (serve h op).play cs (o, s)
    key r.2.1 = k ∧ P r.1 r.2.1 (view r.2.2) := by
  refine serve_invariant (P := fun log o t => key o = k ∧ P log o t) hD ?_ hcs ⟨hkey, h₀⟩
  rintro log c o t hc ⟨rfl, hP⟩
  exact hstep log c o t hc hP

/-! ## Logs -/

/-- What the last entry of the log that `f` picks up says. -/
def latest (f : C × A → Option B) (log : List (C × A)) : Option B :=
  (log.filterMap f).getLast?

@[simp] theorem latest_nil (f : C × A → Option B) : latest f [] = none := rfl

/-- An entry that `f` picks up is the latest; any other changes nothing. -/
theorem latest_concat (f : C × A → Option B) (log : List (C × A)) (e : C × A) :
    latest f (log ++ [e]) = (f e).or (latest f log) := by
  unfold latest
  rw [List.filterMap_append]
  cases h : f e with
  | none => simp [h]
  | some b => simp [h]

end Interaction
