import EthPhy.Requests
import EthPhy.Session

/-!
# Independent devices on one bus

The product of a family of devices: `route` says which of them a request is for,
and only that one answers it and moves.  A program whose requests are all for one
device cannot tell the product from that device (`run_product`), and so two objects
that each keep to a device of their own do not notice each other, however their
calls are interleaved (`beside_product`).
-/

namespace Interaction

variable {Req : Type} {Reply : Req → Type} {ε α : Type} {I : Type} [DecidableEq I]
  {σ : I → Type}

/-- **The product of independent devices.** -/
def Handler.product (route : Req → I) (h : (i : I) → Handler Reply ε (σ i)) :
    Handler Reply ε ((i : I) → σ i) :=
  fun q s =>
    let r := h (route q) q (s (route q))
    (r.1, Function.update s (route q) r.2)

variable {route : Req → I} {h : (i : I) → Handler Reply ε (σ i)}

/-- **A program that keeps to one device runs as on that device alone**, and leaves
the others as they are. -/
theorem run_product {p : Program Reply ε α} {i : I} {Q : α → Prop}
    (hp : p.Uses (fun q => route q = i) Q) (s : (i : I) → σ i) :
    (p.run (Handler.product route h) s).value = (p.run (h i) (s i)).value ∧
      (p.run (Handler.product route h) s).state =
        Function.update s i (p.run (h i) (s i)).state ∧
      Q (p.run (h i) (s i)).value := by
  induction p generalizing s with
  | done a => exact ⟨rfl, (Function.update_eq_self i s).symm, hp⟩
  | call q k ih =>
    obtain ⟨rfl, hk⟩ := hp
    have hrest := ih (h (route q) q (s (route q))).1 (hk _)
      (Function.update s (route q) (h (route q) q (s (route q))).2)
    simp only [Function.update_self, Function.update_idem] at hrest
    exact hrest

/-! ## Two objects beside each other -/

variable {S T A B C D : Type}

/-- Two machines with a state in common, each with calls of its own. -/
def Machine.beside {X : Type} (m : Machine C A (S × X)) (n : Machine D B (T × X)) :
    Machine (C ⊕ D) (A ⊕ B) (S × T × X)
  | .inl c, x =>
    let r := m c (x.1, x.2.2)
    (.inl r.1, r.2.1, x.2.1, r.2.2)
  | .inr d, x =>
    let r := n d (x.2.1, x.2.2)
    (.inr r.1, x.1, r.2.1, r.2.2)

/-- The part of a log that is about the first machine. -/
def leftEntry : (C ⊕ D) × (A ⊕ B) → Option (C × A)
  | (.inl c, .inl a) => some (c, a)
  | _ => none

/-- The part of a log that is about the second machine. -/
def rightEntry : (C ⊕ D) × (A ⊕ B) → Option (D × B)
  | (.inr d, .inr b) => some (d, b)
  | _ => none

section Beside

variable {op : C → S → Program Reply ε (A × S)} {op' : D → T → Program Reply ε (B × T)}
  {i j : I} {Q : S → Prop} {Q' : T → Prop}

/-- A call of an object that keeps to device `i`. -/
theorem serve_product {c : C} {o : S}
    (hop : (op c o).Uses (fun q => route q = i) fun r => Q r.2) (s : (i : I) → σ i) :
    serve (Handler.product route h) op c (o, s) =
      (((op c o).run (h i) (s i)).value.1, ((op c o).run (h i) (s i)).value.2,
        Function.update s i ((op c o).run (h i) (s i)).state) ∧
      Q ((op c o).run (h i) (s i)).value.2 := by
  obtain ⟨hvalue, hstate, hQ⟩ := run_product (h := h) hop s
  refine ⟨?_, hQ⟩
  unfold serve
  simp only [hvalue, hstate]

/-- **Two objects on devices of their own do not notice each other**: however their
calls are interleaved, the responses to each, its final state and the final state of
its device are those of its own calls alone. -/
theorem beside_product
    (hop : ∀ c o, Q o → (op c o).Uses (fun q => route q = i) fun r => Q r.2)
    (hop' : ∀ d o, Q' o → (op' d o).Uses (fun q => route q = j) fun r => Q' r.2)
    (hij : i ≠ j) (calls : List (C ⊕ D)) {o : S} {o' : T} (ho : Q o) (ho' : Q' o')
    {s t u : (i : I) → σ i} (hst : t i = s i) (hsu : u j = s j) :
    let both := ((serve (Handler.product route h) op).beside
      (serve (Handler.product route h) op')).play calls (o, o', s)
    let left := (serve (Handler.product route h) op).play (calls.filterMap Sum.getLeft?) (o, t)
    let right := (serve (Handler.product route h) op').play
      (calls.filterMap Sum.getRight?) (o', u)
    (both.1.filterMap leftEntry = left.1 ∧ both.2.1 = left.2.1 ∧ both.2.2.2 i = left.2.2 i) ∧
      (both.1.filterMap rightEntry = right.1 ∧ both.2.2.1 = right.2.1 ∧
        both.2.2.2 j = right.2.2 j) := by
  induction calls generalizing o o' s t u with
  | nil => exact ⟨⟨rfl, rfl, hst.symm⟩, rfl, rfl, hsu.symm⟩
  | cons call calls ih =>
    cases call with
    | inl c =>
      obtain ⟨hs, hQ⟩ := serve_product (h := h) (hop c o ho) s
      obtain ⟨ht, -⟩ := serve_product (h := h) (hop c o ho) t
      rw [hst] at ht
      -- the call moves device `i`, the same way in both sessions, and not device `j`
      obtain ⟨⟨hlog, hobj, hdev⟩, hright⟩ := ih hQ ho'
        (s := Function.update s i ((op c o).run (h i) (s i)).state)
        (t := Function.update t i ((op c o).run (h i) (s i)).state) (u := u)
        (by simp) (by rw [Function.update_of_ne hij.symm, hsu])
      simp only [Machine.play, Machine.beside, hs, ht, List.filterMap_cons, Sum.getLeft?_inl,
        Sum.getRight?_inl, leftEntry, rightEntry]
      exact ⟨⟨congrArg _ hlog, hobj, hdev⟩, hright⟩
    | inr d =>
      obtain ⟨hs, hQ⟩ := serve_product (h := h) (hop' d o' ho') s
      obtain ⟨hu, -⟩ := serve_product (h := h) (hop' d o' ho') u
      rw [hsu] at hu
      obtain ⟨hleft, hlog, hobj, hdev⟩ := ih ho hQ
        (s := Function.update s j ((op' d o').run (h j) (s j)).state) (t := t)
        (u := Function.update u j ((op' d o').run (h j) (s j)).state)
        (by rw [Function.update_of_ne hij, hst]) (by simp)
      simp only [Machine.play, Machine.beside, hs, hu, List.filterMap_cons, Sum.getLeft?_inr,
        Sum.getRight?_inr, leftEntry, rightEntry]
      exact ⟨hleft, congrArg _ hlog, hobj, hdev⟩

end Beside
end Interaction
