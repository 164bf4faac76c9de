import EthPhy.Bits
import Mathlib.Data.List.Induction

/-!
# Sequences of read-modify-writes

An update clears the bits of one mask of a register and then sets those of another, and
touches no other bit.  Of a sequence of updates only the last one to touch a field is seen
in it, so long as each update writes the field whole or leaves it alone (`run_and`).
Updates that touch different bits commute, and an update erases every trace of an earlier
one within the bits it touches.
-/

namespace Bits

/-- **An update of a register**: the bits it clears, and those it then sets. -/
structure Update (w : Nat) where
  clear : BitVec w
  set : BitVec w
  deriving DecidableEq, Repr

namespace Update

variable {w : Nat} {u u' : Update w} {us : List (Update w)} {m : BitVec w}

/-- What the update makes of a value. -/
def apply (u : Update w) (v : BitVec w) : BitVec w := rmw u.clear u.set v

/-- What a sequence of updates makes of a value. -/
def run (us : List (Update w)) (v : BitVec w) : BitVec w := us.foldl (fun v u => u.apply v) v

/-- The bits the update touches. -/
def mask (u : Update w) : BitVec w := u.clear ||| u.set

/-- The update touches no bit of the field `m`. -/
def Skips (m : BitVec w) (u : Update w) : Prop := u.mask &&& m = 0

/-- The update writes every bit of the field `m`. -/
def Writes (m : BitVec w) (u : Update w) : Prop := m &&& ~~~u.mask = 0

instance (m : BitVec w) (u : Update w) : Decidable (u.Skips m) :=
  inferInstanceAs (Decidable (_ = _))

instance (m : BitVec w) (u : Update w) : Decidable (u.Writes m) :=
  inferInstanceAs (Decidable (_ = _))

theorem run_append (us us' : List (Update w)) (v : BitVec w) :
    run (us ++ us') v = run us' (run us v) := List.foldl_append

theorem run_concat (us : List (Update w)) (u : Update w) (v : BitVec w) :
    run (us ++ [u]) v = u.apply (run us v) := run_append us [u] v

theorem run_cons (u : Update w) (us : List (Update w)) (v : BitVec w) :
    run (u :: us) v = run us (u.apply v) := rfl

/-! ## Fields -/

/-- A field that is skipped keeps its bits. -/
theorem Skips.apply_and (h : u.Skips m) (v : BitVec w) : u.apply v &&& m = v &&& m := by
  ext i hi
  have hi' : (u.mask &&& m)[i] = false := by simp [show _ = _ from h]
  simp only [mask, apply, rmw, BitVec.getElem_and, BitVec.getElem_or, BitVec.getElem_not] at hi' ⊢
  revert hi'
  cases v[i] <;> cases m[i] <;> cases u.clear[i] <;> cases u.set[i] <;> decide

/-- A field that is written holds what was set of it. -/
theorem Writes.apply_and (h : u.Writes m) (v : BitVec w) : u.apply v &&& m = u.set &&& m := by
  ext i hi
  have hi' : (m &&& ~~~u.mask)[i] = false := by simp [show _ = _ from h]
  simp only [mask, apply, rmw, BitVec.getElem_and, BitVec.getElem_or, BitVec.getElem_not] at hi' ⊢
  revert hi'
  cases v[i] <;> cases m[i] <;> cases u.clear[i] <;> cases u.set[i] <;> decide

section Commands

variable {B C : Type} (say : C → Option B) (value : B → BitVec w)

/-- What the last of the commands `cs` to have a say in a field puts there, or `old`, if
none has. -/
def lastSaid (cs : List C) (old : BitVec w) : BitVec w :=
  ((cs.filterMap say).getLast?.map value).getD old

theorem lastSaid_concat (cs : List C) (c : C) (old : BitVec w) :
    lastSaid say value (cs ++ [c]) old =
      ((say c).map value).getD (lastSaid say value cs old) := by
  unfold lastSaid
  rw [List.filterMap_append]
  cases h : say c with
  | none => simp [h]
  | some b => simp [h]

variable {say value}

/-- Where all commands that have a say put the same, it matters only whether there is
one. -/
theorem lastSaid_const {z : BitVec w} (hz : ∀ b, value b = z) (cs : List C) (old : BitVec w) :
    lastSaid say value cs old = if ∃ c ∈ cs, say c ≠ none then z else old := by
  induction cs using List.reverseRecOn with
  | nil => simp [lastSaid]
  | append_singleton cs c ih =>
    rw [lastSaid_concat, ih]
    cases h : say c with
    | none => simp [h]
    | some b => simp [h, hz]

/-- **The last update to write a field is the one seen in it**: each command that has a
say in the field `m` writes it, and the others skip it. -/
theorem run_map_and {update : C → Update w}
    (hsay : ∀ c b, say c = some b → (update c).Writes m ∧ (update c).set &&& m = value b)
    (hskips : ∀ c, say c = none → (update c).Skips m) (cs : List C) (v : BitVec w) :
    run (cs.map update) v &&& m = lastSaid say value cs (v &&& m) := by
  induction cs using List.reverseRecOn with
  | nil => rfl
  | append_singleton cs c ih =>
    rw [List.map_append, List.map_singleton, run_concat, lastSaid_concat]
    cases h : say c with
    | none => rw [(hskips c h).apply_and, ih, Option.map_none, Option.getD_none]
    | some b =>
      obtain ⟨hwrites, hvalue⟩ := hsay c b h
      rw [hwrites.apply_and, hvalue, Option.map_some, Option.getD_some]

end Commands

/-- Bits that no update touches are kept. -/
theorem run_and_of_skips (h : ∀ u ∈ us, u.Skips m) (v : BitVec w) :
    run us v &&& m = v &&& m := by
  induction us generalizing v with
  | nil => rfl
  | cons u us ih =>
    rw [run_cons, ih (fun u' hu' => h u' (List.mem_cons_of_mem u hu'))]
    exact (h u List.mem_cons_self).apply_and v

/-! ## Order -/

/-- Updates that touch different bits commute. -/
theorem apply_comm (h : u.mask &&& u'.mask = 0) (v : BitVec w) :
    u.apply (u'.apply v) = u'.apply (u.apply v) := by
  ext i hi
  have hi' : (u.mask &&& u'.mask)[i] = false := by simp [h]
  simp only [mask, apply, rmw, BitVec.getElem_and, BitVec.getElem_or, BitVec.getElem_not] at hi' ⊢
  revert hi'
  cases v[i] <;> cases u.clear[i] <;> cases u.set[i] <;> cases u'.clear[i] <;>
    cases u'.set[i] <;> decide

/-- An update does not see what was in the bits it touches. -/
theorem apply_congr {v v' : BitVec w} (h : AgreeOff u.mask v v') : u.apply v = u.apply v' := by
  ext i hi
  have hi' : (v &&& ~~~u.mask)[i] = (v' &&& ~~~u.mask)[i] := by rw [show _ = _ from h]
  simp only [mask, apply, rmw, BitVec.getElem_and, BitVec.getElem_or, BitVec.getElem_not] at hi' ⊢
  revert hi'
  cases v[i] <;> cases v'[i] <;> cases u.clear[i] <;> cases u.set[i] <;> decide

variable {C : Type} {update : C → Update w}

/-- Updates within the mask may be left out, as far as the other bits go. -/
theorem run_filter_agreeOff (keep : C → Bool) {cs : List C}
    (h : ∀ c ∈ cs, keep c = false → (update c).Skips (~~~m)) {v v' : BitVec w}
    (hv : AgreeOff m v v') :
    AgreeOff m (run (cs.map update) v) (run ((cs.filter keep).map update) v') := by
  induction cs generalizing v v' with
  | nil => exact hv
  | cons c cs ih =>
    have hcs : ∀ c ∈ cs, keep c = false → (update c).Skips (~~~m) :=
      fun c' hc' => h c' (List.mem_cons_of_mem c hc')
    cases hkeep : keep c with
    | true =>
      rw [List.filter_cons_of_pos hkeep]
      exact ih hcs (hv.rmw (update c).clear (update c).set)
    | false =>
      rw [List.filter_cons_of_neg (by simp [hkeep])]
      exact ih hcs (((h c List.mem_cons_self hkeep).apply_and v).trans hv)

/-- **An update erases all trace of earlier ones** within the bits it touches. -/
theorem run_filter_cons (keep : C → Bool) {c : C} {cs : List C}
    (h : ∀ c' ∈ cs, keep c' = false → (update c').Skips (~~~(update c).mask)) (cs' : List C)
    (v : BitVec w) :
    run ((cs ++ c :: cs').map update) v = run ((cs.filter keep ++ c :: cs').map update) v := by
  have hcs := apply_congr (run_filter_agreeOff keep h (.refl _ v))
  simp only [List.map_append, List.map_cons, run_append, run_cons, hcs]

end Update
end Bits
