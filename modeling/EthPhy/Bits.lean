import Mathlib.Data.BitVec

/-!
# Masks of a bit vector

Setting, clearing and testing the bits of a mask.  Two masks are disjoint when
their conjunction is zero; for constant masks that is decided.
-/

namespace Bits

variable {w : Nat} (v : BitVec w) {m n : BitVec w}

/-- The bits a mask sets are set. -/
theorem or_and_self (m : BitVec w) : (v ||| m) &&& m = m := by
  ext i hi
  simp only [BitVec.getElem_and, BitVec.getElem_or]
  cases v[i] <;> cases m[i] <;> rfl

/-- The bits a mask clears are clear. -/
theorem andNot_and_self (m : BitVec w) : (v &&& ~~~m) &&& m = 0 := by
  ext i hi
  simp

/-- Clearing bits that are clear changes nothing. -/
theorem andNot_eq_self (h : v &&& m = 0) : v &&& ~~~m = v := by
  ext i hi
  have hi' : (v &&& m)[i] = false := by simp [h]
  simp only [BitVec.getElem_and, BitVec.getElem_not] at hi' ⊢
  revert hi'
  cases v[i] <;> cases m[i] <;> decide

/-- Clearing a mask does not show through a disjoint one. -/
theorem andNot_and_of_disjoint (h : m &&& n = 0) : (v &&& ~~~m) &&& n = v &&& n := by
  ext i hi
  have hi' : (m &&& n)[i] = false := by simp [h]
  simp only [BitVec.getElem_and, BitVec.getElem_not] at hi' ⊢
  revert hi'
  cases v[i] <;> cases m[i] <;> cases n[i] <;> decide

/-- A value with the bits of a mask clear, and then set again, differs from it
in the mask only. -/
theorem or_and_not (m : BitVec w) : (v ||| m) &&& ~~~m = v &&& ~~~m := by
  ext i hi
  simp only [BitVec.getElem_and, BitVec.getElem_or, BitVec.getElem_not]
  cases v[i] <;> cases m[i] <;> rfl

/-- Clearing and then setting a mask is setting it. -/
theorem andNot_or_self (m : BitVec w) : (v &&& ~~~m) ||| m = v ||| m := by
  ext i hi
  simp only [BitVec.getElem_and, BitVec.getElem_or, BitVec.getElem_not]
  cases v[i] <;> cases m[i] <;> rfl

/-- Clearing nothing changes nothing. -/
@[simp] theorem and_not_zero : v &&& ~~~(0 : BitVec w) = v := by
  ext i hi
  simp

/-- Testing a mask of one bit is reading that bit. -/
theorem and_twoPow_bne_zero {i : Nat} (hi : i < w) :
    (v &&& BitVec.twoPow w i != 0) = v.getLsbD i := by
  have hne : BitVec.twoPow w i ≠ 0#w := by
    intro h
    have hbit := congrArg (fun u => u.getLsbD i) h
    simp [hi] at hbit
  rw [BitVec.and_twoPow]
  cases v.getLsbD i <;> simp [hne]

/-! ## Read-modify-write -/

/-- Clear the bits of one mask, then set those of another. -/
def rmw (clear set v : BitVec w) : BitVec w := (v &&& ~~~clear) ||| set

/-- Within the bits it clears, a read-modify-write leaves those it sets. -/
theorem rmw_and_of_cleared {clear set : BitVec w} (hc : m &&& ~~~clear = 0) :
    rmw clear set v &&& m = set &&& m := by
  ext i hi
  have hi' : (m &&& ~~~clear)[i] = false := by simp [hc]
  simp only [rmw, BitVec.getElem_and, BitVec.getElem_or, BitVec.getElem_not] at hi' ⊢
  revert hi'
  cases v[i] <;> cases m[i] <;> cases clear[i] <;> cases set[i] <;> decide

/-- The bits a read-modify-write sets are set. -/
theorem rmw_and_of_set {clear set : BitVec w} (hs : m &&& ~~~set = 0) :
    rmw clear set v &&& m = m := by
  ext i hi
  have hi' : (m &&& ~~~set)[i] = false := by simp [hs]
  simp only [rmw, BitVec.getElem_and, BitVec.getElem_or, BitVec.getElem_not] at hi' ⊢
  revert hi'
  cases v[i] <;> cases m[i] <;> cases clear[i] <;> cases set[i] <;> decide

/-- A read-modify-write that does not set a clear mask leaves it clear. -/
theorem rmw_and_eq_zero {v clear set : BitVec w} (hv : v &&& m = 0) (hs : set &&& m = 0) :
    rmw clear set v &&& m = 0 := by
  ext i hi
  have hv' : (v &&& m)[i] = false := by simp [hv]
  have hs' : (set &&& m)[i] = false := by simp [hs]
  have hzero : (0 : BitVec w)[i] = false := by simp
  rw [hzero]
  simp only [rmw, BitVec.getElem_and, BitVec.getElem_or, BitVec.getElem_not] at hv' hs' ⊢
  revert hv' hs'
  cases v[i] <;> cases m[i] <;> cases clear[i] <;> cases set[i] <;> decide

/-- Setting bits and then clearing others. -/
theorem or_andNot_eq_rmw {clear set : BitVec w} (h : clear &&& set = 0) :
    (v ||| set) &&& ~~~clear = rmw clear set v := by
  ext i hi
  have hi' : (clear &&& set)[i] = false := by simp [h]
  simp only [rmw, BitVec.getElem_and, BitVec.getElem_or, BitVec.getElem_not] at hi' ⊢
  revert hi'
  cases v[i] <;> cases clear[i] <;> cases set[i] <;> decide

/-! ## Equality off a mask -/

/-- The two values agree off the mask `m`. -/
def AgreeOff (m v v' : BitVec w) : Prop := v &&& ~~~m = v' &&& ~~~m

variable {v} {v' v'' : BitVec w}

theorem AgreeOff.refl (m v : BitVec w) : AgreeOff m v v := rfl

theorem AgreeOff.trans (h : AgreeOff m v v') (h' : AgreeOff m v' v'') : AgreeOff m v v'' :=
  Eq.trans h h'

theorem AgreeOff.clear (m v : BitVec w) : AgreeOff m (v &&& ~~~m) v := by
  unfold AgreeOff
  rw [BitVec.and_assoc, BitVec.and_self]

/-- Values that agree off a mask show the same through a disjoint one. -/
theorem AgreeOff.and_eq (h : AgreeOff m v v') (hn : m &&& n = 0) : v &&& n = v' &&& n := by
  rw [← andNot_and_of_disjoint v hn, ← andNot_and_of_disjoint v' hn, show _ = _ from h]

/-- A read-modify-write keeps the agreement. -/
theorem AgreeOff.rmw (h : AgreeOff m v v') (clear set : BitVec w) :
    AgreeOff m (Bits.rmw clear set v) (Bits.rmw clear set v') := by
  ext i hi
  have hi' : (v &&& ~~~m)[i] = (v' &&& ~~~m)[i] := by rw [show _ = _ from h]
  simp only [Bits.rmw, BitVec.getElem_and, BitVec.getElem_or, BitVec.getElem_not] at hi' ⊢
  revert hi'
  cases v[i] <;> cases v'[i] <;> cases m[i] <;> cases clear[i] <;> cases set[i] <;> decide

/-- The low byte of a word made of two. -/
theorem low_byte (a b : BitVec 8) :
    ((a.setWidth 16 <<< 8 ||| b.setWidth 16) : BitVec 16).setWidth 8 = b := by
  ext i hi
  simp

/-- The high byte of a word made of two. -/
theorem high_byte (a b : BitVec 8) :
    (((a.setWidth 16 <<< 8 ||| b.setWidth 16) : BitVec 16) >>> 8).setWidth 8 = a := by
  ext i hi
  simp [show 8 + i < 16 by omega, show i < 16 by omega, BitVec.getLsbD_eq_getElem hi]

end Bits
