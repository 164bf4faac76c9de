import EthPhy.Lan87xx
import EthPhy.Bits
import EthPhy.Plan
import EthPhy.Reliable
import Mathlib.Data.Set.Basic

/-!
# The LAN87xx behind its MDIO registers

A file of Clause 22 registers.  While BMCR.RESET reads set the chip is in reset, and
anything may happen to them.  From then on BMCR is plain, but for AN_RESTART, which the
chip may clear at any time, and so is every register in `plain`; what the others hold
and read is left open.  The bus may lose any transaction, and a transaction that failed
has had no effect (`Lan87xx.device`).

`Registers.Holds` is the abstraction: the contents up to AN_RESTART, outside a reset.
A read and a write each have one specification against it.
-/

namespace EthPhy
open Interaction Ieee802_3

/-- The contents of the registers of a PHY. -/
abbrev Registers := U8 → U16

namespace Registers

/-- The chip is in reset. -/
def InReset (c : Registers) : Prop := c regs.bmcr &&& bmcr.reset ≠ 0

/-- What the chip may do on its own. -/
def Drift (plain : Set U8) (c c' : Registers) : Prop :=
  ¬c.InReset →
    (c' regs.bmcr = c regs.bmcr ∨ c' regs.bmcr = c regs.bmcr &&& ~~~bmcr.anRestart) ∧
      ∀ r ∈ plain, r ≠ regs.bmcr → c' r = c r

/-- **The documented effect of a transaction** on the chip at address `addr`.  A write
of RESET may do anything, and so may any write during a reset. -/
def Access (plain : Set U8) (addr : U8) (c : Registers) : (t : Txn) → t.Reply → Registers → Prop
  | .write a r v, _, c' =>
    if a ≠ addr then c' = c
    else ¬c.InReset → (r = regs.bmcr → v &&& bmcr.reset = 0) → c' = Function.update c r v
  | .read a r, v, c' => c' = c ∧ (a = addr → r = regs.bmcr ∨ r ∈ plain → v = c r)

/-- The documented effect, and what the chip does on its own afterwards. -/
def Effect (plain : Set U8) (addr : U8) (c : Registers) (t : Txn) (v : t.Reply)
    (c' : Registers) : Prop :=
  ∃ m, c.Access plain addr t v m ∧ m.Drift plain c'

end Registers

/-- **The LAN87xx at `addr` behind a bus that may lose any transaction.** -/
def Lan87xx.device {ε : Type} (plain : Set U8) (addr : U8) : Device Txn.Reply ε Registers :=
  Device.faulty False (Registers.Drift plain) (Registers.Effect plain addr)

/-! ## Contents -/

namespace Registers

/-- **The registers hold `f`**, BMCR up to AN_RESTART, and the chip is not in reset. -/
structure Holds (plain : Set U8) (f c : Registers) : Prop where
  settled : ¬c.InReset
  bmcr_eq : Bits.AgreeOff bmcr.anRestart (c regs.bmcr) (f regs.bmcr)
  plain_eq : ∀ r ∈ plain, r ≠ regs.bmcr → c r = f r

/-- What a read may return of registers that hold `f`. -/
structure Reads (plain : Set U8) (f : Registers) (r : U8) (v : U16) : Prop where
  bmcr : r = regs.bmcr → Bits.AgreeOff bmcr.anRestart v (f r) ∧ v &&& bmcr.reset = 0
  plain : r ∈ plain → r ≠ regs.bmcr → v = f r

variable {plain : Set U8} {f g c c' : Registers}

theorem Drift.refl (plain : Set U8) (c : Registers) : c.Drift plain c :=
  fun _ => ⟨.inl rfl, fun _ _ _ => rfl⟩

theorem Holds.refl (h : ¬c.InReset) : Holds plain c c := ⟨h, .refl _ _, fun _ _ _ => rfl⟩

theorem Holds.drift (h : Holds plain f c) (hd : c.Drift plain c') : Holds plain f c' := by
  obtain ⟨hbmcr, hplain⟩ := hd h.settled
  have hagree : Bits.AgreeOff bmcr.anRestart (c' regs.bmcr) (c regs.bmcr) := by
    rcases hbmcr with hb | hb
    · rw [hb]
      exact .refl _ _
    · rw [hb]
      exact .clear _ _
  refine ⟨?_, hagree.trans h.bmcr_eq, fun r hr hne => ?_⟩
  · unfold InReset
    rw [hagree.and_eq (by decide)]
    exact h.settled
  · exact (hplain r hr hne).trans (h.plain_eq r hr hne)

/-- A write outside a reset, and not of RESET.  AN_RESTART does not matter. -/
theorem Holds.update (h : Holds plain f c) {r : U8} {v w : U16}
    (hv : r = regs.bmcr → v &&& bmcr.reset = 0)
    (hw : if r = regs.bmcr then Bits.AgreeOff bmcr.anRestart v w else v = w) :
    Holds plain (Function.update f r w) (Function.update c r v) := by
  by_cases hr : r = regs.bmcr
  · subst hr
    rw [if_pos rfl] at hw
    refine ⟨?_, ?_, fun r hr hne => ?_⟩
    · unfold InReset
      rw [Function.update_self]
      exact fun hno => hno (hv rfl)
    · rw [Function.update_self, Function.update_self]
      exact hw
    · rw [Function.update_of_ne hne, Function.update_of_ne hne]
      exact h.plain_eq r hr hne
  · rw [if_neg hr] at hw
    subst hw
    have hne : regs.bmcr ≠ r := fun h => hr h.symm
    refine ⟨?_, ?_, fun r' hr' hne' => ?_⟩
    · unfold InReset
      rw [Function.update_of_ne hne]
      exact h.settled
    · rw [Function.update_of_ne hne, Function.update_of_ne hne]
      exact h.bmcr_eq
    · by_cases hrr : r' = r
      · rw [hrr, Function.update_self, Function.update_self]
      · rw [Function.update_of_ne hrr, Function.update_of_ne hrr]
        exact h.plain_eq r' hr' hne'

theorem Holds.reads (h : Holds plain f c) {r : U8} {v : U16}
    (hv : r = regs.bmcr ∨ r ∈ plain → v = c r) : Reads plain f r v := by
  refine ⟨fun hr => ?_, fun hr hne => ?_⟩
  · rw [hv (.inl hr), hr]
    exact ⟨h.bmcr_eq, not_not.mp h.settled⟩
  · rw [hv (.inr hr)]
    exact h.plain_eq r hr hne

end Registers

/-! ## Single transactions -/

namespace Lan87xx

variable {ε : Type} {plain : Set U8} {f : Registers} (addr : U8)

/-- A read leaves the contents alone and returns them. -/
theorem read_step {reg : U8} {c c' : Registers} {r : Except ε U16} (hc : f.Holds plain c)
    (h : device plain addr c (.read addr reg) r c') :
    f.Holds plain c' ∧ ∀ v, r = .ok v → f.Reads plain reg v := by
  cases r with
  | ok v =>
    obtain ⟨m, ⟨rfl, hget⟩, hd⟩ := h
    refine ⟨hc.drift hd, fun v' hv' => ?_⟩
    obtain rfl := Except.ok.inj hv'
    exact hc.reads (hget rfl)
  | error e =>
    rcases h with hd | ⟨hno, -⟩
    · exact ⟨hc.drift hd, fun v hv => by cases hv⟩
    · exact hno.elim

/-- A write puts the value in the register, unless it failed. -/
theorem write_step {reg : U8} {v w : U16} {c c' : Registers} {r : Except ε Unit}
    (hc : f.Holds plain c) (hv : reg = regs.bmcr → v &&& bmcr.reset = 0)
    (hw : if reg = regs.bmcr then Bits.AgreeOff bmcr.anRestart v w else v = w)
    (h : device plain addr c (.write addr reg v) r c') :
    (r = .ok () ∧ Registers.Holds plain (Function.update f reg w) c') ∨
      ((∃ e, r = .error e) ∧ f.Holds plain c') := by
  cases r with
  | ok u =>
    obtain ⟨m, hm, hd⟩ := h
    have hm : ¬c.InReset → (reg = regs.bmcr → v &&& bmcr.reset = 0) →
        m = Function.update c reg v := by
      simpa only [Registers.Access, ne_eq, not_true_eq_false, if_false] using hm
    obtain rfl := hm hc.settled hv
    exact .inl ⟨rfl, (hc.update hv hw).drift hd⟩
  | error e =>
    rcases h with hd | ⟨hno, -⟩
    · exact .inr ⟨⟨e, rfl⟩, hc.drift hd⟩
    · exact hno.elim

/-- **Rule for a read.** -/
theorem mdioRead_follows (reg : U8) :
    (mdioRead addr reg : Mdio ε U16).Follows (device plain addr) (Registers.Holds plain) False f []
      (f.Reads plain reg) := by
  intro c hc
  refine Fallible.ensures_request ?_
  intro r c' h
  obtain ⟨hc', hreads⟩ := read_step addr hc h
  exact ⟨.start (.stay hc hc') (fun _ => rfl) (fun h => h.elim), hreads⟩

/-- **Rule for a write.** -/
theorem mdioWrite_follows {reg : U8} {v w : U16} (hv : reg = regs.bmcr → v &&& bmcr.reset = 0)
    (hw : if reg = regs.bmcr then Bits.AgreeOff bmcr.anRestart v w else v = w) :
    (mdioWrite addr reg v : Mdio ε Unit).Follows (device plain addr) (Registers.Holds plain) True f
      [Function.update f reg w] fun _ => True := by
  intro c hc
  refine Fallible.ensures_request ?_
  intro r c' h
  rcases write_step addr hc hv hw h with ⟨rfl, hc'⟩ | ⟨⟨e, rfl⟩, hc'⟩
  · exact ⟨.all (.move hc hc') (fun _ => rfl), fun _ _ => trivial⟩
  · refine ⟨.start (.stay hc hc') (fun h => by cases h) ?_, fun _ _ => trivial⟩
    exact fun _ _ => List.cons_ne_nil _ _

/-- What a read that succeeds does. -/
theorem mdioRead_ensures (reg : U8) {c : Registers} (hc : f.Holds plain c) :
    (mdioRead addr reg : Mdio ε U16).run.Ensures (device plain addr) c fun l r c' =>
      ∀ v, r = .ok v → l = [⟨c, .read addr reg, .ok v, c'⟩] ∧ f.Holds plain c' ∧
        f.Reads plain reg v := by
  refine Fallible.ensures_request ?_
  rintro r c' h v rfl
  obtain ⟨hc', hreads⟩ := read_step addr hc h
  exact ⟨rfl, hc', hreads v rfl⟩

/-- What a read does when nothing fails. -/
theorem mdioRead_reliable (reg : U8) {c : Registers} (hc : f.Holds plain c) :
    (mdioRead addr reg : Mdio ε U16).run.Ensures (device plain addr).reliable c fun l r c' =>
      ∃ v, r = .ok v ∧ l = [⟨c, .read addr reg, .ok v, c'⟩] ∧ f.Holds plain c' ∧
        f.Reads plain reg v := by
  refine Fallible.reliable_request fun v c' h => ?_
  obtain ⟨hc', hreads⟩ := read_step addr hc h
  exact ⟨v, rfl, rfl, hc', hreads v rfl⟩

/-- What a write that succeeds does. -/
theorem mdioWrite_ensures {reg : U8} {v : U16} {c : Registers} (hc : f.Holds plain c)
    (hv : reg = regs.bmcr → v &&& bmcr.reset = 0) :
    (mdioWrite addr reg v : Mdio ε Unit).run.Ensures (device plain addr) c fun l r c' =>
      ∀ u, r = .ok u → l = [⟨c, .write addr reg v, .ok (), c'⟩] ∧
        Registers.Holds plain (Function.update f reg v) c' := by
  refine Fallible.ensures_request ?_
  rintro r c' h u rfl
  have hw : if reg = regs.bmcr then Bits.AgreeOff bmcr.anRestart v v else v = v := by
    split
    · exact .refl _ _
    · rfl
  rcases write_step addr hc hv hw h with ⟨-, hc'⟩ | ⟨⟨e, he⟩, -⟩
  · exact ⟨rfl, hc'⟩
  · cases he

end Lan87xx

/-! ## A chip to run the driver on -/

namespace SimulatedLan87xx

/-- A write that reaches the chip at `addr`.  A reset is over at once, and leaves a
truncated advertisement behind; AN_RESTART clears at once. -/
def afterWrite (addr : U8) (c : Registers) (a r : U8) (v : U16) : Registers :=
  if a ≠ addr then c
  else if r = regs.bmcr then
    if v &&& bmcr.reset = 0 then Function.update c r (v &&& ~~~bmcr.anRestart)
    else Function.update (Function.update c r 0x3000) regs.anar 0x0021
  else Function.update c r v

/-- The bus in front of the chip; it never fails. -/
def bus (ε : Type) (addr : U8) : MdioBus ε Registers where
  read a r c := (.ok (if a = addr then c r else 0xFFFF), c)
  write a r v c := (.ok (), afterWrite addr c a r v)

/-- The same with transactions lost as the script says. -/
def lossyBus (ε : Type) (addr : U8) : MdioBus ε (Registers × List (Option ε)) where
  read a r := (bus ε addr).handler.lossy (.read a r)
  write a r v := (bus ε addr).handler.lossy (.write a r v)

/-- A LAN8720A with its link up and negotiated to 100M full. -/
def lan8720a : Registers := fun r =>
  if r = regs.bmsr then bmsr.linkStatus
  else if r = regs.phyidr1 then 0x0007
  else if r = regs.phyidr2 then 0xC0F1
  else if r = Lan87xx.pscsr.addr then Lan87xx.pscsr.autodone ||| Lan87xx.pscsr.speed100Fd
  else 0

variable {ε : Type} (plain : Set U8) (addr : U8)

theorem afterWrite_effect (c : Registers) (a r : U8) (v : U16) :
    c.Effect plain addr (.write a r v) () (afterWrite addr c a r v) := by
  unfold afterWrite
  by_cases ha : a ≠ addr
  · rw [if_pos ha]
    exact ⟨c, by rw [Registers.Access, if_pos ha], .refl _ _⟩
  rw [if_neg ha]
  -- what a write other than one of RESET does
  have hplain : c.Access plain addr (.write a r v) () (Function.update c r v) := by
    rw [Registers.Access, if_neg ha]
    exact fun _ _ => rfl
  by_cases hr : r = regs.bmcr
  · subst hr
    rw [if_pos rfl]
    by_cases hv : v &&& bmcr.reset = 0
    · rw [if_pos hv]
      refine ⟨_, hplain, fun _ => ⟨.inr ?_, fun r _ hne => ?_⟩⟩
      · rw [Function.update_self, Function.update_self]
      · rw [Function.update_of_ne hne, Function.update_of_ne hne]
    · rw [if_neg hv]
      refine ⟨_, ?_, .refl _ _⟩
      rw [Registers.Access, if_neg ha]
      exact fun _ hreset => absurd (hreset rfl) hv
  · rw [if_neg hr]
    exact ⟨_, hplain, .refl _ _⟩

theorem bus_conforms : (bus ε addr).handler.Conforms (Lan87xx.device plain addr) id := by
  intro t c
  cases t with
  | read a r =>
    refine ⟨c, ⟨rfl, fun ha _ => ?_⟩, .refl _ _⟩
    exact if_pos ha
  | write a r v => exact afterWrite_effect plain addr c a r v

theorem lossyBus_conforms :
    (lossyBus ε addr).handler.Conforms (Lan87xx.device plain addr) Prod.fst := by
  have h := (bus_conforms plain addr).lossy (ε := ε) fun q c e => .inl (Registers.Drift.refl _ c)
  intro t s
  cases t with
  | read a r => exact h (.read a r) s
  | write a r v => exact h (.write a r v) s

end SimulatedLan87xx

end EthPhy
