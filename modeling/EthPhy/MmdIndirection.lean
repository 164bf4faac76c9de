import EthPhy.SimulatedChip
import EthPhy.ErrorTransparency
import EthPhy.Counting

/-!
# The MMD indirection

`mmdRead`, `mmdWrite` and `mmdRmw` take four or eight transactions each, over a
latch that an earlier access may have left anywhere.  Each has one specification
here, against the chip behind a bus that may lose any transaction:

* until the data transaction no register changes, whatever the latch was, because
  the first transaction already sets the function code (`mmdSelect_ensures`);
* the data transaction of a read returns the selected register
  (`mmdRead_ensures`), that of a write stores the whole value or nothing
  (`mmdWrite_ensures`, `mmdRmw_ensures`).

Read against a chip of plain registers, this is a refinement of a flat register
file (`mmd_refines_flat`).
-/

namespace EthPhy
open Interaction Lan867x Silicon

namespace Silicon

variable {ε : Type} {V : Set MmdAddr} {c c' c'' : Silicon}

/-- Exchanges from `c` to `c'` throughout which no register changes. -/
def Quiet (V : Set MmdAddr) (c : Silicon) (l : List (Exchange Txn.Reply ε Silicon))
    (c' : Silicon) : Prop :=
  c.Agree V c' ∧ ∀ x ∈ l, c.Agree V x.pre ∧ c.Agree V x.post

theorem Quiet.nil (c : Silicon) : c.Quiet V ([] : List (Exchange Txn.Reply ε Silicon)) c :=
  ⟨Agree.refl c, fun _ hx => absurd hx List.not_mem_nil⟩

theorem Quiet.single {t : Txn} {r : Except ε t.Reply} (h : c.Agree V c') :
    c.Quiet V [⟨c, t, r, c'⟩] c' := by
  refine ⟨h, fun x hx => ?_⟩
  obtain rfl := List.mem_singleton.mp hx
  exact ⟨Agree.refl c, h⟩

theorem Quiet.append {l l' : List (Exchange Txn.Reply ε Silicon)} (h : c.Quiet V l c')
    (h' : c'.Quiet V l' c'') : c.Quiet V (l ++ l') c'' := by
  refine ⟨h.1.trans h'.1, fun x hx => ?_⟩
  rcases List.mem_append.mp hx with hx | hx
  · exact h.2 x hx
  · exact ⟨h.1.trans (h'.2 x hx).1, h.1.trans (h'.2 x hx).2⟩

/-- Exchanges that read `v` from register `x`: quiet, and ending with a data read
of that register. -/
def Fetched (V : Set MmdAddr) (addr : U8) (c : Silicon) (x : MmdAddr)
    (l : List (Exchange Txn.Reply ε Silicon)) (v : U16) (c' : Silicon) : Prop :=
  c.Quiet V l c' ∧ ∃ l₀ c₀, l = l₀ ++ [⟨c₀, .read addr regMmdad, .ok v, c'⟩] ∧
    l₀.length = 3 ∧ v = c₀.mmd x

/-- A register that is not volatile is read as it was. -/
theorem Fetched.eq {addr : U8} {x : MmdAddr} {l : List (Exchange Txn.Reply ε Silicon)} {v : U16}
    (h : c.Fetched V addr x l v c') (hx : x ∉ V) : v = c.mmd x := by
  obtain ⟨⟨-, hq⟩, l₀, c₀, rfl, -, rfl⟩ := h
  exact (hq _ (List.mem_append_right l₀ (List.mem_singleton_self _))).1 x hx

/-- Exchanges that store `v` in register `x` with the `n`-th of them, a data
write, and are quiet up to it. -/
def Stored (V : Set MmdAddr) (addr : U8) (c : Silicon) (x : MmdAddr) (v : U16) (n : Nat)
    (l : List (Exchange Txn.Reply ε Silicon)) (c' : Silicon) : Prop :=
  ∃ l₀ c₀ r, l = l₀ ++ [⟨c₀, .write addr regMmdad v, r, c'⟩] ∧ l₀.length + 1 = n ∧
    c.Quiet V l₀ c₀ ∧ ∀ y, y ∉ V → c'.mmd y = Function.update c.mmd x v y

/-- Quiet exchanges may come before those that store. -/
theorem Stored.after {addr : U8} {x : MmdAddr} {v : U16} {n : Nat}
    {l l' : List (Exchange Txn.Reply ε Silicon)} (hl : c.Quiet V l c')
    (h : c'.Stored V addr x v n l' c'') : c.Stored V addr x v (l.length + n) (l ++ l') c'' := by
  obtain ⟨l₀, c₀, r, rfl, hn, hq, hm⟩ := h
  refine ⟨l ++ l₀, c₀, r, by simp, by simp; omega, hl.append hq, fun y hy => ?_⟩
  rw [hm y hy]
  by_cases hyx : y = x
  · subst hyx
    simp
  · simp only [Function.update_of_ne hyx]
    exact hl.1 y hy

end Silicon

/-! ## Specifications -/

section Specs

variable {ε : Type} {ambiguous : Prop} {M : ChipModel} (addr devad : U8) (reg : U16) (c : Silicon)

theorem fnctn_addr (devad : U8) :
    (mmdctrlFnctnAddr ||| devadField devad).extractLsb' 14 2 = fnctnAddr := by
  revert devad
  decide

theorem fnctn_data (devad : U8) :
    (mmdctrlFnctnData ||| devadField devad).extractLsb' 14 2 = fnctnData := by
  revert devad
  decide

theorem devad_data (devad : U8) :
    (mmdctrlFnctnData ||| devadField devad).setWidth 5 = devad.setWidth 5 := by
  revert devad
  decide

/-- **Steps 1 to 3 change no register, from any latch state.**  Once they have
succeeded, `MMDAD` is a window on the selected register. -/
theorem mmdSelect_ensures :
    (mmdSelect addr devad reg : Mdio ε Unit).run.Ensures (device ambiguous M addr) c
      (fun l r c' => c.Quiet M.volatile l c' ∧
        (r = .ok () → l.length = 3 ∧ c'.fnctn = fnctnData ∧
          (c'.devad, c'.regAddr) = mmdAddr devad reg)) := by
  refine Fallible.ensures_request_bind ?_ ?_
  · intro u c₁ h₁
    obtain ⟨hq₁, hl₁⟩ := ctrl_step h₁
    obtain ⟨hf₁, -, -⟩ := hl₁ rfl
    have hf₁ : c₁.fnctn = fnctnAddr := hf₁.trans (fnctn_addr devad)
    refine Fallible.ensures_request_bind ?_ ?_
    · intro u c₂ h₂
      obtain ⟨hq₂, hl₂⟩ := pointTo_step hf₁ h₂
      refine Fallible.ensures_request ?_
      intro r c₃ h₃
      obtain ⟨hq₃, hl₃⟩ := ctrl_step h₃
      refine ⟨(Quiet.single hq₁).append ((Quiet.single hq₂).append (Quiet.single hq₃)), ?_⟩
      intro hr
      obtain ⟨hf, hd, ha⟩ := hl₃ hr
      refine ⟨rfl, hf.trans (fnctn_data devad), ?_⟩
      rw [hd, ha, hl₂ rfl, devad_data, mmdAddr]
    · intro e c₂ h₂
      have hq₂ := (pointTo_step hf₁ h₂).1
      exact ⟨(Quiet.single hq₁).append (Quiet.single hq₂), nofun⟩
  · intro e c₁ h₁
    exact ⟨Quiet.single (ctrl_step h₁).1, fun hr => by cases hr⟩

/-- **A read returns the selected register and changes none.** -/
theorem mmdRead_ensures :
    (mmdRead addr devad reg : Mdio ε U16).run.Ensures (device ambiguous M addr) c
      (fun l r c' => c.Quiet M.volatile l c' ∧
        ∀ v, r = .ok v → c.Fetched M.volatile addr (mmdAddr devad reg) l v c') := by
  refine Fallible.ensures_bind (mmdSelect_ensures addr devad reg c) ?_ ?_
  · rintro l ⟨⟩ c₁ ⟨hq, hsel⟩
    obtain ⟨hlen, hf, hx⟩ := hsel rfl
    refine Fallible.ensures_request ?_
    intro r c₂ h₂
    obtain ⟨hq₂, hv⟩ := load_step hf h₂
    have hquiet : c.Quiet M.volatile (l ++ [⟨c₁, .read addr regMmdad, r, c₂⟩]) c₂ :=
      hq.append (Quiet.single hq₂)
    refine ⟨hquiet, ?_⟩
    rintro v rfl
    exact ⟨hquiet, l, c₁, rfl, hlen, by rw [hv v rfl, Silicon.load, hx]⟩
  · rintro l e c₁ ⟨hq, -⟩
    exact ⟨hq, fun v hr => by cases hr⟩

/-- **A write stores the whole value or nothing**, and nothing only if it
failed. -/
theorem mmdWrite_ensures (value : U16) :
    (mmdWrite addr devad reg value : Mdio ε Unit).run.Ensures (device ambiguous M addr) c
      (fun l r c' => ((∃ e, r = .error e) ∧ c.Quiet M.volatile l c') ∨
        ((ambiguous ∨ r = .ok ()) ∧
          c.Stored M.volatile addr (mmdAddr devad reg) value 4 l c')) := by
  refine Fallible.ensures_bind (mmdSelect_ensures addr devad reg c) ?_ ?_
  · rintro l ⟨⟩ c₁ ⟨hq, hsel⟩
    obtain ⟨hlen, hf, hx⟩ := hsel rfl
    refine Fallible.ensures_request ?_
    intro r c₂ h₂
    rcases store_step hf h₂ with ⟨he, hq₂⟩ | ⟨hr, hst⟩
    · exact .inl ⟨he, hq.append (Quiet.single hq₂)⟩
    · have hone : c₁.Stored M.volatile addr (mmdAddr devad reg) value 1
          [⟨c₁, .write addr regMmdad value, r, c₂⟩] c₂ :=
        ⟨[], c₁, r, rfl, rfl, Quiet.nil c₁, fun y hy => by rw [hst y hy, Silicon.store, hx]⟩
      have hall := hone.after hq
      rw [hlen] at hall
      exact .inr ⟨hr, hall⟩
  · rintro l e c₁ ⟨hq, -⟩
    exact .inl ⟨⟨e, rfl⟩, hq⟩

/-- **A read-modify-write stores the modified value or nothing**, and nothing
only if it failed. -/
theorem mmdRmw_ensures (clearMask setMask : U16) (hx : mmdAddr devad reg ∉ M.volatile) :
    (mmdRmw addr devad reg clearMask setMask : Mdio ε Unit).run.Ensures (device ambiguous M addr) c
      (fun l r c' => ((∃ e, r = .error e) ∧ c.Quiet M.volatile l c') ∨
        ((ambiguous ∨ r = .ok ()) ∧
          c.Stored M.volatile addr (mmdAddr devad reg)
            ((c.mmd (mmdAddr devad reg) &&& ~~~clearMask) ||| setMask) 8 l c')) := by
  refine Fallible.ensures_bind (mmdRead_ensures addr devad reg c) ?_ ?_
  · rintro l v c₁ ⟨hq, hfetch⟩
    have hfetch := hfetch v rfl
    have hv := hfetch.eq hx
    have hlen : l.length = 4 := by
      obtain ⟨-, l₀, c₀, rfl, h₀, -⟩ := hfetch
      simp [h₀]
    subst hv
    refine (mmdWrite_ensures addr devad reg c₁ _).mono ?_
    rintro l' r c₂ (⟨he, hq'⟩ | ⟨hr, hst⟩)
    · exact .inl ⟨he, hq.append hq'⟩
    · have hall := hst.after hq
      rw [hlen] at hall
      exact .inr ⟨hr, hall⟩
  · rintro l e c₁ ⟨hq, -⟩
    exact .inl ⟨⟨e, rfl⟩, hq⟩

end Specs

/-! ## The number of transactions -/

section Counts

variable {ε : Type} (addr devad : U8) (reg : U16)

theorem mdioRead_takes (r : U8) : (mdioRead addr r : Mdio ε U16).Takes 1 1 :=
  Fallible.takes_request _

theorem mdioWrite_takes (r : U8) (v : U16) : (mdioWrite addr r v : Mdio ε Unit).Takes 1 1 :=
  Fallible.takes_request _

theorem mmdSelect_takes : (mmdSelect addr devad reg : Mdio ε Unit).Takes 3 3 :=
  (mdioWrite_takes _ _ _).bind fun _ => (mdioWrite_takes _ _ _).bind fun _ => mdioWrite_takes _ _ _

theorem mmdRead_takes : (mmdRead addr devad reg : Mdio ε U16).Takes 4 4 :=
  (mmdSelect_takes addr devad reg).bind fun _ => mdioRead_takes _ _

theorem mmdWrite_takes (v : U16) : (mmdWrite addr devad reg v : Mdio ε Unit).Takes 4 4 :=
  (mmdSelect_takes addr devad reg).bind fun _ => mdioWrite_takes _ _ _

theorem mmdRmw_takes (clear set : U16) :
    (mmdRmw addr devad reg clear set : Mdio ε Unit).Takes 8 8 :=
  (mmdRead_takes addr devad reg).bind fun _ => mmdWrite_takes _ _ _ _

end Counts

/-! ## The indirection refines a flat register file -/

/-- **A run of an access that should take the register file from `f` to `f'` and
return `v`**, its `n`-th transaction being the data transaction.  Without faults it
does.  With one, its error is returned, and the register file is either untouched
or, if the transaction that failed was the data transaction, already `f'`. -/
structure RefinesFlat {ε α : Type} (f f' : MmdAddr → U16) (v : α) (n : Nat)
    (o : Outcome Txn.Reply ε Silicon (Except ε α)) : Prop where
  faultFree : o.FaultFree → o.value = .ok v ∧ o.state.mmd = f'
  faulty : ¬ o.FaultFree → ∃ l x e, o.trace = l ++ [x] ∧ (∀ y ∈ l, y.fault = none) ∧
    x.fault = some e ∧ o.value = .error e ∧
      (o.state.mmd = f ∨ (o.state.mmd = f' ∧ o.trace.length = n))

section Refinement

variable {ε σ : Type} {bus : MdioBus ε σ} {view : σ → Silicon} {addr : U8}

theorem agree_flat {c c' : Silicon} (h : c.Agree ChipModel.flat.volatile c') : c'.mmd = c.mmd :=
  funext fun x => h x (Set.notMem_empty x)

theorem stored_flat {c c' : Silicon} {x : MmdAddr} {v : U16} {n : Nat}
    {l : List (Exchange Txn.Reply ε Silicon)}
    (h : c.Stored ChipModel.flat.volatile addr x v n l c') :
    c'.mmd = Function.update c.mmd x v ∧ l.length = n := by
  obtain ⟨l₀, c₀, r, rfl, hn, -, hm⟩ := h
  refine ⟨funext fun y => hm y (Set.notMem_empty y), ?_⟩
  simpa using hn

/-- A fail-stop access refines a flat register file if it ends in one of the two
ways an access ends. -/
theorem refinesFlat_of_ensures {α : Type} {p : Mdio ε α} {v : α} {n : Nat} {s : σ}
    {f' : MmdAddr → U16} (hbus : bus.handler.Conforms (device True .flat addr) view)
    (hp : p.FailStop)
    (hend : p.run.Ensures (device True .flat addr) (view s) fun l r c' =>
      ((∃ e, r = .error e) ∧ c'.mmd = (view s).mmd) ∨ (c'.mmd = f' ∧ l.length = n ∧
        ∀ w, r = .ok w → w = v)) :
    RefinesFlat (view s).mmd f' v n ((p.run.run bus.handler s).map view) := by
  have hrun := hend.run hbus
  refine ⟨fun hff => ?_, fun hnff => ?_⟩
  · have hnone : reported some (p.run.run bus.handler s).value = none :=
      (Program.FailStop.faultFree_iff hp bus.handler s).mp ((Outcome.map_faultFree view _).mp hff)
    rcases hrun with ⟨⟨e, he⟩, -⟩ | ⟨hm, -, hv⟩
    · rw [Outcome.map_value] at he
      rw [he] at hnone
      cases hnone
    · refine ⟨?_, hm⟩
      cases hr : (p.run.run bus.handler s).value with
      | error e =>
        rw [hr] at hnone
        cases hnone
      | ok w => exact hr.trans (congrArg _ (hv w hr))
  · rcases hp.run bus.handler s with ⟨hff, -⟩ | ⟨l, x, e, htr, hl, hx, hval⟩
    · exact absurd ((Outcome.map_faultFree view _).mpr hff) hnff
    · refine ⟨l.map (Exchange.map view), x.map view, e, ?_, ?_, ?_, ?_, ?_⟩
      · simp [htr]
      · intro y hy
        obtain ⟨z, hz, rfl⟩ := List.mem_map.mp hy
        exact (Exchange.map_fault view z).trans (hl z hz)
      · exact (Exchange.map_fault view x).trans hx
      · exact reported_some_iff.mp hval
      · rcases hrun with ⟨-, hm⟩ | ⟨hm, hn, -⟩
        · exact .inl hm
        · exact .inr ⟨hm, hn⟩

end Refinement

/-- **The MMD indirection refines a flat register file**, from any latch state and
under ambiguous faults, on every bus that conforms to the bare indirection. -/
theorem mmd_refines_flat {ε σ : Type} (bus : MdioBus ε σ) (view : σ → Silicon) (addr : U8)
    (hbus : bus.handler.Conforms (device True .flat addr) view) (s : σ) (devad : U8) (reg : U16) :
    let f := (view s).mmd
    let x := mmdAddr devad reg
    RefinesFlat f f (f x) 4
      (((mmdRead addr devad reg).run.run bus.handler s).map view) ∧
    (∀ value, RefinesFlat f (Function.update f x value) () 4
      (((mmdWrite addr devad reg value).run.run bus.handler s).map view)) ∧
    (∀ clearMask setMask,
      RefinesFlat f (Function.update f x ((f x &&& ~~~clearMask) ||| setMask)) () 8
        (((mmdRmw addr devad reg clearMask setMask).run.run bus.handler s).map view)) := by
  have hx : mmdAddr devad reg ∉ ChipModel.flat.volatile := Set.notMem_empty _
  refine ⟨?_, fun value => ?_, fun clearMask setMask => ?_⟩
  · refine refinesFlat_of_ensures hbus (mmdRead_failStop addr devad reg) ?_
    refine (mmdRead_ensures addr devad reg (view s)).mono ?_
    rintro l r c' ⟨hq, hfetch⟩
    cases r with
    | error e => exact .inl ⟨⟨e, rfl⟩, agree_flat hq.1⟩
    | ok v =>
      obtain ⟨-, l₀, c₀, hl, hlen, -⟩ := hfetch v rfl
      exact .inr ⟨agree_flat hq.1, by simp [hl, hlen], fun w hw => (hfetch w hw).eq hx⟩
  · refine refinesFlat_of_ensures hbus (mmdWrite_failStop addr devad reg value) ?_
    refine (mmdWrite_ensures addr devad reg (view s) value).mono ?_
    rintro l r c' (⟨he, hq⟩ | ⟨-, hst⟩)
    · exact .inl ⟨he, agree_flat hq.1⟩
    · exact .inr ⟨(stored_flat hst).1, (stored_flat hst).2, fun _ _ => rfl⟩
  · refine refinesFlat_of_ensures hbus (mmdRmw_failStop addr devad reg clearMask setMask) ?_
    refine (mmdRmw_ensures addr devad reg (view s) clearMask setMask hx).mono ?_
    rintro l r c' (⟨he, hq⟩ | ⟨-, hst⟩)
    · exact .inl ⟨he, agree_flat hq.1⟩
    · exact .inr ⟨(stored_flat hst).1, (stored_flat hst).2, fun _ _ => rfl⟩

/-- A bus that delivers seven transactions, and the eighth without confirming it,
in front of a chip left in mid-access. -/
def staleStart : SimState String :=
  ⟨staleChip, List.replicate 7 .delivered ++ [.unconfirmed "timeout"]⟩

/-- A read-modify-write over a stale latch, its data write not confirmed. -/
theorem mmd_refines_flat_unconfirmed :
    RefinesFlat staleChip.mmd
      (Function.update staleChip.mmd (mmdAddr 31 0xCA01)
        ((staleChip.mmd (mmdAddr 31 0xCA01) &&& ~~~0) ||| 0x8000)) () 8
      (((mmdRmw 3 31 0xCA01 0 0x8000).run.run (SimulatedChip.flat.bus 3 true).handler
        staleStart).map SimState.chip) :=
  (mmd_refines_flat _ _ 3 (SimulatedChip.flat.conforms 3 true fun _ => trivial)
    staleStart 31 0xCA01).2.2 0 0x8000

end EthPhy
