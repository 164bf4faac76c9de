import EthPhy.CacheAgreement
import EthPhy.Requests

/-!
# The reset pin

`PhyLan867xWithReset` is a `PhyLan867x` with a `RESET_N` line.  Pulling the line low
puts every register of the chip back to its default, behind the back of the driver:
`hardwareReset` leaves `chip` set, though `pollLink` takes a set `chip` for a chip in
multidrop mode.

So whether a link reported up can be believed depends on the order of the calls, and
on nothing else: exactly when `RESET_N` has not been low since the last call of `init`
(`link_honest_iff`).
-/

namespace EthPhy
open Interaction Lan867x

variable {ε π σ : Type}

/-! ## The pin -/

/-- What the driver asks of an `OutputPin` and of a `DelayNs`. -/
inductive PinTxn where
  | setLow
  | setHigh
  | delayMs (ms : U32)
  deriving DecidableEq, Repr

/-- None of it returns anything. -/
abbrev PinTxn.Reply : PinTxn → Type := fun _ => Unit

/-- A board: an MDIO bus, a reset pin, and a way to wait, which cannot fail. -/
structure Board (ε π σ : Type) where
  bus : MdioBus ε σ
  setLow : σ → Except π Unit × σ
  setHigh : σ → Except π Unit × σ
  delayMs (ms : U32) : σ → σ

/-- A board answers what the driver asks of its pin. -/
def Board.pin (board : Board ε π σ) : Handler PinTxn.Reply π σ
  | .setLow => board.setLow
  | .setHigh => board.setHigh
  | .delayMs ms => fun s => (.ok (), board.delayMs ms s)

/-! ## The driver -/

/-- LAN867x PHY driver with a hardware reset pin.  The pin is part of the board. -/
structure PhyLan867xWithReset where
  inner : PhyLan867x
  deriving DecidableEq, Repr

namespace PhyLan867xWithReset

/-- A new driver with the given MDIO address. -/
def new (addr : U8) : PhyLan867xWithReset := ⟨.new addr⟩

/-- Drive `RESET_N` low for 10 ms, then wait 25 ms after release. -/
def hardwareReset : Fallible PinTxn.Reply π Unit := do
  request .setLow
  request (.delayMs 10)
  request .setHigh
  request (.delayMs 25)

end PhyLan867xWithReset

/-- A call: an operation of the inner driver, forwarded or made through
`inner_mut`, or `hardwareReset`. -/
inductive WithResetCall where
  | inner (call : Lan867xCall)
  | hardwareReset
  deriving DecidableEq, Repr

/-- The answer to a call.  For a `hardwareReset` it tells as well whether `RESET_N`
has been low, as it may have been when the call fails. -/
inductive Answer (ε π : Type) where
  | inner (r : Response ε)
  | pin (low : Bool) (r : Except π Unit)

/-- `RESET_N` has been driven low. -/
def pulledLow (l : List (Exchange PinTxn.Reply π σ)) : Bool :=
  l.any fun x => x.req == .setLow && x.fault.isNone

theorem pulledLow_map {β : Type} (view : σ → β) (l : List (Exchange PinTxn.Reply π σ)) :
    pulledLow (l.map (Exchange.map view)) = pulledLow l := by
  simp only [pulledLow, List.any_map, Function.comp_def, Exchange.map_fault]
  rfl

/-- The driver on a board. -/
def WithResetCall.serve (board : Board ε π σ) :
    Machine WithResetCall (Answer ε π) (PhyLan867xWithReset × σ)
  | .inner call, x =>
    let o := (call.op x.1.inner).run board.bus.handler x.2
    (.inner o.value.1, ⟨o.value.2⟩, o.state)
  | .hardwareReset, x =>
    let o := PhyLan867xWithReset.hardwareReset.run.run board.pin x.2
    (.pin (pulledLow o.trace) o.value, x.1, o.state)

/-! ## The chip behind the pin -/

/-- What the pin does to the chip: low resets it. -/
def PinTxn.Effect (d : Datasheet) (c : Silicon) : (t : PinTxn) → t.Reply → Silicon → Prop
  | .setLow, _, c' => ∃ m, (lan867x d).reset c m ∧ m.Drift d.status c'
  | .setHigh, _, c' | .delayMs _, _, c' => c.Drift d.status c'

/-- **The chip behind a reset pin that may fail.**  What is asked of the pin and fails has
no effect: a `setLow` that fails does not reset the chip. -/
def Lan867x.resetPin (d : Datasheet) : Device PinTxn.Reply π Silicon :=
  Device.faulty False (Silicon.Drift d.status) (PinTxn.Effect d)

/-- Once the line has been low, nothing changes the registers. -/
theorem resetPin_keeps {d : Datasheet} {f : RegFile} {c c' : Silicon} {t : PinTxn}
    {r : Except π t.Reply} (ht : t ≠ .setLow) (h : resetPin d c t r c')
    (hc : c.Holds d.status f) : c'.Holds d.status f := by
  have hdrift : c.Drift d.status c' := by
    cases r with
    | error e =>
      rcases h with hd | ⟨hno, -⟩
      · exact hd
      · exact hno.elim
    | ok u =>
      cases t with
      | setLow => exact absurd rfl ht
      | setHigh => exact h
      | delayMs ms => exact h
  exact hc.of_agree hdrift.agree

/-- **What `hardwareReset` does to the chip**: it puts every register back to its
default, and if it never had the line low, it does nothing. -/
theorem hardwareReset_ensures (d : Datasheet) (c : Silicon) :
    (PhyLan867xWithReset.hardwareReset : Fallible PinTxn.Reply π Unit).run.Ensures (resetPin d) c
      fun l _ c' => (pulledLow l = true ∧ c'.Holds d.status d.defaults) ∨
        (pulledLow l = false ∧ c.Agree d.status c') := by
  refine Fallible.ensures_request_bind ?_ ?_
  · rintro u c₁ ⟨m, hm, hd⟩
    have hlow : c₁.Holds d.status d.defaults :=
      fun x hx => (hd.agree x hx).trans (congrFun hm x)
    have huses : Fallible.Uses (· ≠ PinTxn.setLow) (do
        request (.delayMs 10)
        request .setHigh
        request (.delayMs 25) : Fallible PinTxn.Reply π Unit) :=
      .bind (Fallible.uses_request nofun) fun _ =>
        .bind (Fallible.uses_request nofun) fun _ => Fallible.uses_request nofun
    have hkept := huses.ensures (D := resetPin d) (I := Silicon.Holds d.status d.defaults)
      (fun _ _ _ _ ht h => resetPin_keeps ht h) hlow
    exact hkept.mono fun l r c' h => .inl ⟨rfl, h.2⟩
  · rintro e c₁ (hd | ⟨hno, -⟩)
    · exact .inr ⟨rfl, hd.agree⟩
    · exact hno.elim

/-! ## The gate -/

/-- Whether an entry of the log resets the chip or brings it up, and then whether it
was a complete `init`. -/
def initSinceReset : WithResetCall × Answer ε π → Option Bool
  | (.inner .init, .inner r) => some r.isOk
  | (.hardwareReset, .pin true _) => some false
  | _ => none

/-- Whether an entry of the log calls `init` or has `RESET_N` low, and then whether
it is the pin. -/
def lowSinceInit : WithResetCall × Answer ε π → Option Bool
  | (.inner .init, _) => some false
  | (.hardwareReset, .pin true _) => some true
  | _ => none

/-- **What a link reported up promises**: a complete `init` has succeeded since the
last reset of the chip, and multidrop mode is on. -/
structure LinkHonest (log : List (WithResetCall × Answer ε π)) (f : RegFile) : Prop where
  initialised : latest initSinceReset log = some true
  multidrop : f.MultidropOn

/-- **What a set `chip` amounts to**: everything it should, if `RESET_N` has not been
low since `init`, and otherwise multidrop mode is off. -/
def ChipSet (log : List (WithResetCall × Answer ε π)) (f : RegFile) : Prop :=
  (latest lowSinceInit log ≠ some true ∧ LinkHonest log f) ∨
    (latest lowSinceInit log = some true ∧ ¬f.MultidropOn)

section Gate

variable {d : Datasheet} {phy : PhyLan867x} {c : Silicon}
  {log : List (WithResetCall × Answer ε π)}

/-- Only `T1SPMACTL` matters. -/
theorem ChipSet.congr {f f' : RegFile} (h : ChipSet log f) (ht1 : f' t1spmactl = f t1spmactl) :
    ChipSet log f' := by
  have hon : f'.MultidropOn ↔ f.MultidropOn := by
    unfold RegFile.MultidropOn
    rw [ht1]
  rcases h with ⟨hlow, hinit, hmde⟩ | ⟨hlow, hmde⟩
  · exact .inl ⟨hlow, hinit, hon.mpr hmde⟩
  · exact .inr ⟨hlow, fun h => hmde (hon.mp h)⟩

/-- An entry of neither kind changes nothing. -/
theorem ChipSet.concat {f : RegFile} (h : ChipSet log f) {e : WithResetCall × Answer ε π}
    (he : initSinceReset e = none) (he' : lowSinceInit e = none) : ChipSet (log ++ [e]) f := by
  have hinit : latest initSinceReset (log ++ [e]) = latest initSinceReset log := by
    rw [latest_concat, he, Option.none_or]
  have hlow : latest lowSinceInit (log ++ [e]) = latest lowSinceInit log := by
    rw [latest_concat, he', Option.none_or]
  unfold ChipSet
  rw [hlow]
  exact h.imp_left fun h => ⟨h.1, hinit.trans h.2.initialised, h.2.multidrop⟩

/-- A step of the inner driver. -/
theorem chipSet_inner (call : Lan867xCall) (h : phy.chip.isSome = true → ChipSet log c.mmd) :
    (call.op phy : Program Txn.Reply ε _).Ensures (device True (lan867x d) phy.addr) c
      fun _ r c' => r.2.addr = phy.addr ∧
        (r.2.chip.isSome = true → ChipSet (log ++ [(.inner call, .inner r.1)]) c'.mmd) := by
  refine (call.follows d phy (f := c.mmd) (fun _ _ => rfl)).mono ?_
  rintro l ⟨r, phy'⟩ c' ⟨hprog, hupd⟩
  refine ⟨hupd.addr, fun hsome => ?_⟩
  by_cases hcall : call = .init
  · subst hcall
    have hok : r.isOk = true := hupd.2.2.symm.trans hsome
    have hregs : c'.Holds d.status _ := hprog.reached hok
    refine .inl ⟨?_, ?_, hregs.multidropOn.mpr (Lan867xCall.initialised d).1⟩
    · rw [latest_concat]
      exact nofun
    · rw [latest_concat]
      exact congrArg some hok
  · have ht1 := call.t1spmactl_kept hcall hprog
    have hnone : initSinceReset (.inner call, (.inner r : Answer ε π)) = none ∧
        lowSinceInit (.inner call, (.inner r : Answer ε π)) = none := by
      cases call with
      | init => exact absurd rfl hcall
      | _ => exact ⟨rfl, rfl⟩
    exact ((h (hupd.chip_eq hcall ▸ hsome)).congr ht1).concat hnone.1 hnone.2

/-- `pollLink` does not write `T1SPMACTL`. -/
theorem pollLink_keeps (d : Datasheet) (phy : PhyLan867x) (c : Silicon) :
    (Lan867xCall.pollLink.op phy : Program Txn.Reply ε _).Ensures
      (device True (lan867x d) phy.addr) c fun _ _ c' => c'.mmd t1spmactl = c.mmd t1spmactl :=
  (Lan867xCall.pollLink.follows d phy (f := c.mmd) (fun _ _ => rfl)).mono
    fun _ _ _ h => Lan867xCall.pollLink.t1spmactl_kept nofun h.1

/-- A reset through the pin. -/
theorem chipSet_pin (h : phy.chip.isSome = true → ChipSet log c.mmd) :
    (PhyLan867xWithReset.hardwareReset : Fallible PinTxn.Reply π Unit).run.Ensures (resetPin d) c
      fun l r c' => phy.chip.isSome = true →
        ChipSet (log ++ [(.hardwareReset, .pin (pulledLow l) r)]) c'.mmd := by
  refine (hardwareReset_ensures d c).mono ?_
  rintro l r c' (⟨hlow, hc'⟩ | ⟨hlow, hagree⟩) hsome
  · refine .inr ⟨?_, ?_⟩
    · rw [latest_concat, hlow]
      rfl
    · rw [hc'.multidropOn]
      exact fun hon => hon d.multidropOff
  · rw [hlow]
    exact ((h hsome).congr (hagree _ d.t1spmactl_not_status)).concat rfl rfl

end Gate

/-- **Over every run, a set `chip` amounts to what it should or to the pin.** -/
theorem chipSet_invariant {d : Datasheet} {board : Board ε π σ} {view : σ → Silicon}
    {addr : U8} (hbus : board.bus.handler.Conforms (device True (lan867x d) addr) view)
    (hpin : board.pin.Conforms (resetPin d) view) (calls : List WithResetCall) (s : σ) :
    let session := (WithResetCall.serve board).play calls (.new addr, s)
    session.2.1.inner.addr = addr ∧ (session.2.1.inner.chip.isSome = true →
      ChipSet session.1 (view session.2.2).mmd) := by
  have hstep : ∀ (log : List (WithResetCall × Answer ε π)) (x : PhyLan867xWithReset × σ)
      (call : WithResetCall), True →
      (x.1.inner.addr = addr ∧ (x.1.inner.chip.isSome = true → ChipSet log (view x.2).mmd)) →
      let y := WithResetCall.serve board call x
      y.2.1.inner.addr = addr ∧ (y.2.1.inner.chip.isSome = true →
        ChipSet (log ++ [(call, y.1)]) (view y.2.2).mmd) := by
    rintro log ⟨⟨phy⟩, s⟩ call - ⟨rfl, h⟩
    cases call with
    | inner call => exact (chipSet_inner call h).run hbus
    | hardwareReset =>
      have hrun := (chipSet_pin h).run hpin
      simp only [Outcome.map_trace, pulledLow_map] at hrun
      exact ⟨rfl, hrun⟩
  exact Machine.play_invariant (WithResetCall.serve board)
    (P := fun log x => x.1.inner.addr = addr ∧
      (x.1.inner.chip.isSome = true → ChipSet log (view x.2).mmd)) hstep (fun _ _ => trivial)
    ⟨rfl, nofun⟩

/-- **A link reported up is honest exactly when `RESET_N` has not been low since the
last call of `init`**, over every run and wherever the bus or the pin faults. -/
theorem link_honest_iff (d : Datasheet) (board : Board ε π σ) (view : σ → Silicon) (addr : U8)
    (hbus : board.bus.handler.Conforms (device True (lan867x d) addr) view)
    (hpin : board.pin.Conforms (resetPin d) view) (s : σ) (calls : List WithResetCall) :
    let session := (WithResetCall.serve board).play calls (.new addr, s)
    let o := WithResetCall.serve board (.inner .pollLink) session.2
    ∀ link, o.1 = .inner (.phy (.ok (.link link))) → link.up = true →
      (LinkHonest session.1 (view o.2.2).mmd ↔ latest lowSinceInit session.1 ≠ some true) := by
  intro session o link hlink hup
  obtain ⟨haddr, hset⟩ : session.2.1.inner.addr = addr ∧
      (session.2.1.inner.chip.isSome = true → ChipSet session.1 (view session.2.2).mmd) :=
    chipSet_invariant hbus hpin calls s
  have hreport := (pollLink_op_reports d session.2.1.inner (view session.2.2)).run (haddr ▸ hbus)
    link (Answer.inner.inj hlink)
  have hchip : session.2.1.inner.chip.isSome = true := by
    by_contra hno
    rw [hreport.notReady hno] at hup
    cases hup
  have hkept : (view o.2.2).mmd t1spmactl = (view session.2.2).mmd t1spmactl :=
    (pollLink_keeps d session.2.1.inner (view session.2.2)).run (haddr ▸ hbus)
  rcases (hset hchip).congr hkept with ⟨hlow, honest⟩ | ⟨hlow, hoff⟩
  · exact iff_of_true honest hlow
  · exact iff_of_false (fun h => hoff h.multidrop) (fun h => h hlow)

/-! ## A board to run it on -/

namespace SimulatedChip

/-- A board with a LAN8670 on it, whose pin never fails. -/
def resetBoard : Board String String (SimState String) where
  bus := lan8670.bus 3 true
  setLow s := (.ok (), { s with chip := lan8670.reset s.chip })
  setHigh s := (.ok (), s)
  delayMs _ s := s

theorem resetBoard_bus : resetBoard.bus.handler.Conforms (device True (lan867x datasheet) 3)
    SimState.chip := lan8670.conforms 3 true fun _ => trivial

theorem resetBoard_pin : resetBoard.pin.Conforms (resetPin datasheet) SimState.chip := by
  intro t s
  cases t with
  | setLow => exact ⟨_, lan8670.reset_ok s.chip, Silicon.Drift.refl _⟩
  | setHigh => exact Silicon.Drift.refl s.chip
  | delayMs ms => exact Silicon.Drift.refl s.chip

end SimulatedChip

/-- **The link is reported up right after a hardware reset**, with the chip at its
defaults. -/
theorem link_up_after_hardwareReset :
    let board := SimulatedChip.resetBoard
    let session := (WithResetCall.serve board).play [.inner .init, .hardwareReset]
      (.new 3, ⟨staleChip, []⟩)
    let o := WithResetCall.serve board (.inner .pollLink) session.2
    board.bus.handler.Conforms (device True (lan867x SimulatedChip.datasheet) 3) SimState.chip ∧
      board.pin.Conforms (resetPin SimulatedChip.datasheet) SimState.chip ∧
      o.1 = .inner (.phy (.ok (.link (.upAt ._10M .half)))) ∧
      ¬LinkHonest session.1 o.2.2.chip.mmd ∧ o.2.2.chip.mmd t1spmactl &&& t1spmactlMde = 0 :=
  ⟨SimulatedChip.resetBoard_bus, SimulatedChip.resetBoard_pin, rfl,
    fun h => absurd (show some false = some true from h.initialised) nofun, rfl⟩

/-- An `init` after the reset makes up for it. -/
theorem link_honest_after_init :
    let board := SimulatedChip.resetBoard
    let session := (WithResetCall.serve board).play
      [.inner .init, .hardwareReset, .inner .init] (.new 3, ⟨staleChip, []⟩)
    let o := WithResetCall.serve board (.inner .pollLink) session.2
    LinkHonest session.1 o.2.2.chip.mmd :=
  (link_honest_iff SimulatedChip.datasheet SimulatedChip.resetBoard SimState.chip 3
    SimulatedChip.resetBoard_bus SimulatedChip.resetBoard_pin ⟨staleChip, []⟩
    [.inner .init, .hardwareReset, .inner .init] (.upAt ._10M .half) rfl rfl).mpr nofun

end EthPhy
