import EthPhy.Lan867xDevice

/-!
# A chip to run the driver on

An executable chip and a bus in front of it.  The bus takes one entry of a script
for each transaction, so a run can be made to lose any transactions, before or
after they reached the chip.  Every such bus conforms to the device its chip is a
model of (`SimulatedChip.conforms`): what is proved against the device can be seen
happening here.
-/

namespace EthPhy
open Interaction Lan867x

/-- What the bus does to one transaction. -/
inductive Fate (ε : Type) where
  /-- It succeeds. -/
  | delivered
  /-- It fails with `e`, before it reached the chip. -/
  | lost (e : ε)
  /-- It fails with `e`, after it reached the chip. -/
  | unconfirmed (e : ε)
  deriving DecidableEq, Repr

/-- A chip of the kind `M`, with its free choices made. -/
structure SimulatedChip (M : ChipModel) where
  /-- What Clause 22 registers read. -/
  clause22 : U8 → U16
  /-- What a write of RESET does. -/
  reset : Silicon → Silicon
  /-- What a data read does to the chip. -/
  afterLoad : Silicon → Silicon
  reset_ok : ∀ c : Silicon, M.reset c (reset c)
  afterLoad_ok : ∀ c : Silicon, c.Drift M.volatile (afterLoad c)

/-- The state of the bus: the chip, and what is left of the script.  When the
script is used up, every transaction succeeds. -/
structure SimState (ε : Type) where
  chip : Silicon
  script : List (Fate ε)

namespace SimulatedChip

variable {ε : Type} {M : ChipModel} (sim : SimulatedChip M) (addr : U8)

/-- A write that reaches the chip at `addr`. -/
def afterWrite (c : Silicon) (a r : U8) (v : U16) : Silicon :=
  if a ≠ addr then c
  else if r = regMmdctrl then c.select v
  else if r = regMmdad then (if c.fnctn = fnctnAddr then c.pointTo v else c.store v)
  else if r = Ieee802_3.regs.bmcr ∧ v &&& Ieee802_3.bmcr.reset ≠ 0 then sim.reset c
  else c

/-- A read that reaches the chip at `addr`.  Nothing answers at other addresses. -/
def afterRead (c : Silicon) (a r : U8) : U16 × Silicon :=
  if a = addr ∧ r = regMmdad then
    (if c.fnctn = fnctnAddr then (c.regAddr, c) else (c.load, sim.afterLoad c))
  else (if a = addr then sim.clause22 r else 0xFFFF, c)

theorem afterWrite_effect (c : Silicon) (a r : U8) (v : U16) :
    c.Effect M addr (.write a r v) () (sim.afterWrite addr c a r v) := by
  refine ⟨sim.afterWrite addr c a r v, ?_, Silicon.Drift.refl _⟩
  unfold Silicon.Access afterWrite
  dsimp only
  split
  · rfl
  · split
    · rfl
    · split
      · by_cases hf : c.fnctn = fnctnAddr
        · simp [hf, show fnctnAddr ≠ fnctnData by decide]
        · simp [hf]
      · split
        · exact sim.reset_ok c
        · rfl

theorem afterRead_effect (c : Silicon) (a r : U8) :
    c.Effect M addr (.read a r) (sim.afterRead addr c a r).1 (sim.afterRead addr c a r).2 := by
  by_cases hr : a = addr ∧ r = regMmdad
  · by_cases hf : c.fnctn = fnctnAddr
    · refine ⟨c, ?_, ?_⟩
      · simp [Silicon.Access, afterRead, hr, hf, show fnctnAddr ≠ fnctnData by decide]
      · simpa [afterRead, hr, hf] using Silicon.Drift.refl c
    · refine ⟨c, ?_, ?_⟩
      · simp [Silicon.Access, afterRead, hr, hf]
      · simpa [afterRead, hr, hf] using sim.afterLoad_ok c
  · refine ⟨c, ?_, ?_⟩
    · simp [Silicon.Access, hr]
    · simpa [afterRead, hr] using Silicon.Drift.refl c

/-- Put a transaction through the bus: `go` is what it does if it reaches the
chip.  Without `ambiguous`, a transaction that fails never does. -/
def transact {α : Type} (ambiguous : Bool) (go : Silicon → α × Silicon) (s : SimState ε) :
    Except ε α × SimState ε :=
  match s.script with
  | [] => (.ok (go s.chip).1, ⟨(go s.chip).2, []⟩)
  | .delivered :: rest => (.ok (go s.chip).1, ⟨(go s.chip).2, rest⟩)
  | .lost e :: rest => (.error e, ⟨s.chip, rest⟩)
  | .unconfirmed e :: rest =>
      (.error e, ⟨if ambiguous then (go s.chip).2 else s.chip, rest⟩)

/-- The bus in front of the simulated chip. -/
def bus (ambiguous : Bool) : MdioBus ε (SimState ε) where
  read a r := transact ambiguous fun c => sim.afterRead addr c a r
  write a r v := transact ambiguous fun c => ((), sim.afterWrite addr c a r v)

/-- A transaction that would have effect `go` is one the device may make,
whatever its fate. -/
theorem transact_device {ambiguous : Bool} {P : Prop} (hP : ambiguous = true → P) (t : Txn)
    (go : Silicon → t.Reply × Silicon) (hgo : ∀ c : Silicon, c.Effect M addr t (go c).1 (go c).2)
    (s : SimState ε) :
    device P M addr s.chip t (transact ambiguous go s).1 (transact ambiguous go s).2.chip := by
  unfold transact
  split
  · exact hgo s.chip
  · exact hgo s.chip
  · exact .inl (Silicon.Drift.refl _)
  · cases ambiguous with
    | false => exact .inl (Silicon.Drift.refl _)
    | true => exact .inr ⟨hP rfl, _, hgo s.chip⟩

/-- **The simulated chip is one the device stands for**, whatever the script. -/
theorem conforms (ambiguous : Bool) {P : Prop} (hP : ambiguous = true → P) :
    (sim.bus addr ambiguous : MdioBus ε (SimState ε)).handler.Conforms
      (device P M addr) SimState.chip := by
  intro t s
  cases t with
  | read a r => exact transact_device addr hP (.read a r) _ (sim.afterRead_effect addr · a r) s
  | write a r v =>
    exact transact_device addr hP (.write a r v) (fun c => ((), sim.afterWrite addr c a r v))
      (sim.afterWrite_effect addr · a r v) s

/-- A chip with the bare indirection. -/
def flat : SimulatedChip .flat where
  clause22 _ := 0
  reset c := c
  afterLoad c := c
  reset_ok _ := rfl
  afterLoad_ok := Silicon.Drift.refl

/-- The status registers of a simulated LAN867x. -/
def statusRegs : Set MmdAddr := {sts2, plcaSts}

theorem not_status {x : MmdAddr} (h : x ≠ sts2) (h' : x ≠ plcaSts) : x ∉ statusRegs := by
  rintro (rfl | rfl)
  · exact h rfl
  · exact h' rfl

/-- A simulated LAN867x: by default reset has completed, and the map identifier is
the expected one. -/
def datasheet : Datasheet where
  defaults x := if x = midver then midverExpected else if x = sts2 then sts2Resetc else 0
  status := statusRegs
  plcaOff := by decide
  multidropOff := by decide
  t1spmactl_not_status := not_status (by decide) (by decide)
  plcaCtrl0_not_status := not_status (by decide) (by decide)
  plcaCtrl1_not_status := not_status (by decide) (by decide)
  plcaBurst_not_status := not_status (by decide) (by decide)

/-- A LAN8670, whose `STS2` is cleared when it is read. -/
def lan8670 : SimulatedChip (lan867x datasheet) where
  clause22 r :=
    if r = Ieee802_3.regs.phyidr2 then 0xC562
    else if r = regStrapCtrl0 then strapCtrl0PkgtypLan8670
    else 0
  reset c := { c with mmd := datasheet.defaults }
  afterLoad c :=
    if (c.devad, c.regAddr) = sts2 then { c with mmd := Function.update c.mmd sts2 0 } else c
  reset_ok _ := rfl
  afterLoad_ok c := by
    split
    · refine ⟨rfl, rfl, rfl, fun x hx => Function.update_of_ne ?_ _ _⟩
      rintro rfl
      exact hx (.inl rfl)
    · exact Silicon.Drift.refl c

end SimulatedChip

/-- A chip with an access left unfinished: `MMDAD` is still a window on register
2 of MMD 7.  All registers read zero. -/
def staleChip : Silicon := ⟨fnctnData, 7, 2, fun _ => 0⟩

end EthPhy
