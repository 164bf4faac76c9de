import EthPhy.Lan867xInit

/-!
# The trace of init of the LAN867x

`init` writes nothing but the reset until the chip is proven to be a LAN867x, and then
exactly one bit.  Of the accesses this is said by the stages (`InitStep`), and what it
means for single transactions, a trace of which mixes register addresses and register
data in `MMDAD`, is said by `InitTrace`.
-/

namespace EthPhy
open Interaction Ieee802_3 Lan867x

variable {ε σ : Type}

/-! ## What the stages say -/

/-- **The chip has been proven to be a LAN867x**, in this order: RESET was read clear,
RESETC set, an ID of the family, a strap with PKGTYP other than 00, and the map
identifier. -/
def Proven (log : List (Access ε)) : Prop :=
  ∃ bmcrVal sts2Val id1 id2 strap : U16,
    bmcrVal &&& bmcr.reset = 0 ∧ sts2Val &&& sts2Resetc ≠ 0 ∧
    idOf id1 id2 &&& 0xFFFFFFF0 = 0x0000C560 ∧
    strap &&& 0x0060 ≠ 0 ∧
    [⟨.read (.clause22 regs.bmcr), .ok bmcrVal⟩, ⟨.read (.mmd sts2), .ok sts2Val⟩,
      ⟨.read (.clause22 regs.phyidr1), .ok id1⟩, ⟨.read (.clause22 regs.phyidr2), .ok id2⟩,
      ⟨.read (.clause22 regStrapCtrl0), .ok strap⟩,
      ⟨.read (.mmd midver), .ok (0x0A10 : U16)⟩].Sublist log

namespace InitReplies

variable {R : InitReplies} {chip : Chip}

theorem Mapped.proven (h : R.Mapped chip) : Proven (R.t1spmactlLog : List (Access ε)) := by
  have hcleared : R.cleared &&& bmcr.reset = 0 := of_decide_eq_true h.cleared
  have hcompleted : R.completed &&& sts2Resetc ≠ 0 := of_decide_eq_true h.completed
  refine ⟨R.cleared, R.completed, R.id1, R.id2, R.strap, hcleared, hcompleted, h.family,
    h.pkgtyp, ?_⟩
  have hreset : [⟨.read (.clause22 regs.bmcr), .ok R.cleared⟩].Sublist
      (pollingLog (R.resetting ++ [R.cleared]) : List (Access ε)) :=
    List.singleton_sublist.mpr (by simp [pollingLog, readsOf])
  have hhandshake : [⟨.read (.mmd sts2), .ok R.completed⟩].Sublist
      (readsOf (.mmd sts2) (R.waiting ++ [R.completed]) : List (Access ε)) :=
    List.singleton_sublist.mpr (by simp [readsOf])
  have hid : [_, _, _, _].Sublist (R.idLog : List (Access ε)) :=
    (hreset.append hhandshake).append (.refl _)
  have hstrap : [_, _, _, _, _].Sublist (R.strapLog : List (Access ε)) := hid.append (.refl _)
  have hmidver : [_, _, _, _, _, _].Sublist (R.midverLog : List (Access ε)) :=
    hstrap.append (.refl _)
  rw [← show R.midverVal = 0x0A10 from h.mapped]
  exact hmidver.trans (List.sublist_append_left _ _)

end InitReplies

namespace InitStep

variable {log : List (Access ε)} {q : AccessReq}

/-- A log that an access follows holds successful accesses only, and no MMD write. -/
theorem quiet (h : InitStep log q) {x : MmdAddr} {v : U16} {r : Except ε Unit} :
    ⟨.write (.mmd x) v, r⟩ ∉ log := by
  cases h <;>
    simp [InitReplies.t1spmactlLog, InitReplies.midverLog, InitReplies.strapLog, InitReplies.idLog,
      InitReplies.completedLog, InitReplies.handshakeLog, pollingLog, readsOf]

/-- STS2 is read only while no read of it has returned RESETC. -/
theorem sts2_waiting (h : InitStep log (.read (.mmd sts2))) {v : U16}
    (hv : ⟨.read (.mmd sts2), .ok v⟩ ∈ log) : v &&& sts2Resetc = 0 := by
  cases h with
  | handshake hR hn hvs =>
    have hmem := by simpa [InitReplies.handshakeLog, pollingLog, readsOf] using hv
    simpa [resetCompleted] using hvs v hmem

/-- The reset is the only write to a Clause 22 register. -/
theorem write_clause22 {r : U8} {v : U16} (h : InitStep log (.write (.clause22 r) v)) :
    log = [] ∧ r = regs.bmcr ∧ v = bmcr.reset := by
  cases h
  exact ⟨rfl, rfl, rfl⟩

/-- **The one write to an MMD register.** -/
theorem write_mmd {x : MmdAddr} {v : U16} (h : InitStep log (.write (.mmd x) v)) :
    x = Lan867x.t1spmactl ∧ ∃ old, v = old ||| t1spmactlMde ∧
      log.getLast? = some ⟨.read (.mmd Lan867x.t1spmactl), .ok old⟩ ∧ Proven log := by
  cases h with
  | enable hR => exact ⟨rfl, _, rfl, List.getLast?_concat, hR.proven⟩

end InitStep

/-! ## The trace -/

/-- **What a trace of `init` looks like**, whatever the latch `w` was before. -/
structure InitTrace (addr : U8) (w : Latch) (made : List (TxnEvent ε)) : Prop where
  /-- The reset comes first; it is the only write to a register other than `MMDCTRL` and
  `MMDAD`. -/
  reset : ∃ r rest, made = ⟨.write addr regs.bmcr bmcr.reset, r⟩ :: rest ∧
    ∀ e ∈ rest, ∀ a r v, e.req = .write a r v → a = addr ∧ (r = regMmdctrl ∨ r = regMmdad)
  /-- A write of MMD data is the last transaction, and so the only one.  It sets MDE in
  the value just read from T1SPMACTL, and comes after the chip was proven. -/
  data : ∀ l v r l', made = l ++ ⟨.write addr regMmdad v, r⟩ :: l' →
    (w.afterAll addr l).fnctn = fnctnData →
      l' = [] ∧ (w.afterAll addr l).target = t1spmactl ∧
        ∃ old, v = old ||| t1spmactlMde ∧
          (accesses addr w l).getLast? = some ⟨.read (.mmd t1spmactl), .ok old⟩ ∧
          Proven (accesses addr w l)
  /-- STS2 is not read again after a read has returned RESETC. -/
  handshake : ∀ log v log', accesses addr w made = log ++ ⟨.read (.mmd sts2), .ok v⟩ :: log' →
    v &&& sts2Resetc ≠ 0 → ∀ r, ⟨.read (.mmd sts2), r⟩ ∉ log'

section Trace

variable {addr : U8} {w : Latch} {made l l' : List (TxnEvent ε)} {e : TxnEvent ε}

/-- Every write after the first moves the latch or makes the one MMD write. -/
theorem later_write (hG : onAccesses addr InitStep l e.req) (hl : accesses addr w l ≠ [])
    {a r : U8} {v : U16} (he : e.req = .write a r v) :
    a = addr ∧ (r = regMmdctrl ∨ r = regMmdad) := by
  have hw := hG w
  rw [he] at hw
  cases hreg : (w.afterAll addr l).register? addr a r with
  | none =>
    simp only [Latch.request?, hreg, Option.map_none] at hw
    obtain ⟨⟨r', v', hmove, hr⟩, -⟩ := hw
    obtain ⟨rfl, rfl, rfl⟩ := Txn.write.inj hmove
    exact ⟨rfl, hr⟩
  | some x =>
    simp only [Latch.request?, hreg, Option.map_some] at hw
    cases x with
    | clause22 r' => exact absurd hw.write_clause22.1 hl
    | mmd x =>
      obtain ⟨ha, hr, -⟩ := Latch.register?_eq_mmd hreg
      exact ⟨ha, .inr hr⟩

/-- **A trace that goes through the stages.** -/
theorem initTrace_of_stages {r : Except ε Unit} {rest : List (TxnEvent ε)}
    (hfirst : made = ⟨.write addr regs.bmcr bmcr.reset, r⟩ :: rest)
    (hG : ∀ l e l', made = l ++ e :: l' → onAccesses addr InitStep l e.req) :
    InitTrace addr w made := by
  refine ⟨⟨r, rest, hfirst, ?_⟩, ?_, ?_⟩
  · intro e he a r v hreq
    obtain ⟨l, l', rfl⟩ := List.append_of_mem he
    refine later_write (w := w) (hG (_ :: l) e l' hfirst) ?_ hreq
    have hbmcr : w.register? addr addr regs.bmcr = some (.clause22 regs.bmcr) :=
      w.register?_clause22 (by decide) (by decide)
    simp [accesses, Latch.access?, hbmcr]
  · intro l v r l' hl hf
    have htarget : (w.afterAll addr l).register? addr addr regMmdad =
        some (.mmd (w.afterAll addr l).target) := Latch.register?_data hf
    have hwrite := hG l _ l' hl w
    simp only [Latch.request?, htarget, Option.map_some] at hwrite
    obtain ⟨hx, hold⟩ := InitStep.write_mmd hwrite
    refine ⟨?_, hx, hold⟩
    -- nothing is allowed after a log with an MMD write
    cases l' with
    | nil => rfl
    | cons e l' =>
      rw [List.append_cons] at hl
      obtain ⟨q, hq⟩ := onAccesses_exists (hG _ e l' hl) w
      rw [accesses_concat] at hq
      simp only [Latch.access?, htarget, Option.map_some, Option.toList_some] at hq
      exact absurd (List.mem_append_right _ (List.mem_singleton_self _)) hq.quiet
  · intro log v log' hlog hv r hmem
    obtain ⟨log₁, log₂, rfl⟩ := List.append_of_mem hmem
    have hsplit : accesses addr w made = (log ++ ⟨.read (.mmd sts2), .ok v⟩ :: log₁) ++
        ⟨.read (.mmd sts2), r⟩ :: log₂ := by
      rw [hlog]
      simp
    have hread : InitStep (log ++ ⟨.read (.mmd sts2), .ok v⟩ :: log₁) (.read (.mmd sts2)) :=
      access_allowed hG hsplit
    exact hv (hread.sts2_waiting (by simp))

end Trace

/-- **`init` of the LAN867x writes nothing but the reset until the chip is proven, and
then exactly one bit**, on every bus, from every driver state and whatever the latch was
before. -/
theorem init_writes_only_when_proven (bus : MdioBus ε σ) (phy : PhyLan867x) (s : σ) (w : Latch) :
    InitTrace phy.addr w (((PhyLan867x.init.on phy).run bus.handler s).trace.map Exchange.event) :=
  initTrace_of_stages rfl fun _ _ _ hl => (init_stages phy).run_guard bus.handler s hl

end EthPhy
