import EthPhy.InitDecision

/-!
# What UnsupportedChip means

The trait crate reserves `UnsupportedChip` for a PHY ID that does not match the family of
the driver.  `init` of the LAN87xx keeps to it.  `init` of the LAN867x also returns it
when the ID has matched and the map identifier has not; it keeps to the meaning exactly
in the calls that do not read a wrong map identifier.
-/

namespace EthPhy
open Interaction Ieee802_3

variable {ε σ : Type}

/-- **`UnsupportedChip` means what it is documented to mean** in a call that returned `r`:
it is returned, with the ID, when no transaction failed, the reset steps completed and
the ID read does not match; and never when the ID read does match. -/
structure ChipErrorMeansId (mask family : U32) (log : List (Access ε)) (faultFree resetDone : Prop)
    (r : Except (PhyError ε) Unit) : Prop where
  iff : ∀ id, r = .error (.unsupportedChip id) ↔
    faultFree ∧ resetDone ∧ IdSeen log id ∧ id &&& mask ≠ family
  never : ∀ id, IdSeen log id → id &&& mask = family → ∀ id', r ≠ .error (.unsupportedChip id')

namespace ChipErrorMeansId

variable {mask family : U32} {log : List (Access ε)} {faultFree resetDone : Prop}
  {r : Except (PhyError ε) Unit}

/-- A call that does not return it, and has read no ID that does not match unless
something else stopped it. -/
theorem of_ne (hr : ∀ id, r ≠ .error (.unsupportedChip id))
    (hid : faultFree → resetDone → ∀ id, IdSeen log id → id &&& mask = family) :
    ChipErrorMeansId mask family log faultFree resetDone r where
  iff id := iff_of_false (hr id) fun ⟨hff, hreset, hseen, hne⟩ => hne (hid hff hreset id hseen)
  never _ _ _ := hr

/-- A call that returned a bus error. -/
theorem of_fault {e : ε} (hff : faultFree ↔ reported PhyError.bus? r = none)
    (hr : r = .error (.mdio e)) : ChipErrorMeansId mask family log faultFree resetDone r := by
  subst hr
  exact of_ne nofun fun h => by cases hff.mp h

/-- A call that returns it for the one ID it has read. -/
theorem of_mismatch {id : U32} (hff : faultFree) (hreset : resetDone)
    (hseen : ∀ id', IdSeen log id' ↔ id' = id) (hne : id &&& mask ≠ family) :
    ChipErrorMeansId mask family log faultFree resetDone (.error (.unsupportedChip id)) where
  iff id' := by
    rw [hseen]
    constructor
    · intro h
      obtain rfl : id = id' := by simpa using h
      exact ⟨hff, hreset, rfl, hne⟩
    · rintro ⟨-, -, rfl, -⟩
      rfl
  never id' hid hmatch := by
    rw [(hseen id').mp hid] at hmatch
    exact absurd hmatch hne

end ChipErrorMeansId

/-! ## The LAN87xx -/

namespace Lan87xx

/-- The log when the reset is over and the ID has been read. -/
def idLog (resetting : List U16) (cleared id1 id2 : U16) : List (Access ε) :=
  pollingLog (resetting ++ [cleared]) ++ [⟨.read (.clause22 regs.phyidr1), .ok id1⟩,
    ⟨.read (.clause22 regs.phyidr2), .ok id2⟩]

/-- **The exits of `init`** other than for a bus error. -/
inductive InitExit : List (Access ε) → Except (PhyError ε) Unit → Prop
  | noReset {vs : List U16} (hvs : ∀ v ∈ vs, resetCleared v = false) :
    InitExit (pollingLog vs) (.error .resetTimeout)
  | wrongId {vs : List U16} {v id1 id2 : U16} (hv : resetCleared v = true)
    (hid : idOf id1 id2 &&& phyOuiMask ≠ phyOui) :
    InitExit (idLog vs v id1 id2) (.error (.unsupportedChip (idOf id1 id2)))
  | ready (vs : List U16) {v id1 id2 : U16} (hv : resetCleared v = true)
    (hid : idOf id1 id2 &&& phyOuiMask = phyOui) (mcsrVal bmcrVal : U16) :
    InitExit (idLog vs v id1 id2 ++ [⟨.read (.clause22 mcsr.addr), .ok mcsrVal⟩,
      ⟨.write (.clause22 mcsr.addr) (mcsrVal &&& ~~~mcsr.edpdEn), .ok ()⟩,
      ⟨.write (.clause22 regs.anar) PhyLan87xx.advertisement, .ok ()⟩,
      ⟨.read (.clause22 regs.bmcr), .ok bmcrVal⟩,
      ⟨.write (.clause22 regs.bmcr) (anRestarted bmcrVal), .ok ()⟩]) (.ok ())

/-- How a call of `init` ends. -/
def InitEnd (addr : U8) (made : List (TxnEvent ε)) (r : Except (PhyError ε) Unit × PhyLan87xx) :
    Prop :=
  (∃ e, r.1 = .error (.mdio e)) ∨ ∃ log, Logs addr made log ∧ InitExit log r.1

theorem enableAutoNegotiation_logs {addr : U8} {past : List (TxnEvent ε)} {log : List (Access ε)}
    (hpast : Logs addr past log) :
    (enableAutoNegotiation addr : Mdio ε Unit).Heeds (onAccesses addr fun _ _ => True) past
      fun l _ => ∃ bmcrVal, Logs addr l (log ++ [⟨.read (.clause22 regs.bmcr), .ok bmcrVal⟩,
        ⟨.write (.clause22 regs.bmcr) (anRestarted bmcrVal), .ok ()⟩]) := by
  refine (mdioRead_logs (by decide) (by decide) hpast trivial).bind fun l bmcrVal hlog => ?_
  refine (mdioWrite_logs (by decide) (by decide) hlog trivial).mono fun l' _ hlog' => ?_
  rw [List.append_assoc] at hlog'
  exact ⟨bmcrVal, hlog'⟩

/-- `init` takes one of its exits, whatever is replied. -/
theorem init_ends (phy : PhyLan87xx) :
    ((PhyLan87xx.init : DriverM ε PhyLan87xx (PhyError ε) Unit).on phy).Heeds
      (onAccesses phy.addr fun _ _ => True) (InitEnd phy.addr) [] := by
  have hfail : ∀ (l : List (TxnEvent ε)) e, InitEnd phy.addr l (.error (.mdio e), phy) :=
    fun l e => .inl ⟨e, rfl⟩
  -- 1. soft reset
  refine Method.heeds_lift_bind_of (softReset_logs trivial fun _ _ _ => trivial) hfail ?_
  rintro l₁ cleared ⟨vs, hvs, hend⟩
  cases cleared with
  | false => exact .inr ⟨_, hend.2, .noReset hvs⟩
  | true =>
  obtain ⟨-, v, hv, hlog₁⟩ := hend
  -- 2. family identity
  refine Method.heeds_lift_bind_of (Φ := fun l id => ∃ id1 id2,
    Logs phy.addr l (idLog vs v id1 id2) ∧ id = idOf id1 id2) ?_ hfail ?_
  · refine (mdioRead_logs (by decide) (by decide) hlog₁ trivial).bind fun l id1 hlog => ?_
    refine (mdioRead_logs (by decide) (by decide) hlog trivial).bind fun l' id2 hlog' => ?_
    rw [List.append_assoc] at hlog'
    exact Fallible.heeds_pure ⟨id1, id2, hlog', rfl⟩
  rintro l₂ id ⟨id1, id2, hlog₂, rfl⟩
  by_cases hid : idOf id1 id2 &&& phyOuiMask ≠ phyOui
  · rw [if_pos hid]
    exact .inr ⟨_, hlog₂, .wrongId hv hid⟩
  rw [if_neg hid]
  -- 3. to 5. configuration
  refine Method.heeds_lift_bind_of (mdioRead_logs (by decide) (by decide) hlog₂ trivial) hfail ?_
  intro l₃ mcsrVal hlog₃
  refine Method.heeds_lift_bind_of (mdioWrite_logs (by decide) (by decide) hlog₃ trivial) hfail ?_
  intro l₄ _ hlog₄
  refine Method.heeds_lift_bind_of (mdioWrite_logs (by decide) (by decide) hlog₄ trivial) hfail ?_
  intro l₅ _ hlog₅
  refine Method.heeds_lift_bind_of (enableAutoNegotiation_logs hlog₅) hfail ?_
  rintro l₆ _ ⟨bmcrVal, hlog₆⟩
  refine .inr ⟨_, fun w => (hlog₆ w).trans ?_, .ready vs hv (not_not.mp hid) mcsrVal bmcrVal⟩
  simp only [List.append_assoc, List.cons_append, List.nil_append]

theorem idLog_readings (vs : List U16) (v id1 id2 : U16) :
    Readings (idLog vs v id1 id2 : List (Access ε)) (vs ++ [v]) [] [id1] [id2] [] [] := by
  have hid : Readings ([⟨.read (.clause22 regs.phyidr1), .ok id1⟩,
      ⟨.read (.clause22 regs.phyidr2), .ok id2⟩] : List (Access ε)) [] [] [id1] [id2] [] [] := by
    constructor <;> rfl
  simpa [idLog] using (pollingLog_readings (vs ++ [v])).append hid

/-- **Every exit of `init` keeps to the meaning.** -/
theorem InitExit.meansId {log : List (Access ε)} {r : Except (PhyError ε) Unit}
    (h : InitExit log r) : ChipErrorMeansId phyOuiMask phyOui log True (ResetSeen log) r := by
  cases h with
  | noReset hvs =>
    refine .of_ne nofun fun _ hseen => ?_
    exact absurd hseen (not_resetSeen (pollingLog_readings _) hvs)
  | @wrongId vs v id1 id2 hv hid =>
    have hlog : Readings (ε := ε) (idLog vs v id1 id2) _ _ _ _ _ _ := idLog_readings vs v id1 id2
    have hreset : ResetSeen (idLog vs v id1 id2 : List (Access ε)) :=
      ⟨v, by rw [hlog.bmcrs_eq]; simp, of_decide_eq_true hv⟩
    exact .of_mismatch trivial hreset (idSeen_iff hlog) hid
  | ready vs hv hid mcsrVal bmcrVal =>
    refine .of_ne nofun fun _ _ id hseen => ?_
    have htail : Readings ([⟨.read (.clause22 mcsr.addr), .ok mcsrVal⟩,
        ⟨.write (.clause22 mcsr.addr) (mcsrVal &&& ~~~mcsr.edpdEn), .ok ()⟩,
        ⟨.write (.clause22 regs.anar) PhyLan87xx.advertisement, .ok ()⟩,
        ⟨.read (.clause22 regs.bmcr), .ok bmcrVal⟩,
        ⟨.write (.clause22 regs.bmcr) (anRestarted bmcrVal), .ok ()⟩] : List (Access ε))
        [bmcrVal] [] [] [] [] [] := by
      constructor <;> rfl
    rw [idSeen_iff ((idLog_readings vs _ _ _).append htail)] at hseen
    rwa [hseen]

theorem InitExit.no_bus_error {log : List (Access ε)} {r : Except (PhyError ε) Unit}
    (h : InitExit log r) : reported PhyError.bus? r = none := by
  cases h <;> rfl

end Lan87xx

/-! ## The LAN867x -/

section Lan867x

open Lan867x

variable {log : List (Access ε)} {r : Except (PhyError ε) Unit} {chip : Option Chip}

/-- What follows a read of the map identifier follows one of the expected value. -/
theorem midver_expected_of_step {q : AccessReq} (h : InitStep log q) {v : U16}
    (hv : ⟨.read (.mmd midver), .ok v⟩ ∈ log) : v = midverExpected := by
  have hmapped : ∀ (R : InitReplies) (chip : Chip), R.Mapped chip →
      ⟨.read (.mmd midver), .ok v⟩ ∈ (R.midverLog : List (Access ε)) →
        v = midverExpected := by
    intro R chip hR hmem
    rw [← mem_readings, R.midverLog_readings.midvers_eq, List.mem_singleton] at hmem
    rw [hmem]
    exact hR.mapped
  cases h with
  | t1spmactl hR => exact hmapped _ _ hR hv
  | enable hR =>
    rcases List.mem_append.mp hv with hv | hv
    · exact hmapped _ _ hR hv
    · have hne : AccessReq.read (.mmd midver) ≠ .read (.mmd t1spmactl) := by decide
      exact absurd (congrArg Event.req (List.mem_singleton.mp hv)) hne
  | _ =>
    -- before the map identifier is read
    have hne : sts2 ≠ midver := by decide
    simp [InitReplies.strapLog, InitReplies.idLog, InitReplies.completedLog,
      InitReplies.handshakeLog, pollingLog, readsOf, hne, hne.symm] at hv

/-- **An exit of `init` keeps to the meaning unless a wrong map identifier was read.** -/
theorem InitExit.meansId_iff (h : InitExit log r chip) :
    ChipErrorMeansId phyOuiModelMask phyOuiModelLan867x log True (ResetSeen log ∧ ResetcSeen log) r ↔
      ∀ v ∈ readings (.mmd midver) log, v = midverExpected := by
  cases h with
  | @noReset vs hn hvs =>
    refine iff_of_true (.of_ne nofun fun _ hseen => ?_) ?_
    · exact absurd hseen.1 (not_resetSeen (pollingLog_readings vs) hvs)
    · rw [(pollingLog_readings vs).midvers_eq]
      exact nofun
  | @noHandshake R hR vs hn hvs =>
    refine iff_of_true (.of_ne nofun fun _ hseen => ?_) ?_
    · exact absurd hseen.2 (not_resetcSeen (R.handshakeLog_readings vs) hvs)
    · rw [(R.handshakeLog_readings vs).midvers_eq]
      exact nofun
  | @wrongId R hR hid =>
    have hlog : Readings (ε := ε) R.idLog _ _ _ _ _ _ := R.idLog_readings
    refine iff_of_true (.of_mismatch trivial ⟨hR.toResetOver.seen hlog, hR.seen hlog⟩
      (idSeen_iff hlog) hid) ?_
    rw [hlog.midvers_eq]
    exact nofun
  | @wrongPackage R hR hstrap =>
    have hlog : Readings (ε := ε) R.strapLog _ _ _ _ _ _ := R.strapLog_readings
    refine iff_of_true (.of_ne nofun fun _ _ id hseen => ?_) ?_
    · rw [(idSeen_iff hlog id).mp hseen]
      exact hR.family
    · rw [hlog.midvers_eq]
      exact nofun
  | @wrongMidver R chip hR hmidver =>
    have hlog : Readings (ε := ε) R.midverLog _ _ _ _ _ _ := R.midverLog_readings
    refine iff_of_false (fun h => ?_) (fun h => hmidver (h _ ?_))
    · exact h.never R.id ((idSeen_iff hlog _).mpr rfl) hR.family R.id rfl
    · rw [hlog.midvers_eq]
      exact List.mem_singleton_self _
  | @ready R chip hR =>
    have hlog : Readings (ε := ε) R.enabledLog _ _ _ _ _ _ := R.enabledLog_readings
    refine iff_of_true (.of_ne nofun fun _ _ id hseen => ?_) ?_
    · rw [(idSeen_iff hlog id).mp hseen]
      exact hR.family
    · rw [hlog.midvers_eq]
      intro v hv
      rw [List.mem_singleton.mp hv]
      exact hR.mapped

/-- A transaction that failed has read nothing. -/
theorem access?_ne_of_fault {addr : U8} {w : Latch} {x : Exchange Txn.Reply ε σ} {e : ε}
    (hx : x.fault = some e) (y : Register) (v : U16) :
    w.access? addr x.event ≠ some ⟨.read y, .ok v⟩ := by
  obtain ⟨pre, q, reply, post⟩ := x
  cases reply with
  | ok u => cases hx
  | error e' =>
    intro h
    cases q <;> simp [Exchange.event, Latch.access?] at h

/-- In a call that ended with a bus error, no wrong map identifier was read. -/
theorem midver_expected_of_fault {addr : U8} {w : Latch} {made : List (TxnEvent ε)}
    {x : Exchange Txn.Reply ε σ} {e : ε} (hx : x.fault = some e)
    (hG : onAccesses addr InitStep made x.req) :
    ∀ v ∈ readings (.mmd midver) (accesses addr w (made ++ [x.event])), v = midverExpected := by
  intro v hv
  obtain ⟨q, hq⟩ := onAccesses_exists hG w
  rw [mem_readings, accesses_concat, List.mem_append, Option.mem_toList] at hv
  rcases hv with hv | hv
  · exact midver_expected_of_step hq hv
  · exact absurd hv (access?_ne_of_fault hx _ _)

end Lan867x

/-! ## Both drivers -/

/-- **`UnsupportedChip` keeps to its documented meaning** in every call of `init` of the
LAN87xx, and in those calls of `init` of the LAN867x that read no wrong map identifier,
and only in those. -/
theorem unsupported_chip_means_id (bus : MdioBus ε σ) (s : σ) (w : Latch) (phy87 : PhyLan87xx)
    (phy867 : PhyLan867x) :
    (let o := (PhyLan87xx.init.on phy87).run bus.handler s
      let log := accesses phy87.addr w (o.trace.map Exchange.event)
      ChipErrorMeansId Lan87xx.phyOuiMask Lan87xx.phyOui log o.FaultFree (ResetSeen log)
        o.value.1) ∧
    (let o := (PhyLan867x.init.on phy867).run bus.handler s
      let log := accesses phy867.addr w (o.trace.map Exchange.event)
      ChipErrorMeansId Lan867x.phyOuiModelMask Lan867x.phyOuiModelLan867x log o.FaultFree
          (ResetSeen log ∧ ResetcSeen log) o.value.1 ↔
        ∀ v ∈ readings (.mmd Lan867x.midver) log, v = 0x0A10) := by
  constructor
  · intro o log
    have hff := (PhyLan87xx.init_failStop phy87).faultFree_iff bus.handler s
    rcases ((Lan87xx.init_ends phy87).run bus.handler s).1 with ⟨e, he⟩ | ⟨log', hlog, hexit⟩
    · exact .of_fault hff he
    · have hclean : o.FaultFree := hff.mpr hexit.no_bus_error
      rw [show log = log' from hlog w, eq_true hclean]
      exact hexit.meansId
  · intro o log
    have hstages := init_stages (ε := ε) phy867
    have hfs := PhyLan867x.init_failStop (ε := ε) phy867
    have hff := hfs.faultFree_iff bus.handler s
    obtain ⟨-, -, ⟨⟨e, he⟩, -⟩ | ⟨log', hlog, hexit⟩⟩ := (hstages.run bus.handler s).1
    · refine iff_of_true (.of_fault hff he) ?_
      have hfault : ¬o.FaultFree := fun h => by
        have hnone := hff.mp h
        rw [he] at hnone
        cases hnone
      rcases hfs.run bus.handler s with ⟨hclean, -⟩ | ⟨l, x, e', htrace, -, hx, -⟩
      · exact absurd hclean hfault
      · have hmade : o.trace.map Exchange.event = l.map Exchange.event ++ [x.event] := by
          simp [o, htrace]
        have hG := hstages.run_guard bus.handler s hmade
        rw [show log = accesses phy867.addr w (l.map Exchange.event ++ [x.event]) by rw [← hmade]]
        exact midver_expected_of_fault hx hG
    · have hclean : o.FaultFree := hff.mpr hexit.no_bus_error
      rw [show log = log' from hlog w, eq_true hclean]
      exact hexit.meansId_iff

/-- A bus that answers reads with the given values in turn, whatever is read. -/
def scriptedBus : MdioBus Unit (List U16) where
  read _ _ vs := match vs with
    | [] => (.error (), [])
    | v :: vs => (.ok v, vs)
  write _ _ _ vs := (.ok (), vs)

/-- The call of `init` of a LAN867x driver that reads the ID `0x0000C562` of the family
and then the map identifier `0xDEAD`. -/
def wrongMidverCall : Outcome Txn.Reply Unit (List U16) (Except (PhyError Unit) Unit × PhyLan867x) :=
  (PhyLan867x.init.on (.new 0)).run scriptedBus.handler
    [0, Lan867x.sts2Resetc, 0x0000, 0xC562, Lan867x.strapCtrl0PkgtypLan8671, 0xDEAD]

/-- **A matching ID is reported as unsupported.** -/
theorem matching_id_rejected :
    let log := accesses 0 ⟨0, 0, 0⟩ (wrongMidverCall.trace.map Exchange.event)
    ¬ChipErrorMeansId Lan867x.phyOuiModelMask Lan867x.phyOuiModelLan867x log
      wrongMidverCall.FaultFree (ResetSeen log ∧ ResetcSeen log) wrongMidverCall.value.1 := by
  intro log h
  have hvalue : wrongMidverCall.value.1 = .error (.unsupportedChip 0xC562) := rfl
  have hseen : IdSeen log 0xC562 := ⟨0x0000, by decide, 0xC562, by decide, by decide⟩
  exact h.never 0xC562 hseen (by decide) 0xC562 hvalue

end EthPhy
