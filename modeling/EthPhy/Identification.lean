import EthPhy.ChipErrors
import EthPhy.Loops
import EthPhy.Reliable

/-!
# What init takes for its chip

What `init` of the LAN87xx returns is read off the values it has read, on every bus
(`lan87xx_init_decides`), as for the LAN867x.

Both drivers decide by their reads and by nothing else, so a device that always reads the
same is always taken for the same.  A chip whose ID does not change is accepted by one of
the drivers at most (`one_family`).  A bus that reads one value whatever is addressed, as
when there is no PHY, is accepted by neither, and what they report tells the value
(`stuck_bus_rejected`).
-/

namespace EthPhy
open Interaction Ieee802_3

variable {ε σ : Type}

/-! ## What init of the LAN87xx decides -/

namespace Lan87xx

/-- The log when energy detect has been turned off. -/
def powerDownLog (resetting : List U16) (cleared id1 id2 mcsrVal : U16) : List (Access ε) :=
  idLog resetting cleared id1 id2 ++ [⟨.read (.clause22 mcsr.addr), .ok mcsrVal⟩,
    ⟨.write (.clause22 mcsr.addr) (mcsrVal &&& ~~~mcsr.edpdEn), .ok ()⟩]

/-- The write of the advertisement: 10 and 100M, half and full duplex. -/
def advertised : Access ε := ⟨.write (.clause22 regs.anar) 0x01E1, .ok ()⟩

/-- **When BMCR is read**: as a poll, fewer than 500 of them before it and RESET set in
each; or right after the advertisement was written. -/
def BmcrRead (log : List (Access ε)) : Prop :=
  (∃ vs : List U16, log = pollingLog vs ∧ vs.length < 500 ∧ ∀ v ∈ vs, resetCleared v = false) ∨
    ∃ l, log = l ++ [advertised]

/-- **The stages of `init`**: which access it makes after which log. -/
inductive InitStep : Guard AccessReq.Reply ε
  | reset : InitStep [] (.write (.clause22 regs.bmcr) bmcr.reset)
  | poll {vs : List U16} (hn : vs.length < 500) (hvs : ∀ v ∈ vs, resetCleared v = false) :
    InitStep (pollingLog vs) (.read (.clause22 regs.bmcr))
  | id1 {vs : List U16} {v : U16} (hv : resetCleared v = true) :
    InitStep (pollingLog (vs ++ [v])) (.read (.clause22 regs.phyidr1))
  | id2 {vs : List U16} {v : U16} (hv : resetCleared v = true) (id1 : U16) :
    InitStep (pollingLog (vs ++ [v]) ++ [⟨.read (.clause22 regs.phyidr1), .ok id1⟩])
      (.read (.clause22 regs.phyidr2))
  | mcsr {vs : List U16} {v id1 id2 : U16} (hv : resetCleared v = true)
    (hid : idOf id1 id2 &&& phyOuiMask = phyOui) :
    InitStep (idLog vs v id1 id2) (.read (.clause22 mcsr.addr))
  | edpd {vs : List U16} {v id1 id2 : U16} (hv : resetCleared v = true)
    (hid : idOf id1 id2 &&& phyOuiMask = phyOui) (mcsrVal : U16) :
    InitStep (idLog vs v id1 id2 ++ [⟨.read (.clause22 mcsr.addr), .ok mcsrVal⟩])
      (.write (.clause22 mcsr.addr) (mcsrVal &&& ~~~mcsr.edpdEn))
  | anar {vs : List U16} {v id1 id2 : U16} (hv : resetCleared v = true)
    (hid : idOf id1 id2 &&& phyOuiMask = phyOui) (mcsrVal : U16) :
    InitStep (powerDownLog vs v id1 id2 mcsrVal)
      (.write (.clause22 regs.anar) 0x01E1)
  | bmcr {vs : List U16} {v id1 id2 : U16} (hv : resetCleared v = true)
    (hid : idOf id1 id2 &&& phyOuiMask = phyOui) (mcsrVal : U16) :
    InitStep (powerDownLog vs v id1 id2 mcsrVal ++ [advertised]) (.read (.clause22 regs.bmcr))
  | restart {vs : List U16} {v id1 id2 : U16} (hv : resetCleared v = true)
    (hid : idOf id1 id2 &&& phyOuiMask = phyOui) (mcsrVal bmcrVal : U16) :
    InitStep (powerDownLog vs v id1 id2 mcsrVal ++ [advertised] ++
      [⟨.read (.clause22 regs.bmcr), .ok bmcrVal⟩])
      (.write (.clause22 regs.bmcr) ((bmcrVal ||| 0x1200) &&& ~~~0x0400))

/-- BMCR is read in two of the stages. -/
theorem InitStep.bmcrRead {log : List (Access ε)}
    (h : InitStep log (.read (.clause22 regs.bmcr))) : BmcrRead log := by
  cases h with
  | poll hn hvs => exact .inl ⟨_, rfl, hn, hvs⟩
  | bmcr hv hid mcsrVal => exact .inr ⟨_, rfl⟩

/-- How a call of `init` ends.  It marks the link down if it succeeds, and leaves the
driver alone if it does not. -/
structure InitDone (phy : PhyLan87xx) (made : List (TxnEvent ε))
    (r : Except (PhyError ε) Unit × PhyLan87xx) : Prop where
  ok_driver : r.1 = .ok () → r.2 = { phy with linkUp := false }
  error_driver : r.1 ≠ .ok () → r.2 = phy
  exit : (∃ e, r.1 = .error (.mdio e)) ∨ ∃ log, Logs phy.addr made log ∧ InitExit log r.1 ∧
    (r.1 = .error .resetTimeout → (readings (.clause22 regs.bmcr) log).length = 500)

/-- Auto-negotiation, under a rule that allows its accesses. -/
theorem negotiate_logs {A : Guard AccessReq.Reply ε} {addr : U8} {past : List (TxnEvent ε)}
    {log : List (Access ε)} (hpast : Logs addr past log)
    (hread : A log (.read (.clause22 regs.bmcr)))
    (hwrite : ∀ v, A (log ++ [⟨.read (.clause22 regs.bmcr), .ok v⟩])
      (.write (.clause22 regs.bmcr) (anRestarted v))) :
    (enableAutoNegotiation addr : Mdio ε Unit).Heeds (onAccesses addr A) past
      fun l _ => ∃ bmcrVal, Logs addr l (log ++ [⟨.read (.clause22 regs.bmcr), .ok bmcrVal⟩] ++
        [⟨.write (.clause22 regs.bmcr) (anRestarted bmcrVal), .ok ()⟩]) := by
  refine (mdioRead_logs (by decide) (by decide) hpast hread).bind fun l bmcrVal hlog => ?_
  exact (mdioWrite_logs (by decide) (by decide) hlog (hwrite bmcrVal)).mono
    fun l' _ hlog' => ⟨bmcrVal, hlog'⟩

/-- **`init` goes through the stages, and ends in one of its exits**, whatever is replied. -/
theorem init_done (phy : PhyLan87xx) :
    ((PhyLan87xx.init : DriverM ε PhyLan87xx (PhyError ε) Unit).on phy).Heeds
      (onAccesses phy.addr InitStep) (InitDone phy) [] := by
  have hfail : ∀ (l : List (TxnEvent ε)) e, InitDone phy l (.error (.mdio e), phy) :=
    fun l e => ⟨nofun, fun _ => rfl, .inl ⟨e, rfl⟩⟩
  -- 1. soft reset
  refine Method.heeds_lift_bind_of (softReset_logs .reset fun _ => .poll) hfail ?_
  rintro l₁ cleared ⟨vs, hvs, hend⟩
  cases cleared with
  | false =>
    refine ⟨nofun, fun _ => rfl, .inr ⟨_, hend.2, .noReset hvs, fun _ => ?_⟩⟩
    rw [(pollingLog_readings vs).bmcrs_eq]
    exact hend.1
  | true =>
  obtain ⟨-, v, hv, hlog₁⟩ := hend
  -- 2. family identity
  refine Method.heeds_lift_bind_of (Φ := fun l id => ∃ id1 id2,
    Logs phy.addr l (idLog vs v id1 id2) ∧ id = idOf id1 id2) ?_ hfail ?_
  · refine (mdioRead_logs (by decide) (by decide) hlog₁ (.id1 hv)).bind fun l id1 hlog => ?_
    refine (mdioRead_logs (by decide) (by decide) hlog (.id2 hv id1)).bind fun l' id2 hlog' => ?_
    rw [List.append_assoc] at hlog'
    exact Fallible.heeds_pure ⟨id1, id2, hlog', rfl⟩
  rintro l₂ id ⟨id1, id2, hlog₂, rfl⟩
  by_cases hid : idOf id1 id2 &&& phyOuiMask ≠ phyOui
  · rw [if_pos hid]
    exact ⟨nofun, fun _ => rfl, .inr ⟨_, hlog₂, .wrongId hv hid, nofun⟩⟩
  rw [if_neg hid]
  have hfamily := not_not.mp hid
  -- 3. energy detect
  refine Method.heeds_lift_bind_of
    (mdioRead_logs (by decide) (by decide) hlog₂ (.mcsr hv hfamily)) hfail ?_
  intro l₃ mcsrVal hlog₃
  refine Method.heeds_lift_bind_of
    (mdioWrite_logs (by decide) (by decide) hlog₃ (.edpd hv hfamily mcsrVal)) hfail ?_
  intro l₄ _ hlog₄
  rw [List.append_assoc] at hlog₄
  -- 4. advertisement
  refine Method.heeds_lift_bind_of
    (mdioWrite_logs (by decide) (by decide) hlog₄ (.anar hv hfamily mcsrVal)) hfail ?_
  intro l₅ _ hlog₅
  -- 5. auto-negotiation
  refine Method.heeds_lift_bind_of (negotiate_logs hlog₅ (.bmcr hv hfamily mcsrVal)
    (.restart hv hfamily mcsrVal)) hfail ?_
  rintro l₆ _ ⟨bmcrVal, hlog₆⟩
  refine ⟨fun _ => rfl, fun h => absurd rfl h, .inr ⟨_, fun w => (hlog₆ w).trans ?_,
    .ready vs hv hfamily mcsrVal bmcrVal, nofun⟩⟩
  simp only [List.append_assoc, List.cons_append, List.nil_append]

/-- **What `init` decides** from the accesses `log` it has made. -/
structure Decision (phy : PhyLan87xx) (log : List (Access ε)) (faultFree : Prop)
    (r : Except (PhyError ε) Unit × PhyLan87xx) : Prop where
  ok : r.1 = .ok () ↔ faultFree ∧ ResetSeen log ∧
    ∃ id, IdSeen log id ∧ id &&& 0xFFFFFC00 = 0x0007C000
  resetTimeout : r.1 = .error .resetTimeout ↔ faultFree ∧
    (readings (.clause22 regs.bmcr) log).length = 500 ∧
      ∀ v ∈ readings (.clause22 regs.bmcr) log, v &&& bmcr.reset ≠ 0
  unsupportedChip : ∀ id, r.1 = .error (.unsupportedChip id) ↔ faultFree ∧ ResetSeen log ∧
    IdSeen log id ∧ id &&& 0xFFFFFC00 ≠ 0x0007C000
  unsupportedPackage : ∀ strap, r.1 ≠ .error (.unsupportedPackage strap)
  bmcrReads : ∀ log₁ reply log₂,
    log = log₁ ++ ⟨.read (.clause22 regs.bmcr), reply⟩ :: log₂ → BmcrRead log₁
  ok_driver : r.1 = .ok () → r.2 = { phy with linkUp := false }
  error_driver : r.1 ≠ .ok () → r.2 = phy

section Exits

variable {log : List (Access ε)} {r : Except (PhyError ε) Unit}

/-- The values read by a call that succeeds. -/
theorem readyLog_readings (vs : List U16) (v id1 id2 mcsrVal bmcrVal : U16) :
    Readings (idLog vs v id1 id2 ++ [⟨.read (.clause22 mcsr.addr), .ok mcsrVal⟩,
      ⟨.write (.clause22 mcsr.addr) (mcsrVal &&& ~~~mcsr.edpdEn), .ok ()⟩,
      ⟨.write (.clause22 regs.anar) PhyLan87xx.advertisement, .ok ()⟩,
      ⟨.read (.clause22 regs.bmcr), .ok bmcrVal⟩,
      ⟨.write (.clause22 regs.bmcr) (anRestarted bmcrVal), .ok ()⟩] : List (Access ε))
      (vs ++ [v] ++ [bmcrVal]) [] [id1] [id2] [] [] := by
  refine (idLog_readings vs v id1 id2).append ?_
  constructor <;> rfl

/-- Which values every exit has read. -/
theorem InitExit.has_read (h : InitExit log r) :
    (r = .error .resetTimeout ∧ ∃ vs, Readings log vs [] [] [] [] [] ∧
      ∀ v ∈ vs, resetCleared v = false) ∨
    ∃ bmcrs id1 id2, Readings log bmcrs [] [id1] [id2] [] [] ∧
      (∃ v ∈ bmcrs, resetCleared v = true) ∧
      r = if idOf id1 id2 &&& phyOuiMask = phyOui then .ok ()
        else .error (.unsupportedChip (idOf id1 id2)) := by
  cases h with
  | @noReset vs hvs => exact .inl ⟨rfl, vs, pollingLog_readings vs, hvs⟩
  | @wrongId vs v id1 id2 hv hid =>
    refine .inr ⟨_, id1, id2, idLog_readings vs v id1 id2, ⟨v, by simp, hv⟩, ?_⟩
    rw [if_neg hid]
  | @ready vs v id1 id2 hv hid mcsrVal bmcrVal =>
    refine .inr ⟨_, id1, id2, readyLog_readings vs v id1 id2 mcsrVal bmcrVal,
      ⟨v, by simp, hv⟩, ?_⟩
    rw [if_pos hid]

/-- A call that did not read the ID decides that the reset timed out. -/
theorem decision_of_timeout {phy : PhyLan87xx} {vs : List U16}
    (hlog : Readings log vs [] [] [] [] []) (hn : vs.length = 500)
    (hvs : ∀ v ∈ vs, resetCleared v = false)
    (hreads : ∀ log₁ reply log₂, log = log₁ ++ ⟨.read (.clause22 regs.bmcr), reply⟩ :: log₂ →
      BmcrRead log₁) : Decision phy log True (.error .resetTimeout, phy) where
  ok := iff_of_false nofun fun h => not_resetSeen hlog hvs h.2.1
  resetTimeout := by
    refine iff_of_true rfl ⟨trivial, ?_⟩
    rw [hlog.bmcrs_eq]
    exact ⟨hn, fun v hv => of_decide_eq_false (hvs v hv)⟩
  unsupportedChip id := iff_of_false nofun fun h => not_resetSeen hlog hvs h.2.1
  unsupportedPackage := nofun
  bmcrReads := hreads
  ok_driver := nofun
  error_driver _ := rfl

/-- A call that read the ID decides by it. -/
theorem decision_of_id {phy after : PhyLan87xx} {bmcrs : List U16} {id1 id2 : U16}
    (hlog : Readings log bmcrs [] [id1] [id2] [] [])
    (hclear : ∃ v ∈ bmcrs, resetCleared v = true)
    (hr : r = if idOf id1 id2 &&& phyOuiMask = phyOui then .ok ()
      else .error (.unsupportedChip (idOf id1 id2)))
    (hreads : ∀ log₁ reply log₂, log = log₁ ++ ⟨.read (.clause22 regs.bmcr), reply⟩ :: log₂ →
      BmcrRead log₁) (hok : r = .ok () → after = { phy with linkUp := false })
    (herr : r ≠ .ok () → after = phy) : Decision phy log True (r, after) := by
  obtain ⟨v, hv, hclear⟩ := hclear
  have hseen : ResetSeen log := ⟨v, by rwa [hlog.bmcrs_eq], of_decide_eq_true hclear⟩
  have hid := idSeen_iff hlog
  have htimeout : ¬∀ v ∈ readings (.clause22 regs.bmcr) log, v &&& bmcr.reset ≠ 0 := by
    rintro hall
    obtain ⟨u, hu, hzero⟩ := hseen
    exact hall u hu hzero
  by_cases hfamily : idOf id1 id2 &&& phyOuiMask = phyOui
  · rw [if_pos hfamily] at hr
    subst hr
    exact {
      ok := iff_of_true rfl ⟨trivial, hseen, _, (hid _).mpr rfl, hfamily⟩
      resetTimeout := iff_of_false nofun fun h => htimeout h.2.2
      unsupportedChip := fun id => iff_of_false nofun fun ⟨_, _, h, hne⟩ =>
        hne ((hid id).mp h ▸ hfamily)
      unsupportedPackage := nofun
      bmcrReads := hreads
      ok_driver := hok
      error_driver := herr }
  · rw [if_neg hfamily] at hr
    subst hr
    exact {
      ok := iff_of_false nofun fun ⟨_, _, id, h, heq⟩ => hfamily ((hid id).mp h ▸ heq)
      resetTimeout := iff_of_false nofun fun h => htimeout h.2.2
      unsupportedChip := fun id => by
        rw [hid]
        constructor
        · intro h
          obtain rfl : idOf id1 id2 = id := by simpa using h
          exact ⟨trivial, hseen, rfl, hfamily⟩
        · rintro ⟨-, -, rfl, -⟩
          rfl
      unsupportedPackage := nofun
      bmcrReads := hreads
      ok_driver := hok
      error_driver := herr }

end Exits

/-- A call decides as its end says. -/
theorem decision_of_done {phy : PhyLan87xx} {made : List (TxnEvent ε)} {faultFree : Prop}
    {r : Except (PhyError ε) Unit × PhyLan87xx} (w : Latch) (h : InitDone phy made r)
    (hff : faultFree ↔ reported PhyError.bus? r.1 = none)
    (hreads : ∀ log₁ reply log₂, accesses phy.addr w made =
      log₁ ++ ⟨.read (.clause22 regs.bmcr), reply⟩ :: log₂ → BmcrRead log₁) :
    Decision phy (accesses phy.addr w made) faultFree r := by
  obtain ⟨r, after⟩ := r
  obtain ⟨hok, herr, ⟨e, he⟩ | ⟨log, hlog, hexit, hn⟩⟩ := h
  · -- a bus error: a transaction has failed
    obtain rfl : r = .error (.mdio e) := he
    have hfault : ¬faultFree := fun h => by cases hff.mp h
    exact {
      ok := iff_of_false nofun fun h => hfault h.1
      resetTimeout := iff_of_false nofun fun h => hfault h.1
      unsupportedChip := fun _ => iff_of_false nofun fun h => hfault h.1
      unsupportedPackage := nofun
      bmcrReads := hreads
      ok_driver := hok
      error_driver := herr }
  · rw [hlog w] at hreads ⊢
    rw [eq_true (hff.mpr hexit.no_bus_error)]
    rcases hexit.has_read with ⟨rfl, vs, hvals, hvs⟩ | ⟨bmcrs, id1, id2, hvals, hclear, hr⟩
    · obtain rfl : after = phy := herr nofun
      refine decision_of_timeout hvals ?_ hvs hreads
      rw [← hvals.bmcrs_eq]
      exact hn rfl
    · exact decision_of_id hvals hclear hr hreads hok herr

/-- `init` of the LAN87xx issues at most 508 transactions. -/
theorem init_within (phy : PhyLan87xx) :
    ((PhyLan87xx.init : DriverM ε PhyLan87xx (PhyError ε) Unit).on phy).Within 508 := by
  refine Method.within_lift_bind (n := 501) (k := 7) (softReset_takes phy.addr) fun cleared => ?_
  cases cleared with
  | false => exact Program.within_done _ _
  | true =>
  refine Method.within_lift_bind (n := 2) (k := 5) (readPhyId_takes phy.addr) fun id => ?_
  split
  · exact Program.within_done _ _
  refine Method.within_lift_bind (n := 1) (k := 4) (mdioRead_takes _ _) fun mcsrVal => ?_
  refine Method.within_lift_bind (n := 1) (k := 3) (mdioWrite_takes _ _ _) fun _ => ?_
  refine Method.within_lift_bind (n := 1) (k := 2) (mdioWrite_takes _ _ _) fun _ => ?_
  have hnegotiate : (enableAutoNegotiation phy.addr : Mdio ε Unit).Takes 2 2 :=
    (mdioRead_takes phy.addr regs.bmcr).bind fun _ => mdioWrite_takes _ _ _
  exact Method.within_lift_bind (n := 2) (k := 0) hnegotiate fun _ => Program.within_done _ _

end Lan87xx

/-- The decision, on every bus. -/
theorem Lan87xx.init_decision (bus : MdioBus ε σ) (phy : PhyLan87xx) (s : σ) (w : Latch) :
    let o := (PhyLan87xx.init.on phy).run bus.handler s
    Decision phy (accesses phy.addr w (o.trace.map Exchange.event)) o.FaultFree o.value := by
  intro o
  have hdone := init_done (ε := ε) phy
  have hff := (PhyLan87xx.init_failStop phy).faultFree_iff bus.handler s
  refine decision_of_done w (hdone.run bus.handler s).1 hff ?_
  intro log₁ reply log₂ hlog
  exact (access_allowed (fun _ _ _ hl => hdone.run_guard bus.handler s hl) hlog).bmcrRead

/-- **`init` of the LAN87xx decides by what it reads**, on every bus, and within 508
transactions. -/
theorem lan87xx_init_decides (bus : MdioBus ε σ) (phy : PhyLan87xx) (s : σ) (w : Latch) :
    let o := (PhyLan87xx.init.on phy).run bus.handler s
    Lan87xx.Decision phy (accesses phy.addr w (o.trace.map Exchange.event)) o.FaultFree o.value ∧
      o.trace.length ≤ 508 :=
  ⟨Lan87xx.init_decision bus phy s w, (Lan87xx.init_within phy).run bus.handler s⟩

/-! ## Devices that always read the same -/

/-- The register always reads `v`, if it can be read. -/
def MdioBus.Reads (bus : MdioBus ε σ) (addr r : U8) (v : U16) : Prop :=
  ∀ s u, (bus.read addr r s).1 = .ok u → u = v

/-- Every register of the PHY reads `v`: its bus is stuck there. -/
def MdioBus.Stuck (bus : MdioBus ε σ) (addr : U8) (v : U16) : Prop := ∀ r, bus.Reads addr r v

section Fixed

variable {α : Type} {bus : MdioBus ε σ} {addr r : U8} {v u : U16}

/-- A register is read by a transaction with the PHY; a Clause 22 register, by one with
that register. -/
theorem register?_origin {w : Latch} {a : U8} {x : Register}
    (h : w.register? addr a r = some x) : a = addr ∧ ∀ r', x = .clause22 r' → r = r' := by
  unfold Latch.register? at h
  split at h
  · cases h
  · rename_i hor
    refine ⟨not_not.mp fun ha => hor (.inl ha), ?_⟩
    rintro r' rfl
    split at h
    · split at h <;> cases h
    · exact Register.clause22.inj (Option.some.inj h)

/-- A value that was read was read by a transaction. -/
theorem readings_origin {x : Register} {w : Latch} {made : List (TxnEvent ε)}
    (h : u ∈ readings x (accesses addr w made)) :
    ∃ r, ⟨.read addr r, .ok u⟩ ∈ made ∧ ∀ r', x = .clause22 r' → r = r' := by
  obtain ⟨log, log', hlog⟩ := List.append_of_mem (mem_readings.mp h)
  obtain ⟨l, ⟨q, reply⟩, l', rfl, -, he, -⟩ := accesses_origin hlog
  cases q with
  | write a r' u' =>
    simp only [Latch.access?, Option.map_eq_some_iff] at he
    obtain ⟨y, -, hy⟩ := he
    cases hy
  | read a r =>
    simp only [Latch.access?, Option.map_eq_some_iff] at he
    obtain ⟨y, hy, heq⟩ := he
    cases heq
    obtain ⟨rfl, hr⟩ := register?_origin hy
    exact ⟨r, by simp, hr⟩

/-- What a run has read is what the bus reads. -/
theorem run_reads (hfixed : bus.Reads addr r v) (p : Program Txn.Reply ε α) (s : σ)
    (h : (⟨.read addr r, .ok u⟩ : TxnEvent ε) ∈ (p.run bus.handler s).trace.map Exchange.event) :
    u = v := by
  obtain ⟨x, hx, hevent⟩ := List.mem_map.mp h
  have hreply := p.run_reply bus.handler s x hx
  obtain ⟨pre, q, reply, post⟩ := x
  cases hevent
  exact hfixed pre u hreply.symm

/-- A register that is fixed is read as it is. -/
theorem readings_fixed (hfixed : bus.Reads addr r v) (p : Program Txn.Reply ε α) (s : σ)
    (w : Latch) (h : u ∈ readings (.clause22 r)
      (accesses addr w ((p.run bus.handler s).trace.map Exchange.event))) : u = v := by
  obtain ⟨r', hmem, hr⟩ := readings_origin h
  obtain rfl := hr r rfl
  exact run_reads hfixed p s hmem

/-- On a stuck bus every register, also behind the indirection, is read as it is stuck. -/
theorem readings_stuck (hstuck : bus.Stuck addr v) (p : Program Txn.Reply ε α) (s : σ)
    (w : Latch) (x : Register) (h : u ∈ readings x
      (accesses addr w ((p.run bus.handler s).trace.map Exchange.event))) : u = v := by
  obtain ⟨r, hmem, -⟩ := readings_origin h
  exact run_reads (hstuck r) p s hmem

end Fixed

/-! ### Families -/

/-- The upper half of an ID is the first of its registers. -/
theorem idOf_upper (id1 id2 : U16) : (idOf id1 id2).extractLsb' 16 16 = id1 := by
  ext i hi
  have hlt : 16 + i < 32 := by omega
  simp [idOf, hlt, BitVec.getLsbD_eq_getElem hi]

/-- A mask that covers the upper half leaves the first ID register no choice. -/
theorem id1_of_family {id1 id2 : U16} {mask family : U32}
    (hmask : mask.extractLsb' 16 16 = 0xFFFF) (h : idOf id1 id2 &&& mask = family) :
    id1 = family.extractLsb' 16 16 := by
  rw [← h, BitVec.extractLsb'_and, hmask, idOf_upper]
  exact BitVec.and_allOnes.symm

/-- **No chip is taken for both families.**  Of a PHY whose first ID register is fixed, at
most one of the drivers takes it for its own, in whatever state it is and whatever else it
reads. -/
theorem one_family (bus : MdioBus ε σ) (phy867 : PhyLan867x) (phy87 : PhyLan87xx)
    (haddr : phy87.addr = phy867.addr) (id1 : U16)
    (hfixed : bus.Reads phy867.addr regs.phyidr1 id1) (s s' : σ) :
    ((PhyLan867x.init.on phy867).run bus.handler s).value.1 = .ok () →
      ((PhyLan87xx.init.on phy87).run bus.handler s').value.1 ≠ .ok () := by
  intro hok867 hok87
  have hzero : id1 = 0x0000 := by
    obtain ⟨-, -, ⟨⟨e, he⟩, -⟩ | ⟨log, hlog, hexit⟩⟩ :=
      ((init_stages phy867).run bus.handler s).1
    · exact absurd (hok867.symm.trans he) nofun
    obtain ⟨-, -, ⟨id, ⟨i1, hi1, i2, -, rfl⟩, hfamily⟩, -⟩ := hexit.ok_iff.mp hok867
    rw [← hlog ⟨0, 0, 0⟩] at hi1
    rw [← readings_fixed hfixed _ s ⟨0, 0, 0⟩ hi1]
    exact id1_of_family (by decide) hfamily
  have hseven : id1 = 0x0007 := by
    rw [← haddr] at hfixed
    obtain ⟨-, -, id, ⟨i1, hi1, i2, -, rfl⟩, hfamily⟩ :=
      (Lan87xx.init_decision bus phy87 s' ⟨0, 0, 0⟩).ok.mp hok87
    rw [← readings_fixed hfixed _ s' ⟨0, 0, 0⟩ hi1]
    exact id1_of_family (by decide) hfamily
  rw [hzero] at hseven
  exact absurd hseven (by decide)

/-- A LAN8670, taken for its own by one driver, as seen by the other. -/
theorem one_family_lan8670 :
    ((PhyLan87xx.init.on (.new 3)).run (SimulatedChip.lan8670.bus 3 false).handler
      (⟨staleChip, []⟩ : SimState String)).value.1 ≠ .ok () := by
  refine one_family (SimulatedChip.lan8670.bus 3 false) (.new 3) (.new 3) rfl 0x0000 ?_
    ⟨staleChip, []⟩ ⟨staleChip, []⟩ (by decide +kernel)
  intro s u hu
  simp only [SimulatedChip.bus, SimulatedChip.transact] at hu
  split at hu <;> cases hu <;> rfl

/-! ### Stuck buses -/

section Stuck

open Lan867x

variable {v : U16} {log : List (Access ε)} {r : Except (PhyError ε) Unit}

/-- No value that both ID registers read is an ID of a LAN867x. -/
theorem stuck_not_lan867x : idOf v v &&& phyOuiModelMask ≠ phyOuiModelLan867x := by
  intro h
  obtain rfl := id1_of_family (by decide) h
  exact absurd h (by decide)

/-- Nor of a LAN87xx. -/
theorem stuck_not_lan87xx : idOf v v &&& Lan87xx.phyOuiMask ≠ Lan87xx.phyOui := by
  intro h
  obtain rfl := id1_of_family (by decide) h
  exact absurd h (by decide)

/-- A list of 500 values that are all `v`. -/
theorem mem_of_full {vs : List U16} (hn : vs.length = 500) (hv : ∀ u ∈ vs, u = v) : v ∈ vs := by
  have hne : vs ≠ [] := by
    rintro rfl
    cases hn
  obtain ⟨u, hu⟩ := List.exists_mem_of_ne_nil vs hne
  rwa [← hv u hu]

/-- What a log in which everything was read as `v` has of the ID. -/
theorem id_of_stuck {bmcrs sts2s straps midvers : List U16} {id1 id2 : U16}
    (hv : ∀ x, ∀ u ∈ readings x log, u = v)
    (hlog : Readings log bmcrs sts2s [id1] [id2] straps midvers) : idOf id1 id2 = idOf v v := by
  have h1 : id1 = v := hv (.clause22 regs.phyidr1) id1 (by rw [hlog.id1s_eq]; simp)
  have h2 : id2 = v := hv (.clause22 regs.phyidr2) id2 (by rw [hlog.id2s_eq]; simp)
  rw [h1, h2]

/-- Every exit of `init` of the LAN867x, on a stuck bus. -/
theorem InitExit.of_stuck {chip : Option Chip} (h : InitExit log r chip)
    (hv : ∀ x, ∀ u ∈ readings x log, u = v) :
    r = .error (if v &&& bmcr.reset ≠ 0 ∨ v &&& sts2Resetc = 0 then .resetTimeout
      else .unsupportedChip (idOf v v)) := by
  have hfamily : ∀ {R : InitReplies} {bmcrs sts2s straps midvers : List U16}, R.InFamily →
      ¬Readings log bmcrs sts2s [R.id1] [R.id2] straps midvers := by
    intro R bmcrs sts2s straps midvers hR hlog
    apply stuck_not_lan867x (v := v)
    rw [← id_of_stuck hv hlog]
    exact hR.family
  cases h with
  | @noReset vs hn hvs =>
    have hlog : Readings (ε := ε) (pollingLog vs) _ _ _ _ _ _ := pollingLog_readings vs
    have hmem := mem_of_full hn fun u hu => hv (.clause22 regs.bmcr) u (by rwa [hlog.bmcrs_eq])
    rw [if_pos (.inl (of_decide_eq_false (hvs v hmem)))]
  | @noHandshake R hR vs hn hvs =>
    have hlog : Readings (ε := ε) (R.handshakeLog vs) _ _ _ _ _ _ := R.handshakeLog_readings vs
    have hmem := mem_of_full hn fun u hu => hv (.mmd sts2) u (by rwa [hlog.sts2s_eq])
    rw [if_pos (.inr (not_not.mp (of_decide_eq_false (hvs v hmem))))]
  | @wrongId R hR hid =>
    have hlog : Readings (ε := ε) R.idLog _ _ _ _ _ _ := R.idLog_readings
    have hcleared : R.cleared = v := hv (.clause22 regs.bmcr) _ (by rw [hlog.bmcrs_eq]; simp)
    have hcompleted : R.completed = v := hv (.mmd sts2) _ (by rw [hlog.sts2s_eq]; simp)
    have hclear := of_decide_eq_true hR.cleared
    have hset := of_decide_eq_true hR.completed
    rw [hcleared] at hclear
    rw [hcompleted] at hset
    rw [if_neg (not_or.mpr ⟨not_not.mpr hclear, hset⟩), InitReplies.id, id_of_stuck hv hlog]
  | @wrongPackage R hR hstrap => exact absurd R.strapLog_readings (hfamily hR)
  | @wrongMidver R chip hR hmidver => exact absurd R.midverLog_readings (hfamily hR.toInFamily)
  | @ready R chip hR => exact absurd R.enabledLog_readings (hfamily hR.toInFamily)

/-- Every exit of `init` of the LAN87xx, on a stuck bus. -/
theorem Lan87xx.InitExit.of_stuck (h : Lan87xx.InitExit log r)
    (hn : r = .error .resetTimeout → (readings (.clause22 regs.bmcr) log).length = 500)
    (hv : ∀ x, ∀ u ∈ readings x log, u = v) :
    r = .error (if v &&& bmcr.reset ≠ 0 then .resetTimeout else .unsupportedChip (idOf v v)) := by
  rcases h.has_read with ⟨rfl, vs, hlog, hvs⟩ | ⟨bmcrs, id1, id2, hlog, ⟨u, hu, hclear⟩, hr⟩
  · have hmem := mem_of_full (hn rfl) (hv (.clause22 regs.bmcr))
    rw [hlog.bmcrs_eq] at hmem
    rw [if_pos (of_decide_eq_false (hvs v hmem))]
  · have hcleared : u = v := hv (.clause22 regs.bmcr) u (by rwa [hlog.bmcrs_eq])
    have hzero := of_decide_eq_true hclear
    rw [hcleared] at hzero
    rw [hr, id_of_stuck hv hlog, if_neg stuck_not_lan87xx, if_neg (not_not.mpr hzero)]

/-- A call that ends in a bus error or else in `e` does not succeed, and ends in `e` when
nothing fails. -/
theorem rejected {faultFree : Prop} {e : PhyError ε}
    (hff : faultFree ↔ reported PhyError.bus? r = none)
    (h : (∃ e', r = .error (.mdio e')) ∨ r = .error e) :
    r ≠ .ok () ∧ (faultFree → r = .error e) := by
  rcases h with ⟨e', rfl⟩ | rfl
  · exact ⟨nofun, fun hnone => absurd (hff.mp hnone) nofun⟩
  · exact ⟨nofun, fun _ => rfl⟩

end Stuck

/-- **A stuck bus is taken for no chip.**  When every register of a PHY reads `v`, `init`
of neither driver succeeds, whatever fails.  When nothing fails, what it reports depends
on `v` alone: that the reset timed out, if `v` is never what the polls wait for, or else
that the chip is not supported, with `v` twice as its ID. -/
theorem stuck_bus_rejected (bus : MdioBus ε σ) (v : U16) (phy867 : PhyLan867x)
    (phy87 : PhyLan87xx) (h867 : bus.Stuck phy867.addr v) (h87 : bus.Stuck phy87.addr v) (s : σ) :
    let o867 := (PhyLan867x.init.on phy867).run bus.handler s
    let o87 := (PhyLan87xx.init.on phy87).run bus.handler s
    o867.value.1 ≠ .ok () ∧ o87.value.1 ≠ .ok () ∧
    (o867.FaultFree → o867.value.1 = .error
      (if v &&& bmcr.reset ≠ 0 ∨ v &&& Lan867x.sts2Resetc = 0 then .resetTimeout
        else .unsupportedChip (idOf v v))) ∧
    (o87.FaultFree → o87.value.1 = .error
      (if v &&& bmcr.reset ≠ 0 then .resetTimeout else .unsupportedChip (idOf v v))) := by
  intro o867 o87
  have h₁ : (∃ e, o867.value.1 = .error (.mdio e)) ∨ o867.value.1 = .error
      (if v &&& bmcr.reset ≠ 0 ∨ v &&& Lan867x.sts2Resetc = 0 then .resetTimeout
        else .unsupportedChip (idOf v v)) := by
    obtain ⟨-, -, ⟨he, -⟩ | ⟨log, hlog, hexit⟩⟩ := ((init_stages phy867).run bus.handler s).1
    · exact .inl he
    · refine .inr (hexit.of_stuck fun x u hu => ?_)
      rw [← hlog ⟨0, 0, 0⟩] at hu
      exact readings_stuck h867 _ s ⟨0, 0, 0⟩ x hu
  have h₂ : (∃ e, o87.value.1 = .error (.mdio e)) ∨ o87.value.1 = .error
      (if v &&& bmcr.reset ≠ 0 then .resetTimeout else .unsupportedChip (idOf v v)) := by
    obtain ⟨-, -, he | ⟨log, hlog, hexit, hn⟩⟩ := ((Lan87xx.init_done phy87).run bus.handler s).1
    · exact .inl he
    · refine .inr (hexit.of_stuck hn fun x u hu => ?_)
      rw [← hlog ⟨0, 0, 0⟩] at hu
      exact readings_stuck h87 _ s ⟨0, 0, 0⟩ x hu
  have hr₁ := rejected ((PhyLan867x.init_failStop phy867).faultFree_iff bus.handler s) h₁
  have hr₂ := rejected ((PhyLan87xx.init_failStop phy87).faultFree_iff bus.handler s) h₂
  exact ⟨hr₁.1, hr₂.1, hr₁.2, hr₂.2⟩

/-- Where no PHY is, the bus floats high: both drivers report that the reset timed out,
and no ID is read. -/
theorem stuck_bus_rejected_absent :
    let bus : MdioBus Unit Unit := ⟨fun _ _ s => (.ok 0xFFFF, s), fun _ _ _ s => (.ok (), s)⟩
    ((PhyLan867x.init.on (.new 3)).run bus.handler ()).value.1 = .error .resetTimeout ∧
      ((PhyLan87xx.init.on (.new 3)).run bus.handler ()).value.1 = .error .resetTimeout := by
  intro bus
  have hstuck : bus.Stuck 3 0xFFFF := fun _ _ _ h => (Except.ok.inj h).symm
  have hreply : ∀ q s, ∃ v, (bus.handler q s).1 = .ok v := by
    intro q s
    cases q <;> exact ⟨_, rfl⟩
  have h := stuck_bus_rejected bus 0xFFFF (.new 3) (.new 3) hstuck hstuck ()
  refine ⟨h.2.2.1 (Program.run_faultFree_of_reliable hreply _ _), ?_⟩
  exact h.2.2.2 (Program.run_faultFree_of_reliable hreply _ _)

end EthPhy
