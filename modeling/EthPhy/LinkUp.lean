import EthPhy.PhyDriver

/-!
# The link of a LAN87xx comes up

`drive` has no bound of its own: it polls until the link is up.  `Part87xx.linking` is a
chip on a cable with a partner: its link comes up within some number of transactions of
the last write to BMCR, and stays up until the next.  In front of such a chip the loop
ends, whatever state driver and chip were in, and what it returns is what the two ends
have negotiated (`drive_links_up`).
-/

namespace EthPhy
open Interaction Ieee802_3 Lan87xx PhyDriver

variable {ε : Type}

/-! ## A chip on a cable -/

/-- The chip, and how many transactions its link still takes to come up. -/
structure Linking where
  chip : Resetting
  remaining : Nat

/-- What a transaction finds out about a link that is up. -/
def Linked (addr : U8) : (t : Txn) → t.Reply → Prop
  | .read a r, v => a = addr →
    (r = regs.bmsr → v &&& bmsr.linkStatus ≠ 0) ∧
    (r = pscsr.addr → ∃ speed duplex, Indicates v speed duplex)
  | .write .., _ => True

/-- **A chip whose link comes up** within `patience` transactions of the last write to
BMCR. -/
def Part87xx.linking (p : Part87xx) (patience : Nat) (addr : U8) : Device Txn.Reply ε Linking :=
  fun s t r s' => p.device addr s.chip t r s'.chip ∧
    (∀ v, t = .write addr regs.bmcr v → s'.remaining ≤ patience) ∧
    ((∀ v, t ≠ .write addr regs.bmcr v) → s'.remaining ≤ s.remaining - 1) ∧
    ∀ v, r = .ok v → s.remaining = 0 → Linked addr t v

section Steps

variable {p : Part87xx} {patience : Nat} {addr : U8} {phy : PhyLan87xx} {s : Linking}

/-- When nothing fails, the chip is as it is without a cable. -/
theorem linking_chip {t : Txn} {r : Except ε t.Reply} {s' : Linking}
    (h : (p.linking patience addr).reliable s t r s') :
    (p.device addr).reliable s.chip t r s'.chip := by
  obtain ⟨hd, hok⟩ := h
  exact ⟨hd.1, hok⟩

/-- Whatever is transferred, a link that will come up within `patience` transactions still
will. -/
theorem linking_patience {t : Txn} {r : Except ε t.Reply} {s' : Linking}
    (h : (p.linking patience addr).reliable s t r s') (hs : s.remaining ≤ patience) :
    s'.remaining ≤ patience := by
  obtain ⟨⟨-, hwrite, hother, -⟩, -⟩ := h
  by_cases ht : ∃ v, t = .write addr regs.bmcr v
  · obtain ⟨v, hv⟩ := ht
    exact hwrite v hv
  · have hle := hother fun v hv => ht ⟨v, hv⟩
    omega

/-- A read takes one off what remains. -/
theorem linking_read {t : Txn} {r : Except ε t.Reply} {s' : Linking}
    (ht : ∃ a r, t = .read a r) (h : (p.linking patience addr).reliable s t r s') :
    s'.remaining ≤ s.remaining - 1 := by
  obtain ⟨a, r, rfl⟩ := ht
  exact h.1.2.2.1 nofun

theorem ensures_linking {α : Type} {x : Program Txn.Reply ε α} {Q : α → Registers → Prop}
    (h : x.Ensures (Lan87xx.device configuredRegs87xx addr) s.chip.regs fun _ r c' => Q r c') :
    x.Ensures (p.linking patience addr).reliable s fun _ r s' => Q r s'.chip.regs := by
  have hchip : ∀ (s : Linking) t r s', (p.linking patience addr).reliable s t r s' →
      (p.device addr : Device _ ε _).reliable s.chip t r s'.chip := fun _ _ _ _ hr =>
    linking_chip hr
  exact (ensures_regs h).pull hchip

/-! ## One call at a time -/

/-- **`init` starts a negotiation**, and the link will come up. -/
theorem init_starts (phy : PhyLan87xx) (s : Linking) :
    ((PhyLan87xx.init : DriverM ε PhyLan87xx (PhyError ε) Unit).on phy).Ensures
      (p.linking patience phy.addr).reliable s fun _ r s' => r.1 = .ok () ∧
        r.2.addr = phy.addr ∧ Operating .auto s'.chip.regs ∧ s'.remaining ≤ patience := by
  have hok : ((PhyLan87xx.init : DriverM ε PhyLan87xx (PhyError ε) Unit).on phy).Ensures
      (p.linking patience phy.addr).reliable s fun _ r _ => r.1 = .ok () :=
    (PhyLan87xx.init_succeeds (p := p) phy).pull fun _ _ _ _ hr => linking_chip hr
  have hoper : ((PhyCall.driver .init).op phy : Program Txn.Reply ε _).Ensures
      (p.linking patience phy.addr).reliable s fun _ r s' => r.2.addr = phy.addr ∧
        (r.1.isOk = true → Operating .auto s'.chip.regs) :=
    ensures_linking (Q := fun (r : Response ε × PhyLan87xx) c' =>
      r.2.addr = phy.addr ∧ (r.1.isOk = true → Operating .auto c'))
      (operating_init phy s.chip.regs)
  have hpatience : ((PhyLan87xx.init : DriverM ε PhyLan87xx (PhyError ε) Unit).on phy).Ensures
      (p.linking patience phy.addr).reliable s fun _ _ s' => s'.remaining ≤ patience := by
    -- the first transaction writes BMCR
    have huses := PhyLan87xx.init_uses (ε := ε) (a := phy.addr) phy rfl
    intro r s₁ hr
    refine ((huses.2 r).ensures (I := fun s : Linking => s.remaining ≤ patience)
      (fun _ _ _ _ _ hr hs => linking_patience hr hs) (hr.1.2.1 _ rfl)).mono ?_
    exact fun _ _ _ h => h.2
  refine (hok.and (((Program.ensures_map _ _ _).mp hoper).and hpatience)).mono ?_
  rintro l ⟨r, phy'⟩ s' ⟨rfl, ⟨haddr, hoper⟩, hle⟩
  exact ⟨rfl, haddr, hoper rfl, hle⟩

/-- A poll only reads. -/
theorem pollLink_reads (phy : PhyLan87xx) :
    ((PhyLan87xx.pollLink : DriverM ε PhyLan87xx (PhyError ε) LinkState).on phy).Uses
      (fun t => ∃ a r, t = .read a r) fun _ => True := by
  have hread : ∀ a r, (mdioRead a r : Mdio ε U16).Uses fun t => ∃ a r, t = .read a r :=
    fun a r => Fallible.uses_request ⟨a, r, rfl⟩
  have hdown : (PhyLan87xx.reportDown : DriverM ε PhyLan87xx (PhyError ε) LinkState).Uses
      (fun t => ∃ a r, t = .read a r) fun _ => True :=
    .bind (Method.uses_modify fun _ _ => trivial) fun _ => Method.uses_pure _
  have hup : ∀ speed duplex, (PhyLan87xx.reportUp speed duplex :
      DriverM ε PhyLan87xx (PhyError ε) LinkState).Uses (fun t => ∃ a r, t = .read a r)
        fun _ => True := fun speed duplex =>
    .bind (Method.uses_modify fun _ _ => trivial) fun _ => Method.uses_pure _
  have hpoll : (PhyLan87xx.pollLink : DriverM ε PhyLan87xx (PhyError ε) LinkState).Uses
      (fun t => ∃ a r, t = .read a r) fun _ => True := by
    refine Method.uses_get_bind fun self _ => ?_
    refine Method.Uses.bind (.lift (.bind (hread _ _) fun _ => Fallible.uses_pure _)) fun up => ?_
    refine .ite hdown ?_
    refine Method.Uses.bind (.lift (hread _ _)) fun bmcrVal => ?_
    refine .ite ?_ (hup _ _)
    refine Method.Uses.bind (.lift (hread _ _)) fun pscsrVal => ?_
    refine .ite hdown ?_
    split
    · exact hup _ _
    · exact hdown
  exact hpoll phy trivial

/-- A view of the state does not change what has been read. -/
theorem ReadIn.of_map {σ τ : Type} {view : σ → τ} {l : List (Exchange Txn.Reply ε σ)} {a r : U8}
    {v : U16} (h : ReadIn (l.map (Exchange.map view)) a r v) : ReadIn l a r v := by
  obtain ⟨_, _, hmem⟩ := h
  obtain ⟨⟨pre, req, reply, post⟩, hx, hmap⟩ := List.mem_map.mp hmem
  obtain ⟨-, rfl, hreply, -⟩ := Exchange.mk.inj hmap
  obtain rfl := eq_of_heq hreply
  exact ⟨pre, post, hx⟩

/-- ... nor what the mode calls for. -/
theorem LinkMode.Reports.of_map {σ τ : Type} {view : σ → τ} {l : List (Exchange Txn.Reply ε σ)}
    {mode : LinkMode} {link : LinkState}
    (h : mode.Reports addr (l.map (Exchange.map view)) link) : mode.Reports addr l link := by
  have hreq : (l.map (Exchange.map view)).map Exchange.req = l.map Exchange.req := by
    rw [List.map_map]
    rfl
  obtain ⟨bmsrVal, hbmsr, hdown, hup⟩ := h
  rw [hreq] at hdown hup
  refine ⟨bmsrVal, hbmsr.of_map, hdown, fun hlinked => ?_⟩
  cases mode with
  | forced speed duplex => exact hup hlinked
  | auto =>
    obtain ⟨pscsrVal, hpscsr, hrest⟩ := hup hlinked
    exact ⟨pscsrVal, hpscsr.of_map, hrest⟩

/-- A poll reports what the mode calls for. -/
theorem pollLink_reports_auto (h : Operating .auto s.chip.regs) :
    ((PhyLan87xx.pollLink : DriverM ε PhyLan87xx (PhyError ε) LinkState).on phy).Ensures
      (p.linking patience phy.addr).reliable s fun l r _ => ∃ link, r.1 = .ok link ∧
        LinkMode.auto.Reports phy.addr l link := by
  have hregs : ∀ (s : Linking) t r s', (p.linking patience phy.addr).reliable s t r s' →
      (Lan87xx.device ∅ phy.addr : Device _ ε _).reliable s.chip.regs t r s'.chip.regs := by
    intro s t r s' hr
    obtain ⟨hd, hok⟩ := reliable_regs (linking_chip hr)
    exact ⟨device_anti _ hd, hok⟩
  refine ((pollLink_reports_mode phy h.modeSet).pull hregs).mono ?_
  rintro l r s' ⟨link, hr, hreport⟩
  exact ⟨link, hr, hreport.of_map⟩

/-- A poll leaves the mode as it is. -/
theorem pollLink_operating (h : Operating .auto s.chip.regs) :
    ((PhyLan87xx.pollLink : DriverM ε PhyLan87xx (PhyError ε) LinkState).on phy).Ensures
      (p.linking patience phy.addr).reliable s fun _ r s' =>
        r.2.addr = phy.addr ∧ Operating .auto s'.chip.regs := by
  have hstep : ((PhyCall.driver .pollLink).op phy : Program Txn.Reply ε _).Ensures
      (Lan87xx.device configuredRegs87xx phy.addr) s.chip.regs fun _ r c' =>
        r.2.addr = phy.addr ∧ Operating .auto c' := by
    refine (operating_step id h).mono ?_
    rintro l r c' ⟨haddr, hmode⟩
    have hnone : commandedMode (.driver .pollLink, r.1) = none := ite_self none
    rw [hnone] at hmode
    exact ⟨haddr, hmode⟩
  have hcall : ((PhyCall.driver .pollLink).op phy : Program Txn.Reply ε _).Ensures
      (p.linking patience phy.addr).reliable s fun _ r s' => r.2.addr = phy.addr ∧
        Operating .auto s'.chip.regs :=
    ensures_linking (Q := fun (r : Response ε × PhyLan87xx) c' =>
      r.2.addr = phy.addr ∧ Operating .auto c') hstep
  exact (Program.ensures_map _ _ _).mp hcall

/-- **A poll reports the link up, or the link is closer to coming up.** -/
theorem poll_advances (haddr : phy.addr = addr) (h : Operating .auto s.chip.regs) :
    ((PhyLan87xx.pollLink : DriverM ε PhyLan87xx (PhyError ε) LinkState).on phy).Ensures
      (p.linking patience addr).reliable s fun l r s' => ∃ link, r.1 = .ok link ∧
        (r.2.addr = addr ∧ Operating .auto s'.chip.regs) ∧
        (link.up = true ∧ LinkMode.auto.Reports addr l link ∨
          link.up = false ∧ s'.remaining < s.remaining) := by
  subst haddr
  have hvariant := (pollLink_reads (ε := ε) phy).ensures_variant
    (D := (p.linking patience phy.addr).reliable) (s := s)
    (fun _ _ _ _ ht hr => linking_read ht hr)
  have hexchanges := (pollLink_reads (ε := ε) phy).ensures_exchanges
    (D := (p.linking patience phy.addr).reliable) (s := s)
    (I := fun s' => s.remaining = 0 → s'.remaining = 0)
    (fun _ _ _ _ ht hr hs hzero => Nat.le_zero.mp ((linking_read ht hr).trans (by simp [hs hzero])))
    id
  refine ((pollLink_reports_auto h).and ((pollLink_operating h).and
    (hvariant.and hexchanges))).mono ?_
  rintro l ⟨r, phy'⟩ s' ⟨⟨link, rfl, hreport⟩, hoper, hless, hread⟩
  refine ⟨link, rfl, hoper, ?_⟩
  cases hup : link.up with
  | true => exact .inl ⟨rfl, hreport⟩
  | false =>
    refine .inr ⟨rfl, ?_⟩
    obtain ⟨bmsrVal, ⟨c, c', hbmsr⟩, -, hlinked⟩ := hreport
    have hsome : 0 < l.length := List.length_pos_of_mem hbmsr
    by_contra hge
    -- the link is up already, and the poll has found out
    have hzero : s.remaining = 0 := by omega
    obtain ⟨hc, ⟨-, -, -, hlink⟩, -⟩ := hread _ hbmsr
    obtain ⟨pscsrVal, ⟨c₁, c₂, hpscsr⟩, -, hindicates, -⟩ :=
      hlinked ((hlink bmsrVal rfl (hc hzero) rfl).1 rfl)
    obtain ⟨hc₁, ⟨-, -, -, hlink₁⟩, -⟩ := hread _ hpscsr
    obtain ⟨speed, duplex, hind⟩ := (hlink₁ pscsrVal rfl (hc₁ hzero) rfl).2 rfl
    rw [(hindicates speed duplex).mpr hind] at hup
    cases hup

end Steps

/-! ## The loop -/

/-- **If the link comes up, a bring-up ends**: on a chip whose link comes up within
`patience` transactions of the last write to BMCR, `init` and more than `patience` polls
end with the link up, whatever state driver and chip were in.  The link returned is what
the last poll has read, and the chip has been configured to negotiate it. -/
theorem drive_links_up {σ : Type} (p : Part87xx) (patience : Nat) (bus : MdioBus ε σ)
    (view : σ → Linking) (phy : PhyLan87xx)
    (hbus : bus.handler.Conforms (p.linking patience phy.addr) view) (n : Nat) (hn : patience < n)
    (s : σ) :
    let o := ((drive n).on phy).run bus.handler s
    o.FaultFree → ∃ link l₁ l₂, o.value.1 = .ok (some link) ∧ link.up = true ∧
      o.trace = l₁ ++ l₂ ∧ LinkMode.auto.Reports phy.addr l₂ link ∧
      Operating .auto (view o.state).chip.regs := by
  intro o hff
  have hloop : ((drive n : DriverM ε PhyLan87xx (PhyError ε) (Option LinkState)).on phy).Ensures
      (p.linking patience phy.addr).reliable (view s) fun l r s' => ∃ link l₁ l₂,
        r.1 = .ok (some link) ∧ link.up = true ∧ l = l₁ ++ l₂ ∧
          LinkMode.auto.Reports phy.addr l₂ link ∧ Operating .auto s'.chip.regs := by
    unfold drive
    rw [Method.bind_on, Program.ensures_bind]
    refine (init_starts phy (view s)).mono ?_
    rintro l₀ ⟨_, phy'⟩ s₀ ⟨rfl, haddr, hoper, hpatience⟩
    have hpolls := Method.ensures_repeatUntil (m := PhyDriver.pollLink) (n := n)
      (D := (p.linking patience phy.addr).reliable)
      (I := fun (phy' : PhyLan87xx) s => phy'.addr = phy.addr ∧ Operating .auto s.chip.regs)
      (fun _ _ h => poll_advances (ε := ε) h.1 h.2) ⟨haddr, hoper⟩ (hpatience.trans_lt hn)
    refine hpolls.mono ?_
    rintro l r s' ⟨⟨-, hoper'⟩, link, l₁, l₂, hr, hup, rfl, hreport⟩
    exact ⟨link, l₀ ++ l₁, l₂, hr, hup, by simp, hreport, hoper'⟩
  obtain ⟨link, l₁, l₂, hr, hup, hl, hreport, hoper⟩ := hloop.run_faultFree hbus hff
  obtain ⟨k₁, k₂, htrace, rfl, rfl⟩ := List.map_eq_append_iff.mp hl
  exact ⟨link, k₁, k₂, hr, hup, htrace, hreport.of_map, hoper⟩

/-! ## A cable on the slowest chip -/

namespace Linking

/-- What the chip reads; the partner brings up 100BASE-TX full duplex. -/
def cabledRead (s : Linking) (r : U8) (v : U16) : U16 :=
  if s.remaining = 0 ∧ r = regs.bmsr then bmsr.linkStatus
  else if s.remaining = 0 ∧ r = pscsr.addr then pscsr.autodone ||| pscsr.speed100Fd
  else v

/-- The bus in front of the slowest chip; a link takes `patience` transactions. -/
def cabledBus (patience : Nat) (addr : U8) : MdioBus String Linking where
  read a r s :=
    let o := (Resetting.slowBus addr).read a r s.chip
    (o.1.map (s.cabledRead r), ⟨o.2, s.remaining - 1⟩)
  write a r v s :=
    let o := (Resetting.slowBus addr).write a r v s.chip
    (o.1, ⟨o.2, if a = addr ∧ r = regs.bmcr then patience else s.remaining - 1⟩)

/-- The registers are those of the slowest chip. -/
def view (s : Linking) : Linking := ⟨s.chip.settled, s.remaining⟩

end Linking

/-- A register that is neither configured nor part of the identity may read anything. -/
theorem Part87xx.device_status {p : Part87xx} {addr a r : U8} {s s' : Resetting} {v : U16}
    (h : p.device addr s (.read a r) (.ok v : Except ε U16) s')
    (hr : r = regs.bmsr ∨ r = pscsr.addr) (w : U16) :
    p.device addr s (.read a r) (.ok w : Except ε U16) s' := by
  obtain ⟨⟨m, ⟨hm, -⟩, hdrift⟩, hboots⟩ := h
  have hother : ¬(r = regs.bmcr ∨ r ∈ configuredRegs87xx) ∧ r ≠ regs.phyidr1 ∧
      r ≠ regs.phyidr2 := by
    rcases hr with rfl | rfl <;> simp only [configuredRegs87xx, Set.mem_insert_iff,
      Set.mem_singleton_iff] <;> decide
  refine ⟨⟨m, ⟨hm, fun _ hplain => absurd hplain hother.1⟩, hdrift⟩, fun _ _ _ => ?_⟩
  exact ⟨fun h => absurd (.inl h) hother.1, fun h => absurd h hother.2.1,
    fun h => absurd h hother.2.2⟩

namespace Linking

variable {patience : Nat} {addr : U8}

theorem cabledBus_conforms :
    (cabledBus patience addr).handler.Conforms (slowPart87xx.linking patience addr) view := by
  intro t s
  cases t with
  | read a r =>
    have hchip := Resetting.slowBus_conforms addr (.read a r) s.chip
    refine ⟨?_, nofun, fun _ => Nat.le_refl _, ?_⟩
    · by_cases hr : r = regs.bmsr ∨ r = pscsr.addr
      · exact Part87xx.device_status hchip hr _
      · have hplain : ∀ v, s.cabledRead r v = v := fun v => by
          rw [cabledRead, if_neg fun h => hr (.inl h.2), if_neg fun h => hr (.inr h.2)]
        have hsame : ((cabledBus patience addr).handler (.read a r) s).1 =
            ((Resetting.slowBus addr).handler (.read a r) s.chip).1 := congrArg Except.ok (hplain _)
        rw [hsame]
        exact hchip
    · intro v hv hzero
      have hlinked : s.cabledRead r _ = v := Except.ok.inj hv
      rw [← hlinked]
      refine fun _ => ⟨fun hr => ?_, fun hr => ⟨._100M, .full, ?_⟩⟩
      · have hup : ∀ v, s.cabledRead r v = bmsr.linkStatus := fun v => if_pos ⟨hzero, hr⟩
        rw [hup]
        exact (by decide : bmsr.linkStatus &&& bmsr.linkStatus ≠ 0)
      · rw [cabledRead, if_neg (fun h => absurd (h.2.symm.trans hr) (by decide)),
          if_pos ⟨hzero, hr⟩]
        exact ⟨by decide, by decide⟩
  | write a r v =>
    refine ⟨Resetting.slowBus_conforms addr (.write a r v) s.chip, ?_, ?_, fun _ _ _ => trivial⟩
    · intro w hw
      obtain ⟨ha, hr, -⟩ := Txn.write.inj hw
      exact (if_pos ⟨ha, hr⟩).le
    · intro hne
      refine (if_neg ?_).le
      rintro ⟨rfl, rfl⟩
      exact hne v rfl

theorem cabledBus_reliable (patience : Nat) (addr : U8) (t : Txn) (s : Linking) :
    ∃ v, ((cabledBus patience addr).handler t s).1 = .ok v := by
  cases t with
  | read a r => exact ⟨_, rfl⟩
  | write a r v => exact ⟨_, rfl⟩

/-- A link that takes 700 transactions. -/
theorem drive_links_up_slow : ∃ link,
    (((drive 701).on (PhyLan87xx.new 1)).run (cabledBus 700 1).handler
      ⟨⟨SimulatedLan87xx.lan8720a, 0⟩, 0⟩).value.1 = .ok (some link) ∧ link.up = true := by
  have hff := Program.run_faultFree_of_reliable (cabledBus_reliable 700 1)
    ((drive 701).on (PhyLan87xx.new 1)) ⟨⟨SimulatedLan87xx.lan8720a, 0⟩, 0⟩
  obtain ⟨link, -, -, hr, hup, -⟩ := drive_links_up slowPart87xx 700 (cabledBus 700 1) view
    (PhyLan87xx.new 1) cabledBus_conforms 701 (by omega) ⟨⟨SimulatedLan87xx.lan8720a, 0⟩, 0⟩ hff
  exact ⟨link, hr, hup⟩

end Linking

end EthPhy
