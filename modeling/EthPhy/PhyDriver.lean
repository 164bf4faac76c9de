import EthPhy.InitDecision
import EthPhy.Lan87xxBringUp
import EthPhy.Loops

/-!
# Clients of `PhyDriver`

`PhyDriver` is what an application knows of a PHY: it brings the PHY up and polls until
the link is up, whatever the chip (`drive`).  Four drivers implement it, the two with a
reset pin by forwarding to the driver inside.

Whatever lawful driver it is given, the application is stopped by the first error of the
bus, is told of it, and of no other error but that with which `init` refuses the chip, and
talks to no other PHY (`drive_transparent`).  In front of a LAN867x it never waits
(`drive_multidrop`).  In front of a LAN87xx it waits for the link and no longer: if the link
comes up, the loop ends (`drive_links_up`).
-/

namespace EthPhy
open Interaction

/-- **Ethernet PHY driver** — one implementation per chip family. -/
class PhyDriver (P : Type) where
  /-- PHY address on the MDIO bus. -/
  phyAddr : P → U8
  /-- Initialize PHY: reset, configure, enable auto-negotiation. -/
  init {ε : Type} : DriverM ε P (PhyError ε) Unit
  /-- Poll the current link state. -/
  pollLink {ε : Type} : DriverM ε P (PhyError ε) LinkState
  /-- Query hardware capabilities. -/
  capabilities {ε : Type} : DriverM ε P (PhyError ε) PhyCapabilities
  /-- Read the 32-bit PHY identifier. -/
  phyId {ε : Type} : DriverM ε P (PhyError ε) U32

instance : PhyDriver PhyLan867x where
  phyAddr := PhyLan867x.addr
  init := PhyLan867x.init
  pollLink := PhyLan867x.pollLink
  capabilities := PhyLan867x.capabilities
  phyId := PhyLan867x.phyId

instance : PhyDriver PhyLan87xx where
  phyAddr := PhyLan87xx.addr
  init := PhyLan87xx.init
  pollLink := PhyLan87xx.pollLink
  capabilities := PhyLan87xx.capabilities
  phyId := PhyLan87xx.phyId

/-- A method of the driver inside. -/
def PhyLan867xWithReset.forward {ε E α : Type} :
    DriverM ε PhyLan867x E α → DriverM ε PhyLan867xWithReset E α :=
  .focus PhyLan867xWithReset.inner fun inner _ => ⟨inner⟩

/-- A method of the driver inside. -/
def PhyLan87xxWithReset.forward {ε E α : Type} :
    DriverM ε PhyLan87xx E α → DriverM ε PhyLan87xxWithReset E α :=
  .focus PhyLan87xxWithReset.inner fun inner _ => ⟨inner⟩

instance : PhyDriver PhyLan867xWithReset where
  phyAddr phy := PhyDriver.phyAddr phy.inner
  init := PhyLan867xWithReset.forward PhyDriver.init
  pollLink := PhyLan867xWithReset.forward PhyDriver.pollLink
  capabilities := PhyLan867xWithReset.forward PhyDriver.capabilities
  phyId := PhyLan867xWithReset.forward PhyDriver.phyId

instance : PhyDriver PhyLan87xxWithReset where
  phyAddr phy := PhyDriver.phyAddr phy.inner
  init := PhyLan87xxWithReset.forward PhyDriver.init
  pollLink := PhyLan87xxWithReset.forward PhyDriver.pollLink
  capabilities := PhyLan87xxWithReset.forward PhyDriver.capabilities
  phyId := PhyLan87xxWithReset.forward PhyDriver.phyId

namespace PhyDriver

variable {P ε α : Type} [PhyDriver P]

/-- **Bring the PHY up, and poll until its link is up**, `n` times at most. -/
def drive (n : Nat) : DriverM ε P (PhyError ε) (Option LinkState) := do
  init
  pollLink.repeatUntil LinkState.up n

/-! ## Lawful drivers -/

/-- **What a client relies on**: the method stops at the first error of the bus and passes
it on, only talks to the PHY at the driver's address, and does not rebind the driver. -/
structure Lawful (m : DriverM ε P (PhyError ε) α) : Prop where
  failStop : m.FailStop PhyError.bus?
  uses : ∀ a, m.Uses (Addressed a) fun phy => phyAddr phy = a

end PhyDriver

/-- A driver whose operations are lawful on every bus, and that refuses a chip in `init`
only: a poll throws no error of its own. -/
class LawfulPhyDriver (P : Type) [PhyDriver P] : Prop where
  init {ε : Type} : PhyDriver.Lawful (PhyDriver.init : DriverM ε P (PhyError ε) Unit)
  pollLink {ε : Type} : PhyDriver.Lawful (PhyDriver.pollLink : DriverM ε P (PhyError ε) LinkState)
  pollLink_relays {ε : Type} :
    (PhyDriver.pollLink : DriverM ε P (PhyError ε) LinkState).Relays PhyError.bus?
  capabilities {ε : Type} :
    PhyDriver.Lawful (PhyDriver.capabilities : DriverM ε P (PhyError ε) PhyCapabilities)
  phyId {ε : Type} : PhyDriver.Lawful (PhyDriver.phyId : DriverM ε P (PhyError ε) U32)

/-! ### The two families -/

section Families
open Method

/-- A helper function called from a `PhyDriver` operation. -/
theorem relays_lift_phy {S ε α : Type} (x : Mdio ε α) :
    (lift .mdio x : DriverM ε S (PhyError ε) α).Relays PhyError.bus? :=
  relays_lift fun _ => rfl

theorem PhyLan867x.pollLink_relays {ε : Type} :
    (pollLink : DriverM ε PhyLan867x (PhyError ε) LinkState).Relays PhyError.bus? := by
  refine relays_get.bind fun self => ?_
  split
  · exact relays_pure _
  · exact relays_pure _
  · refine (relays_lift_phy _).bind fun sts => ?_
    exact .ite (relays_pure _) (relays_pure _)

theorem PhyLan87xx.pollLink_relays {ε : Type} :
    (pollLink : DriverM ε PhyLan87xx (PhyError ε) LinkState).Relays PhyError.bus? := by
  have hdown : (reportDown : DriverM ε PhyLan87xx (PhyError ε) LinkState).Relays PhyError.bus? :=
    (relays_modify _).bind fun _ => relays_pure _
  have hup : ∀ speed duplex,
      (reportUp speed duplex : DriverM ε PhyLan87xx (PhyError ε) LinkState).Relays PhyError.bus? :=
    fun _ _ => (relays_modify _).bind fun _ => relays_pure _
  refine relays_get.bind fun self => ?_
  refine (relays_lift_phy _).bind fun up => .ite hdown ?_
  refine (relays_lift_phy _).bind fun bmcrVal => .ite ?_ (hup _ _)
  refine (relays_lift_phy _).bind fun pscsrVal => .ite hdown ?_
  split
  · exact hup _ _
  · exact hdown

end Families

instance : LawfulPhyDriver PhyLan867x where
  init := ⟨PhyLan867x.init_failStop, fun _ => PhyLan867x.init_uses⟩
  pollLink := ⟨PhyLan867x.pollLink_failStop, fun _ => PhyLan867x.pollLink_uses⟩
  pollLink_relays := PhyLan867x.pollLink_relays
  capabilities := ⟨Method.failStop_get.bind fun _ =>
    failStop_lift_phy (Ieee802_3.readCapabilities_failStop _), fun _ =>
      PhyLan867x.capabilities_uses⟩
  phyId := ⟨Method.failStop_get.bind fun _ => failStop_lift_phy (Ieee802_3.readPhyId_failStop _),
    fun _ => PhyLan867x.phyId_uses⟩

instance : LawfulPhyDriver PhyLan87xx where
  init := ⟨PhyLan87xx.init_failStop, fun _ => PhyLan87xx.init_uses⟩
  pollLink := ⟨PhyLan87xx.pollLink_failStop, fun _ => PhyLan87xx.pollLink_uses⟩
  pollLink_relays := PhyLan87xx.pollLink_relays
  capabilities := ⟨Method.failStop_get.bind fun _ =>
    failStop_lift_phy (Ieee802_3.readCapabilities_failStop _), fun _ =>
      PhyLan87xx.capabilities_uses⟩
  phyId := ⟨Method.failStop_get.bind fun _ => failStop_lift_phy (Ieee802_3.readPhyId_failStop _),
    fun _ => PhyLan87xx.phyId_uses⟩

namespace PhyDriver

/-- A forwarded operation is as lawful as the one inside. -/
theorem Lawful.forward867x {ε α : Type} {m : DriverM ε PhyLan867x (PhyError ε) α} (hm : Lawful m) :
    Lawful (PhyLan867xWithReset.forward m) :=
  ⟨hm.failStop.focus, fun a => (hm.uses a).focus fun _ _ => rfl⟩

theorem Lawful.forward87xx {ε α : Type} {m : DriverM ε PhyLan87xx (PhyError ε) α} (hm : Lawful m) :
    Lawful (PhyLan87xxWithReset.forward m) :=
  ⟨hm.failStop.focus, fun a => (hm.uses a).focus fun _ _ => rfl⟩

/-- Nor does forwarding add errors. -/
theorem relays_forward867x {ε α : Type} {m : DriverM ε PhyLan867x (PhyError ε) α}
    (hm : m.Relays PhyError.bus?) : (PhyLan867xWithReset.forward m).Relays PhyError.bus? :=
  hm.focus

theorem relays_forward87xx {ε α : Type} {m : DriverM ε PhyLan87xx (PhyError ε) α}
    (hm : m.Relays PhyError.bus?) : (PhyLan87xxWithReset.forward m).Relays PhyError.bus? :=
  hm.focus

end PhyDriver

instance : LawfulPhyDriver PhyLan867xWithReset where
  init := .forward867x LawfulPhyDriver.init
  pollLink := .forward867x LawfulPhyDriver.pollLink
  pollLink_relays := PhyDriver.relays_forward867x LawfulPhyDriver.pollLink_relays
  capabilities := .forward867x LawfulPhyDriver.capabilities
  phyId := .forward867x LawfulPhyDriver.phyId

instance : LawfulPhyDriver PhyLan87xxWithReset where
  init := .forward87xx LawfulPhyDriver.init
  pollLink := .forward87xx LawfulPhyDriver.pollLink
  pollLink_relays := PhyDriver.relays_forward87xx LawfulPhyDriver.pollLink_relays
  capabilities := .forward87xx LawfulPhyDriver.capabilities
  phyId := .forward87xx LawfulPhyDriver.phyId

namespace PhyDriver

variable {P ε α β : Type} [PhyDriver P]

/-- Lawful methods may follow each other. -/
theorem Lawful.bind {m : DriverM ε P (PhyError ε) α} {f : α → DriverM ε P (PhyError ε) β}
    (hm : Lawful m) (hf : ∀ a, Lawful (f a)) : Lawful (m >>= f) :=
  ⟨hm.failStop.bind fun a => (hf a).failStop, fun b => (hm.uses b).bind fun a => (hf a).uses b⟩

/-- A lawful method may be called in a loop. -/
theorem Lawful.repeatUntil {m : DriverM ε P (PhyError ε) α} (hm : Lawful m) (accept : α → Bool)
    (n : Nat) : Lawful (m.repeatUntil accept n) :=
  ⟨hm.failStop.repeatUntil n, fun b => (hm.uses b).repeatUntil n⟩

theorem drive_lawful [LawfulPhyDriver P] (n : Nat) :
    Lawful (drive n : DriverM ε P (PhyError ε) (Option LinkState)) :=
  .bind LawfulPhyDriver.init fun _ => .repeatUntil LawfulPhyDriver.pollLink LinkState.up n

/-- **Where no transaction fails, an error is the one that `init` refuses the chip with.** -/
theorem drive_error [LawfulPhyDriver P] {σ : Type} (bus : MdioBus ε σ) (n : Nat) (phy : P) (s : σ)
    {e : PhyError ε} (hff : (((drive n).on phy).run bus.handler s).FaultFree)
    (he : (((drive n).on phy).run bus.handler s).value.1 = .error e) :
    (((init : DriverM ε P (PhyError ε) Unit).on phy).run bus.handler s).value.1 = .error e := by
  rcases hinit : (((init : DriverM ε P (PhyError ε) Unit).on phy).run bus.handler s).value
    with ⟨e' | u, phy'⟩
  · have hrun : ((drive n).on phy).run bus.handler s = _ := Method.run_bind_error hinit
    rw [hrun] at he
    rw [Except.error.inj he]
  · -- the loop has nothing to refuse
    have hrun : ((drive n).on phy).run bus.handler s = _ := Method.run_bind_ok hinit
    rw [hrun] at he hff
    have hloop : Lawful ((pollLink : DriverM ε P (PhyError ε) LinkState).repeatUntil
      LinkState.up n) := .repeatUntil LawfulPhyDriver.pollLink LinkState.up n
    have hrelays := LawfulPhyDriver.pollLink_relays (P := P) (ε := ε)
    obtain ⟨a, ha⟩ := (hrelays.repeatUntil n).run_ok hloop.failStop bus.handler phy' _
      fun x hx => hff x (List.mem_append_right _ hx)
    rw [ha] at he
    cases he

end PhyDriver

open PhyDriver

variable {P ε σ : Type}

/-- **An application is told of every error of the bus, at once, of no other error than
that with which `init` refuses the chip, and leaves the other PHYs alone**, whatever lawful
driver it is given and whatever the bus does. -/
theorem drive_transparent [PhyDriver P] [LawfulPhyDriver P] (bus : MdioBus ε σ) (n : Nat) (phy : P)
    (s : σ) :
    let o := ((drive n).on phy).run bus.handler s
    let init := ((PhyDriver.init : DriverM ε P (PhyError ε) Unit).on phy).run bus.handler s
    o.Transparent (fun r => reported PhyError.bus? r.1) ∧
      (∀ e, o.value.1 = .error e → (∃ x ∈ o.trace, ∃ b, x.fault = some b ∧ e = .mdio b) ∨
        o.FaultFree ∧ init.value.1 = .error e) ∧
      (∀ x ∈ o.trace, x.req.phyAddr = phyAddr phy) ∧ phyAddr o.value.2 = phyAddr phy := by
  intro o init
  have hlawful : Lawful (drive n : DriverM ε P (PhyError ε) (Option LinkState)) := drive_lawful n
  obtain ⟨haddr, htrace⟩ := (hlawful.uses (phyAddr phy) phy rfl).run bus.handler s
  have htransparent := (hlawful.failStop phy).transparent bus.handler s
  refine ⟨htransparent, fun e he => ?_, htrace, haddr⟩
  cases hbus : e.bus? with
  | none =>
    have hff : o.FaultFree := htransparent.clean (by simpa [o, he, reported] using hbus)
    exact .inr ⟨hff, drive_error bus n phy s hff he⟩
  | some b =>
    obtain ⟨x, hx, hfault⟩ := (htransparent.reports b).mp (by simpa [o, he, reported] using hbus)
    refine .inl ⟨x, hx, b, hfault, ?_⟩
    cases e with
    | mdio b' =>
      obtain rfl := Option.some.inj hbus
      rfl
    | _ => cases hbus

/-- A LAN8670 with a reset pin. -/
theorem drive_transparent_lan8670 :
    let o := ((drive 2).on (PhyLan867xWithReset.new 3)).run
      (SimulatedChip.lan8670.bus 3 true).handler
      ⟨staleChip, List.replicate 5 .delivered ++ [.lost "timeout"]⟩
    ∀ x ∈ o.trace, x.req.phyAddr = 3 := by
  exact (drive_transparent (SimulatedChip.lan8670.bus 3 true) 2 (PhyLan867xWithReset.new 3)
    ⟨staleChip, List.replicate 5 .delivered ++ [.lost "timeout"]⟩).2.2.1

/-- After `init`, a LAN867x reports its link up without asking the chip. -/
theorem pollLink_initialised {phy : PhyLan867x} (hchip : phy.chip.isSome = true)
    (hid : phy.plcaId = none) (n : Nat) :
    (Method.repeatUntil PhyDriver.pollLink LinkState.up (n + 1) :
      DriverM ε PhyLan867x (PhyError ε) (Option LinkState)).on phy =
        .done (.ok (some (.upAt ._10M .half)), phy) := by
  obtain ⟨addr, chip, plcaId⟩ := phy
  obtain ⟨k, rfl⟩ := Option.isSome_iff_exists.mp hchip
  obtain rfl : plcaId = none := hid
  rfl

/-- **In front of a LAN867x the application never waits**: on every bus, from every driver
state, a bring-up is `init`, and the link is up at once. -/
theorem drive_multidrop (bus : MdioBus ε σ) (n : Nat) (phy : PhyLan867x) (s : σ) :
    let o := ((drive (n + 1)).on phy).run bus.handler s
    let init := (PhyLan867x.init.on phy).run bus.handler s
    o.trace = init.trace ∧ o.state = init.state ∧
      o.value = (init.value.1.map fun _ => some (.upAt ._10M .half), init.value.2) := by
  intro o init
  obtain ⟨-, hid, hend⟩ := ((init_stages (ε := ε) phy).run bus.handler s).1
  have hchip : init.value.1 = .ok () → init.value.2.chip.isSome = true := by
    intro hok
    rcases hend with ⟨⟨e, he⟩, -⟩ | ⟨log, -, hexit⟩
    · exact absurd (hok.symm.trans he) nofun
    · obtain ⟨-, -, ⟨-, hchip⟩ | ⟨-, hchip⟩ | ⟨-, hchip⟩⟩ := hexit.chip_eq.1 hok <;>
        exact Option.isSome_iff_exists.mpr ⟨_, hchip⟩
  rcases hvalue : init.value with ⟨e | u, phy'⟩
  · have hrun : o = ⟨init.trace, (.error e, phy'), init.state⟩ := Method.run_bind_error hvalue
    rw [hrun]
    exact ⟨rfl, rfl, rfl⟩
  · rw [hvalue] at hid hchip
    have hrun : o = _ := Method.run_bind_ok hvalue
    rw [pollLink_initialised (hchip rfl) hid n, Program.run_done, List.append_nil] at hrun
    rw [hrun]
    exact ⟨rfl, rfl, rfl⟩

end EthPhy
