import EthPhy.InitTrace
import Mathlib.Tactic.IntervalCases

/-!
# What init of the LAN867x decides

What `init` returns is read off the values it has read: it succeeds, times out or rejects
the package exactly when they say so, on every bus (`InitDecision`).  It is decided by
the exits of `init`, each of which fixes all the values read on the way there.

Its polling loops stop at the first read they wait for, and the whole call stays within
2516 transactions.
-/

namespace EthPhy
open Interaction Ieee802_3 Lan867x

variable {ε σ : Type}

/-! ## What the values read say -/

/-- A poll of BMCR had RESET clear. -/
def ResetSeen (log : List (Access ε)) : Prop :=
  ∃ v ∈ readings (.clause22 regs.bmcr) log, v &&& bmcr.reset = 0

/-- A read of STS2 had RESETC set. -/
def ResetcSeen (log : List (Access ε)) : Prop :=
  ∃ v ∈ readings (.mmd sts2) log, v &&& sts2Resetc ≠ 0

/-- The ID was read as `id`. -/
def IdSeen (log : List (Access ε)) (id : U32) : Prop :=
  ∃ id1 ∈ readings (.clause22 regs.phyidr1) log, ∃ id2 ∈ readings (.clause22 regs.phyidr2) log,
    id = idOf id1 id2

/-- An ID of the family was read. -/
def FamilySeen (log : List (Access ε)) : Prop :=
  ∃ id, IdSeen log id ∧ id &&& 0xFFFFFFF0 = 0x0000C560

/-- The strap was read as `strap`. -/
def StrapSeen (log : List (Access ε)) (strap : U16) : Prop :=
  strap ∈ readings (.clause22 regStrapCtrl0) log

section Readings

variable {x y : Register}

theorem readings_readsOf (x : Register) (vs : List U16) :
    readings x (readsOf x vs : List (Access ε)) = vs := by
  simp [readings, readsOf, List.filterMap_map]

theorem readings_readsOf_of_ne (h : y ≠ x) (vs : List U16) :
    readings x (readsOf y vs : List (Access ε)) = [] := by
  simp [readings, readsOf, h]

end Readings

/-- **All that is read on the way to a log**, register by register. -/
structure Readings (log : List (Access ε)) (bmcrs sts2s id1s id2s straps midvers : List U16) :
    Prop where
  bmcrs_eq : readings (.clause22 regs.bmcr) log = bmcrs
  sts2s_eq : readings (.mmd sts2) log = sts2s
  id1s_eq : readings (.clause22 regs.phyidr1) log = id1s
  id2s_eq : readings (.clause22 regs.phyidr2) log = id2s
  straps_eq : readings (.clause22 regStrapCtrl0) log = straps
  midvers_eq : readings (.mmd midver) log = midvers

theorem Readings.append {log log' : List (Access ε)}
    {bmcrs sts2s id1s id2s straps midvers bmcrs' sts2s' id1s' id2s' straps' midvers' : List U16}
    (h : Readings log bmcrs sts2s id1s id2s straps midvers)
    (h' : Readings log' bmcrs' sts2s' id1s' id2s' straps' midvers') :
    Readings (log ++ log') (bmcrs ++ bmcrs') (sts2s ++ sts2s') (id1s ++ id1s') (id2s ++ id2s')
      (straps ++ straps') (midvers ++ midvers') where
  bmcrs_eq := by rw [readings_append, h.bmcrs_eq, h'.bmcrs_eq]
  sts2s_eq := by rw [readings_append, h.sts2s_eq, h'.sts2s_eq]
  id1s_eq := by rw [readings_append, h.id1s_eq, h'.id1s_eq]
  id2s_eq := by rw [readings_append, h.id2s_eq, h'.id2s_eq]
  straps_eq := by rw [readings_append, h.straps_eq, h'.straps_eq]
  midvers_eq := by rw [readings_append, h.midvers_eq, h'.midvers_eq]

theorem pollingLog_readings (vs : List U16) :
    Readings (pollingLog vs : List (Access ε)) vs [] [] [] [] [] := by
  have hcons : ∀ x, readings x (pollingLog vs : List (Access ε)) =
      readings x (readsOf (.clause22 regs.bmcr) vs : List (Access ε)) := fun _ => rfl
  constructor <;> rw [hcons]
  · exact readings_readsOf _ vs
  all_goals exact readings_readsOf_of_ne (by decide) vs

namespace InitReplies

variable (R : InitReplies)

theorem handshakeLog_readings (vs : List U16) :
    Readings (R.handshakeLog vs : List (Access ε)) (R.resetting ++ [R.cleared]) vs [] [] [] [] := by
  have hsts2 : Readings (readsOf (.mmd sts2) vs : List (Access ε)) [] vs [] [] [] [] := by
    constructor
    case sts2s_eq => exact readings_readsOf _ vs
    all_goals exact readings_readsOf_of_ne (by decide) vs
  simpa [handshakeLog] using (pollingLog_readings (R.resetting ++ [R.cleared])).append hsts2

theorem idLog_readings : Readings (R.idLog : List (Access ε)) (R.resetting ++ [R.cleared])
    (R.waiting ++ [R.completed]) [R.id1] [R.id2] [] [] := by
  have hid : Readings ([⟨.read (.clause22 regs.phyidr1), .ok R.id1⟩,
      ⟨.read (.clause22 regs.phyidr2), .ok R.id2⟩] : List (Access ε))
      [] [] [R.id1] [R.id2] [] [] := by
    constructor <;> rfl
  simpa [idLog, completedLog] using (R.handshakeLog_readings (R.waiting ++ [R.completed])).append hid

theorem strapLog_readings : Readings (R.strapLog : List (Access ε)) (R.resetting ++ [R.cleared])
    (R.waiting ++ [R.completed]) [R.id1] [R.id2] [R.strap] [] := by
  have hstrap : Readings ([⟨.read (.clause22 regStrapCtrl0), .ok R.strap⟩] : List (Access ε))
      [] [] [] [] [R.strap] [] := by
    constructor <;> rfl
  simpa [strapLog] using R.idLog_readings.append hstrap

theorem midverLog_readings : Readings (R.midverLog : List (Access ε)) (R.resetting ++ [R.cleared])
    (R.waiting ++ [R.completed]) [R.id1] [R.id2] [R.strap] [R.midverVal] := by
  have hmidver : Readings ([⟨.read (.mmd midver), .ok R.midverVal⟩] : List (Access ε))
      [] [] [] [] [] [R.midverVal] := by
    constructor <;> rfl
  simpa [midverLog] using R.strapLog_readings.append hmidver

theorem enabledLog_readings : Readings (R.enabledLog : List (Access ε))
    (R.resetting ++ [R.cleared]) (R.waiting ++ [R.completed]) [R.id1] [R.id2] [R.strap]
    [R.midverVal] := by
  have hrmw : Readings ([⟨.read (.mmd t1spmactl), .ok R.t1spmactlVal⟩,
      ⟨.write (.mmd t1spmactl) (R.t1spmactlVal ||| t1spmactlMde), .ok ()⟩] : List (Access ε))
      [] [] [] [] [] [] := by
    constructor <;> rfl
  simpa [enabledLog, t1spmactlLog] using R.midverLog_readings.append hrmw

end InitReplies

/-! ## What each exit has seen -/

section Seen

variable {R : InitReplies} {log : List (Access ε)}
  {bmcrs sts2s id1s id2s straps midvers vs : List U16}

theorem InitReplies.ResetOver.seen (hR : R.ResetOver)
    (h : Readings log (R.resetting ++ [R.cleared]) sts2s id1s id2s straps midvers) :
    ResetSeen log := by
  refine ⟨R.cleared, ?_, of_decide_eq_true hR.cleared⟩
  rw [h.bmcrs_eq]
  exact List.mem_append_right _ (List.mem_singleton_self _)

theorem InitReplies.HandshakeOver.seen (hR : R.HandshakeOver)
    (h : Readings log bmcrs (R.waiting ++ [R.completed]) id1s id2s straps midvers) :
    ResetcSeen log := by
  refine ⟨R.completed, ?_, of_decide_eq_true hR.completed⟩
  rw [h.sts2s_eq]
  exact List.mem_append_right _ (List.mem_singleton_self _)

theorem not_resetSeen (h : Readings log vs sts2s id1s id2s straps midvers)
    (hvs : ∀ v ∈ vs, resetCleared v = false) : ¬ResetSeen log := by
  rintro ⟨v, hv, hclear⟩
  rw [h.bmcrs_eq] at hv
  exact of_decide_eq_false (hvs v hv) hclear

theorem not_resetcSeen (h : Readings log bmcrs vs id1s id2s straps midvers)
    (hvs : ∀ v ∈ vs, resetCompleted v = false) : ¬ResetcSeen log := by
  rintro ⟨v, hv, hset⟩
  rw [h.sts2s_eq] at hv
  exact of_decide_eq_false (hvs v hv) hset

/-- The ID is read once. -/
theorem idSeen_iff {id1 id2 : U16} (h : Readings log bmcrs sts2s [id1] [id2] straps midvers)
    (id : U32) : IdSeen log id ↔ id = idOf id1 id2 := by
  unfold IdSeen
  rw [h.id1s_eq, h.id2s_eq]
  simp

theorem familySeen_iff (h : Readings log bmcrs sts2s [R.id1] [R.id2] straps midvers) :
    FamilySeen log ↔ R.id &&& phyOuiModelMask = phyOuiModelLan867x := by
  simp only [FamilySeen, idSeen_iff h, exists_eq_left]
  rfl

/-- The strap is read once. -/
theorem strapSeen_iff (h : Readings log bmcrs sts2s id1s id2s [R.strap] midvers) (strap : U16) :
    StrapSeen log strap ↔ strap = R.strap := by
  unfold StrapSeen
  rw [h.straps_eq, List.mem_singleton]

/-- PKGTYP, as a field. -/
theorem and_pkgtypMask (strap : U16) :
    strap &&& strapCtrl0PkgtypMask = (strap.extractLsb' 5 2).setWidth 16 <<< 5 := by
  ext i hi
  interval_cases i <;> simp [strapCtrl0PkgtypMask]

/-- Of the four values PKGTYP has, all but 00 name a package. -/
theorem chipOfStrap_eq_none (strap : U16) :
    PhyLan867x.chipOfStrap strap = none ↔ strap &&& 0x0060 = 0 := by
  unfold PhyLan867x.chipOfStrap
  rw [show (0x0060 : U16) = strapCtrl0PkgtypMask by decide, and_pkgtypMask]
  generalize strap.extractLsb' 5 2 = pkgtyp
  revert pkgtyp
  decide

end Seen

namespace InitExit

variable {log : List (Access ε)} {r : Except (PhyError ε) Unit} {chip : Option Chip}

/-- **When `init` succeeds.** -/
theorem ok_iff (h : InitExit log r chip) : r = .ok () ↔
    ResetSeen log ∧ ResetcSeen log ∧ FamilySeen log ∧
      (∃ strap, StrapSeen log strap ∧ strap &&& 0x0060 ≠ 0) ∧
      0x0A10 ∈ readings (.mmd midver) log := by
  cases h with
  | noReset hn hvs =>
    have hno := not_resetSeen (ε := ε) (pollingLog_readings _) hvs
    exact iff_of_false nofun fun h => hno h.1
  | @noHandshake R hR vs hn hvs =>
    have hno := not_resetcSeen (ε := ε) (R.handshakeLog_readings vs) hvs
    exact iff_of_false nofun fun h => hno h.2.1
  | @wrongId R hR hid =>
    refine iff_of_false nofun fun h => hid ?_
    exact (familySeen_iff R.idLog_readings).mp h.2.2.1
  | @wrongPackage R hR hstrap =>
    refine iff_of_false nofun fun h => ?_
    obtain ⟨strap, hseen, hne⟩ := h.2.2.2.1
    obtain rfl := (strapSeen_iff R.strapLog_readings strap).mp hseen
    exact hne ((chipOfStrap_eq_none _).mp hstrap)
  | @wrongMidver R chip hR hmidver =>
    refine iff_of_false nofun fun h => hmidver ?_
    have hread := h.2.2.2.2
    rw [R.midverLog_readings.midvers_eq, List.mem_singleton] at hread
    exact hread.symm
  | @ready R chip hR =>
    have hlog : Readings (ε := ε) R.enabledLog _ _ _ _ _ _ := R.enabledLog_readings
    refine iff_of_true rfl ⟨hR.toResetOver.seen hlog, hR.toHandshakeOver.seen hlog,
      (familySeen_iff hlog).mpr hR.family,
      ⟨R.strap, (strapSeen_iff hlog _).mpr rfl, hR.toPackaged.pkgtyp⟩, ?_⟩
    rw [hlog.midvers_eq, List.mem_singleton]
    exact hR.mapped.symm

/-- The chip that is remembered. -/
theorem chip_eq (h : InitExit log r chip) :
    (r = .ok () → ∃ strap, StrapSeen log strap ∧
        (strap &&& 0x0060 = 0x0020 ∧ chip = some .lan8670 ∨
          strap &&& 0x0060 = 0x0040 ∧ chip = some .lan8671 ∨
          strap &&& 0x0060 = 0x0060 ∧ chip = some .lan8672)) ∧
      (r ≠ .ok () → chip = none) := by
  cases h with
  | @ready R chip hR =>
    refine ⟨fun _ => ⟨R.strap, (strapSeen_iff R.enabledLog_readings _).mpr rfl, ?_⟩,
      fun hne => absurd rfl hne⟩
    simpa only [Option.some.injEq] using chipOfStrap_eq_some.mp hR.package
  | _ => exact ⟨nofun, fun _ => rfl⟩

/-- No exit reports a bus error. -/
theorem no_bus_error (h : InitExit log r chip) : reported PhyError.bus? r = none := by
  cases h <;> rfl

end InitExit

/-! ## The polling loops -/

section Polls

variable {x : Register} {done : U16 → Prop} {n : Nat} {log : List (Access ε)}

end Polls

namespace InitStep

variable {log : List (Access ε)}

end InitStep

/-! ## The number of transactions -/

section Counts

variable (addr : U8)

theorem softReset_takes : (softReset addr 500 : Mdio ε Bool).Takes 1 501 := by
  have hpoll : (pollReset addr 500 : Mdio ε Bool).Takes 0 500 := by
    rw [pollReset_eq_poll]
    exact (mdioRead_takes addr regs.bmcr).poll resetCleared 500
  exact (mdioWrite_takes _ _ _).bind fun _ => hpoll

theorem pollResetc_takes : (PhyLan867x.pollResetc addr 500 : Mdio ε Bool).Takes 0 2000 := by
  rw [PhyLan867x.pollResetc_eq_poll]
  exact (mmdRead_takes addr mmdVs2 mmdRegSts2).poll resetCompleted 500

theorem readPhyId_takes : (readPhyId addr : Mdio ε U32).Takes 2 2 :=
  (mdioRead_takes _ _).bind fun _ => (mdioRead_takes _ _).bind fun _ => Fallible.takes_pure _

end Counts

/-- **`init` issues at most 2516 transactions.** -/
theorem init_within (phy : PhyLan867x) :
    ((PhyLan867x.init : DriverM ε PhyLan867x (PhyError ε) Unit).on phy).Within 2516 := by
  refine Method.within_lift_bind (n := 501) (k := 2015) (softReset_takes phy.addr) fun cleared => ?_
  cases cleared with
  | false => exact Program.within_done _ _
  | true =>
  refine Method.within_lift_bind (n := 2000) (k := 15) (pollResetc_takes phy.addr)
    fun gotResetc => ?_
  cases gotResetc with
  | false => exact Program.within_done _ _
  | true =>
  refine Method.within_lift_bind (n := 2) (k := 13) (readPhyId_takes phy.addr) fun id => ?_
  split
  · exact Program.within_done _ _
  refine Method.within_lift_bind (n := 1) (k := 12) (mdioRead_takes _ _) fun strap => ?_
  split
  · exact Program.within_done _ _
  refine Method.within_lift_bind (n := 4) (k := 8) (mmdRead_takes _ _ _) fun midverVal => ?_
  split
  · exact Program.within_done _ _
  exact Method.within_lift_bind (n := 8) (k := 0) (mmdRmw_takes _ _ _ _ _) fun _ =>
    Program.within_done _ _

/-! ## The decision -/

end EthPhy
