import EthPhy.RegisterAccess
import EthPhy.SoftReset

/-!
# The stages of init of the LAN867x

`init` resets the chip and polls until the reset is over, waits for the reset-complete
handshake, and then checks the ID, the package and the map identifier before it turns on
multidrop mode.  `InitStep` lists its stages: the access each makes, and the log of
accesses it is made after.  `InitExit` lists its exits.

`init` goes through these stages and takes one of these exits on every bus
(`init_stages`).  What a trace of `init` may look like, and what a call may return, is
read off the two lists.
-/

namespace EthPhy
open Interaction Ieee802_3 Lan867x

variable {ε : Type}

/-! ## Replies and logs -/

/-- RESETC is set in a value read from STS2. -/
def resetCompleted (val : U16) : Bool := decide (val &&& sts2Resetc ≠ 0)

/-- What the chip replies to `init`, as far as it is asked. -/
structure InitReplies where
  /-- BMCR while RESET is set. -/
  resetting : List U16
  /-- BMCR with RESET clear. -/
  cleared : U16
  /-- STS2 while RESETC is clear. -/
  waiting : List U16 := []
  /-- STS2 with RESETC set. -/
  completed : U16 := 0
  id1 : U16 := 0
  id2 : U16 := 0
  strap : U16 := 0
  midverVal : U16 := 0
  t1spmactlVal : U16 := 0

/-- Successful reads of one register. -/
def readsOf (x : Register) (vs : List U16) : List (Access ε) := vs.map fun v => ⟨.read x, .ok v⟩

/-- The log after the reset and the polls `vs`. -/
def pollingLog (vs : List U16) : List (Access ε) :=
  ⟨.write (.clause22 regs.bmcr) bmcr.reset, .ok ()⟩ :: readsOf (.clause22 regs.bmcr) vs

/-- The three codes of PKGTYP that name a package. -/
theorem chipOfStrap_eq_some {strap : U16} {chip : Chip} :
    PhyLan867x.chipOfStrap strap = some chip ↔
      strap &&& 0x0060 = 0x0020 ∧ chip = .lan8670 ∨ strap &&& 0x0060 = 0x0040 ∧ chip = .lan8671 ∨
        strap &&& 0x0060 = 0x0060 ∧ chip = .lan8672 := by
  unfold PhyLan867x.chipOfStrap strapCtrl0PkgtypMask
  rw [show (0b11 <<< 5 : U16) = 0x0060 by decide]
  generalize strap &&& 0x0060 = field
  by_cases h₁ : field = strapCtrl0PkgtypLan8670
  · subst h₁
    cases chip <;> decide
  by_cases h₂ : field = strapCtrl0PkgtypLan8671
  · subst h₂
    cases chip <;> decide
  by_cases h₃ : field = strapCtrl0PkgtypLan8672
  · subst h₃
    cases chip <;> decide
  rw [if_neg h₁, if_neg h₂, if_neg h₃]
  refine iff_of_false nofun ?_
  rintro (h | h | h)
  · exact h₁ h.1
  · exact h₂ h.1
  · exact h₃ h.1

/-- The ID as `readPhyId` puts it together. -/
def idOf (id1 id2 : U16) : U32 := (id1.setWidth 32 <<< 16) ||| id2.setWidth 32

namespace InitReplies

variable (R : InitReplies)

/-- The log when the reset is over and STS2 has been read as `vs`. -/
def handshakeLog (vs : List U16) : List (Access ε) :=
  pollingLog (R.resetting ++ [R.cleared]) ++ readsOf (.mmd sts2) vs

/-- The log when the handshake is over. -/
def completedLog : List (Access ε) := R.handshakeLog (R.waiting ++ [R.completed])

/-- The log when the ID has been read. -/
def idLog : List (Access ε) :=
  R.completedLog ++ [⟨.read (.clause22 regs.phyidr1), .ok R.id1⟩,
    ⟨.read (.clause22 regs.phyidr2), .ok R.id2⟩]

/-- The log when the package strap has been read. -/
def strapLog : List (Access ε) := R.idLog ++ [⟨.read (.clause22 regStrapCtrl0), .ok R.strap⟩]

/-- The log when the map identifier has been read. -/
def midverLog : List (Access ε) := R.strapLog ++ [⟨.read (.mmd midver), .ok R.midverVal⟩]

/-- The log when T1SPMACTL has been read. -/
def t1spmactlLog : List (Access ε) :=
  R.midverLog ++ [⟨.read (.mmd t1spmactl), .ok R.t1spmactlVal⟩]

/-- The log when T1SPMACTL has been written. -/
def enabledLog : List (Access ε) :=
  R.t1spmactlLog ++ [⟨.write (.mmd t1spmactl) (R.t1spmactlVal ||| t1spmactlMde), .ok ()⟩]

/-- The ID. -/
def id : U32 := idOf R.id1 R.id2

/-- The reset is over within the reads it has. -/
structure ResetOver : Prop where
  resetting_lt : R.resetting.length < 500
  resetting : ∀ v ∈ R.resetting, resetCleared v = false
  cleared : resetCleared R.cleared = true

/-- The handshake is over within the reads it has. -/
structure HandshakeOver : Prop extends R.ResetOver where
  waiting_lt : R.waiting.length < 500
  waiting : ∀ v ∈ R.waiting, resetCompleted v = false
  completed : resetCompleted R.completed = true

variable {R} in
/-- Later replies do not matter to the handshake. -/
theorem HandshakeOver.asked (h : R.HandshakeOver) (id1 id2 strap midverVal t1spmactlVal : U16) :
    { R with id1, id2, strap, midverVal, t1spmactlVal }.HandshakeOver :=
  ⟨⟨h.resetting_lt, h.resetting, h.cleared⟩, h.waiting_lt, h.waiting, h.completed⟩

/-- The ID is one of the family. -/
structure InFamily : Prop extends R.HandshakeOver where
  family : R.id &&& phyOuiModelMask = phyOuiModelLan867x

/-- The strap names a package. -/
structure Packaged (chip : Chip) : Prop extends R.InFamily where
  package : PhyLan867x.chipOfStrap R.strap = some chip

/-- The map identifier is the expected one. -/
structure Mapped (chip : Chip) : Prop extends R.Packaged chip where
  mapped : R.midverVal = midverExpected

variable {R} in
/-- PKGTYP of a strap that names a package is not 00. -/
theorem Packaged.pkgtyp {chip : Chip} (h : R.Packaged chip) : R.strap &&& 0x0060 ≠ 0 := by
  rcases chipOfStrap_eq_some.mp h.package with ⟨hcode, -⟩ | ⟨hcode, -⟩ | ⟨hcode, -⟩ <;>
    (rw [hcode]; decide)

end InitReplies

/-! ## Stages and exits -/

/-- **The stages of `init`**: which access it makes after which log. -/
inductive InitStep : Guard AccessReq.Reply ε
  | reset : InitStep [] (.write (.clause22 regs.bmcr) bmcr.reset)
  | poll {vs : List U16} (hn : vs.length < 500) (hvs : ∀ v ∈ vs, resetCleared v = false) :
    InitStep (pollingLog vs) (.read (.clause22 regs.bmcr))
  | handshake {R : InitReplies} (hR : R.ResetOver) {vs : List U16} (hn : vs.length < 500)
    (hvs : ∀ v ∈ vs, resetCompleted v = false) :
    InitStep (R.handshakeLog vs) (.read (.mmd sts2))
  | id1 {R : InitReplies} (hR : R.HandshakeOver) :
    InitStep R.completedLog (.read (.clause22 regs.phyidr1))
  | id2 {R : InitReplies} (hR : R.HandshakeOver) :
    InitStep (R.completedLog ++ [⟨.read (.clause22 regs.phyidr1), .ok R.id1⟩])
      (.read (.clause22 regs.phyidr2))
  | strap {R : InitReplies} (hR : R.InFamily) :
    InitStep R.idLog (.read (.clause22 regStrapCtrl0))
  | midver {R : InitReplies} {chip : Chip} (hR : R.Packaged chip) :
    InitStep R.strapLog (.read (.mmd Lan867x.midver))
  | t1spmactl {R : InitReplies} {chip : Chip} (hR : R.Mapped chip) :
    InitStep R.midverLog (.read (.mmd Lan867x.t1spmactl))
  | enable {R : InitReplies} {chip : Chip} (hR : R.Mapped chip) :
    InitStep R.t1spmactlLog (.write (.mmd Lan867x.t1spmactl) (R.t1spmactlVal ||| t1spmactlMde))

/-- **The exits of `init`** other than for a bus error: after which log it returns what,
and which chip it remembers. -/
inductive InitExit : List (Access ε) → Except (PhyError ε) Unit → Option Chip → Prop
  | noReset {vs : List U16} (hn : vs.length = 500) (hvs : ∀ v ∈ vs, resetCleared v = false) :
    InitExit (pollingLog vs) (.error .resetTimeout) none
  | noHandshake {R : InitReplies} (hR : R.ResetOver) {vs : List U16} (hn : vs.length = 500)
    (hvs : ∀ v ∈ vs, resetCompleted v = false) :
    InitExit (R.handshakeLog vs) (.error .resetTimeout) none
  | wrongId {R : InitReplies} (hR : R.HandshakeOver)
    (hid : R.id &&& phyOuiModelMask ≠ phyOuiModelLan867x) :
    InitExit R.idLog (.error (.unsupportedChip R.id)) none
  | wrongPackage {R : InitReplies} (hR : R.InFamily)
    (hstrap : PhyLan867x.chipOfStrap R.strap = none) :
    InitExit R.strapLog (.error (.unsupportedPackage (R.strap.setWidth 32))) none
  | wrongMidver {R : InitReplies} {chip : Chip} (hR : R.Packaged chip)
    (hmidver : R.midverVal ≠ midverExpected) :
    InitExit R.midverLog (.error (.unsupportedChip R.id)) none
  | ready {R : InitReplies} {chip : Chip} (hR : R.Mapped chip) :
    InitExit R.enabledLog (.ok ()) (some chip)

/-- **How a call of `init` ends**: with a bus error, or in one of the exits.  In any case
the address stays, and the PLCA configuration is forgotten. -/
def InitEnd (addr : U8) (made : List (TxnEvent ε)) (r : Except (PhyError ε) Unit × PhyLan867x) :
    Prop :=
  r.2.addr = addr ∧ r.2.plcaId = none ∧
    (((∃ e, r.1 = .error (.mdio e)) ∧ r.2.chip = none) ∨
      ∃ log, Logs addr made log ∧ InitExit log r.1 r.2.chip)

/-! ## The code goes through the stages -/

section Stages

variable {addr : U8} {past : List (TxnEvent ε)} {R : InitReplies}

theorem readsOf_concat (x : Register) (vs : List U16) (v : U16) :
    (readsOf x (vs ++ [v]) : List (Access ε)) = readsOf x vs ++ [⟨.read x, .ok v⟩] := by
  simp [readsOf]

theorem pollingLog_concat (vs : List U16) (v : U16) :
    (pollingLog (vs ++ [v]) : List (Access ε)) =
      pollingLog vs ++ [⟨.read (.clause22 regs.bmcr), .ok v⟩] := by
  simp [pollingLog, readsOf_concat]

theorem handshakeLog_concat (vs : List U16) (v : U16) :
    (R.handshakeLog (vs ++ [v]) : List (Access ε)) =
      R.handshakeLog vs ++ [⟨.read (.mmd sts2), .ok v⟩] := by
  simp [InitReplies.handshakeLog, readsOf_concat]

/-- The soft reset, under a rule that allows its accesses. -/
theorem softReset_logs {A : Guard AccessReq.Reply ε}
    (hreset : A [] (.write (.clause22 regs.bmcr) bmcr.reset))
    (hpoll : ∀ vs : List U16, vs.length < 500 → (∀ v ∈ vs, resetCleared v = false) →
      A (pollingLog vs) (.read (.clause22 regs.bmcr))) :
    (softReset addr 500 : Mdio ε Bool).Heeds (onAccesses addr A) [] fun l cleared =>
      ∃ vs, (∀ v ∈ vs, resetCleared v = false) ∧
        if cleared then vs.length < 500 ∧ ∃ v, resetCleared v = true ∧
          Logs addr l (pollingLog (vs ++ [v]))
        else vs.length = 500 ∧ Logs addr l (pollingLog vs) := by
  refine (mdioWrite_logs (by decide) (by decide) (fun _ => rfl) hreset).bind fun l _ hlog => ?_
  rw [pollReset_eq_poll]
  refine Fallible.heeds_poll (I := fun vs l => Logs addr l (pollingLog vs)) 500 ?_ hlog
  intro vs l hlen hvs hlog
  refine (mdioRead_logs (by decide) (by decide) hlog (hpoll vs hlen hvs)).mono fun l' v hlog' => ?_
  rwa [pollingLog_concat]

/-- The polling loop of the handshake is the general one. -/
theorem PhyLan867x.pollResetc_eq_poll (n : Nat) :
    (pollResetc addr n : Mdio ε Bool) =
      Fallible.poll (mmdRead addr mmdVs2 mmdRegSts2) resetCompleted n := by
  induction n with
  | zero => rfl
  | succ n ih =>
    simp only [pollResetc, Fallible.poll, resetCompleted, decide_eq_true_eq, ih]

/-- The handshake. -/
theorem pollResetc_stages (hR : R.ResetOver) (hpast : Logs addr past (R.handshakeLog [])) :
    (PhyLan867x.pollResetc addr 500 : Mdio ε Bool).Heeds (onAccesses addr InitStep) past
      fun l completed => ∃ vs, (∀ v ∈ vs, resetCompleted v = false) ∧
        if completed then vs.length < 500 ∧ ∃ v, resetCompleted v = true ∧
          Logs addr l (R.handshakeLog (vs ++ [v]))
        else vs.length = 500 ∧ Logs addr l (R.handshakeLog vs) := by
  rw [PhyLan867x.pollResetc_eq_poll]
  refine Fallible.heeds_poll (I := fun vs l => Logs addr l (R.handshakeLog vs)) 500 ?_ hpast
  intro vs l hlen hvs hlog
  refine (mmdRead_logs hlog (.handshake hR hlen hvs)).mono fun l' v hlog' => ?_
  rwa [handshakeLog_concat]

/-- The handshake starts where the reset has ended. -/
theorem Logs.handshake {resetting : List U16} {cleared : U16}
    (h : Logs addr past (pollingLog (resetting ++ [cleared]))) :
    Logs addr past (InitReplies.handshakeLog { resetting, cleared } []) := by
  intro w
  rw [h w]
  exact (List.append_nil _).symm

/-- The ID. -/
theorem readPhyId_stages (hR : R.HandshakeOver) (hpast : Logs addr past R.completedLog) :
    (readPhyId addr : Mdio ε U32).Heeds (onAccesses addr InitStep) past fun l id =>
      ∃ id1 id2, Logs addr l { R with id1, id2 }.idLog ∧ id = { R with id1, id2 }.id := by
  refine (mdioRead_logs (by decide) (by decide) hpast (.id1 hR)).bind fun l₁ id1 hlog₁ => ?_
  have hid2 : InitStep (ε := ε) (R.completedLog ++ [⟨.read (.clause22 regs.phyidr1), .ok id1⟩])
      (.read (.clause22 regs.phyidr2)) := .id2 (R := { R with id1 }) (hR.asked id1 _ _ _ _)
  refine (mdioRead_logs (by decide) (by decide) hlog₁ hid2).bind fun l₂ id2 hlog₂ => ?_
  rw [List.append_assoc] at hlog₂
  exact Fallible.heeds_pure ⟨id1, id2, hlog₂, rfl⟩

/-- **`init` goes through the stages and takes one of the exits**, whatever is replied. -/
theorem init_stages (phy : PhyLan867x) :
    ((PhyLan867x.init : DriverM ε PhyLan867x (PhyError ε) Unit).on phy).Heeds
      (onAccesses phy.addr InitStep) (InitEnd phy.addr) [] := by
  have hfail : ∀ (l : List (TxnEvent ε)) e,
      InitEnd phy.addr l (.error (.mdio e), { phy with plcaId := none, chip := none }) :=
    fun l e => ⟨rfl, rfl, .inl ⟨⟨e, rfl⟩, rfl⟩⟩
  -- 1. software reset
  refine Method.heeds_lift_bind_of (softReset_logs .reset fun _ => .poll) hfail ?_
  rintro l₁ cleared ⟨resetting, hresetting, hend₁⟩
  cases cleared with
  | false => exact ⟨rfl, rfl, .inr ⟨_, hend₁.2, .noReset hend₁.1 hresetting⟩⟩
  | true =>
  obtain ⟨hlt₁, cleared, hcleared, hlog₁⟩ := hend₁
  let R₁ : InitReplies := { resetting, cleared }
  have hR₁ : R₁.ResetOver := ⟨hlt₁, hresetting, hcleared⟩
  -- 2. reset-complete handshake
  refine Method.heeds_lift_bind_of (pollResetc_stages hR₁ hlog₁.handshake) hfail ?_
  rintro l₂ completed ⟨waiting, hwaiting, hend₂⟩
  cases completed with
  | false => exact ⟨rfl, rfl, .inr ⟨_, hend₂.2, .noHandshake hR₁ hend₂.1 hwaiting⟩⟩
  | true =>
  obtain ⟨hlt₂, completed, hcompleted, hlog₂⟩ := hend₂
  let R₂ : InitReplies := { resetting, cleared, waiting, completed }
  have hR₂ : R₂.HandshakeOver :=
    ⟨⟨hlt₁, hresetting, hcleared⟩, hlt₂, hwaiting, hcompleted⟩
  -- 3. family identity
  refine Method.heeds_lift_bind_of (readPhyId_stages hR₂ hlog₂) hfail ?_
  rintro l₃ id ⟨id1, id2, hlog₃, rfl⟩
  let R₃ : InitReplies := { R₂ with id1, id2 }
  have hR₃ : R₃.HandshakeOver := hR₂.asked ..
  by_cases hid : R₃.id &&& phyOuiModelMask ≠ phyOuiModelLan867x
  · rw [if_pos hid]
    exact ⟨rfl, rfl, .inr ⟨_, hlog₃, .wrongId hR₃ hid⟩⟩
  rw [if_neg hid]
  have hfamily : R₃.InFamily := ⟨hR₃, not_not.mp hid⟩
  -- 4. package
  refine Method.heeds_lift_bind_of
    (mdioRead_logs (by decide) (by decide) hlog₃ (.strap hfamily)) hfail ?_
  intro l₄ strap hlog₄
  let R₄ : InitReplies := { R₃ with strap }
  have hR₄ : R₄.InFamily := ⟨hR₃.asked .., not_not.mp hid⟩
  cases hchip : PhyLan867x.chipOfStrap strap with
  | none => exact ⟨rfl, rfl, .inr ⟨_, hlog₄, .wrongPackage hR₄ hchip⟩⟩
  | some chip =>
  have hpackaged : R₄.Packaged chip := ⟨hR₄, hchip⟩
  -- 5. OPEN Alliance map identifier
  refine Method.heeds_lift_bind_of (mmdRead_logs hlog₄ (.midver hpackaged)) hfail ?_
  intro l₅ midverVal hlog₅
  let R₅ : InitReplies := { R₄ with midverVal }
  have hR₅ : R₅.Packaged chip := ⟨⟨hR₃.asked .., not_not.mp hid⟩, hchip⟩
  by_cases hmidver : midverVal ≠ midverExpected
  · rw [if_pos hmidver]
    exact ⟨rfl, rfl, .inr ⟨_, hlog₅, .wrongMidver hR₅ hmidver⟩⟩
  rw [if_neg hmidver]
  have hmapped : R₅.Mapped chip := ⟨hR₅, not_not.mp hmidver⟩
  -- 6. multidrop enable
  have hread : ∀ t1spmactlVal, InitReplies.Mapped { R₅ with t1spmactlVal } chip :=
    fun v => ⟨⟨⟨hR₃.asked .., not_not.mp hid⟩, hchip⟩, not_not.mp hmidver⟩
  have henable : ∀ v, InitStep (ε := ε) (R₅.midverLog ++ [⟨.read (.mmd Lan867x.t1spmactl), .ok v⟩])
      (.write (.mmd Lan867x.t1spmactl) ((v &&& ~~~0) ||| t1spmactlMde)) := by
    intro v
    rw [Bits.and_not_zero]
    exact .enable (hread v)
  refine Method.heeds_lift_bind_of (mmdRmw_logs hlog₅ (.t1spmactl hmapped) henable) hfail ?_
  rintro l₆ _ ⟨v, hlog₆⟩
  -- 7. commit
  refine ⟨rfl, rfl, .inr ⟨_, fun w => ?_, .ready (hread v)⟩⟩
  rw [hlog₆ w, Bits.and_not_zero, List.append_cons]
  rfl

end Stages
end EthPhy
