import EthPhy.MmdIndirection

/-!
# Register accesses in a trace

A trace shows single transactions.  Which register one of them reads or writes depends,
for `MMDAD`, on where the earlier ones have left the latch of the indirection.  `accesses`
keeps track of the latch and reads off the accesses a trace makes to Clause 22 and MMD
registers, in order, whatever the latch was at the start.

A rule about accesses (`Guard AccessReq.Reply`) is a rule about transactions
(`onAccesses`): an access must be allowed after the accesses before it, and the latch
may only be moved towards an MMD access that is.  The functions of the indirection heed
such a rule as single accesses (`mmdRead_logs`, `mmdWrite_logs`, `mmdRmw_logs`).
-/

namespace EthPhy
open Interaction Lan867x

variable {ε : Type}

/-! ## Accesses -/

/-- A register of a PHY: a Clause 22 register, or one behind the indirection. -/
inductive Register where
  | clause22 (r : U8)
  | mmd (x : MmdAddr)
  deriving DecidableEq, Repr

/-- A request to read or to write a register. -/
inductive AccessReq where
  | read (x : Register)
  | write (x : Register) (value : U16)
  deriving DecidableEq, Repr

namespace AccessReq

/-- What an access that succeeds returns. -/
abbrev Reply : AccessReq → Type
  | read _ => U16
  | write _ _ => Unit

/-- The register it is made to. -/
def register : AccessReq → Register
  | read x => x
  | write x _ => x

end AccessReq

/-- An access to a register, with its reply. -/
abbrev Access (ε : Type) := Event AccessReq.Reply ε

/-- The values read from register `x`, in order. -/
def readings (x : Register) (log : List (Access ε)) : List U16 :=
  log.filterMap fun
    | ⟨.read y, .ok v⟩ => if y = x then some v else none
    | _ => none

theorem readings_append (x : Register) (log log' : List (Access ε)) :
    readings x (log ++ log') = readings x log ++ readings x log' :=
  List.filterMap_append

theorem mem_readings {x : Register} {log : List (Access ε)} {v : U16} :
    v ∈ readings x log ↔ ⟨.read x, .ok v⟩ ∈ log := by
  unfold readings
  rw [List.mem_filterMap]
  constructor
  · rintro ⟨⟨q, reply⟩, ha, hv⟩
    cases q with
    | write y u => cases hv
    | read y =>
      cases reply with
      | error e => cases hv
      | ok u =>
        by_cases hy : y = x
        · subst hy
          simp only [if_true] at hv
          obtain rfl := Option.some.inj hv
          exact ha
        · simp [hy] at hv
  · intro h
    exact ⟨_, h, by simp⟩

/-! ## The latch -/

/-- The latch of the indirection. -/
structure Latch where
  /-- `MMDCTRL.FNCTN`. -/
  fnctn : BitVec 2
  /-- `MMDCTRL.DEVAD`. -/
  devad : BitVec 5
  /-- The register address last written under `FNCTN_ADDR`. -/
  regAddr : U16

namespace Latch

/-- The latch of the PHY at `addr` after a transaction was issued. -/
def after (addr : U8) (w : Latch) : Txn → Latch
  | .read _ _ => w
  | .write a r v =>
    if a ≠ addr then w
    else if r = regMmdctrl then { w with fnctn := v.extractLsb' 14 2, devad := v.setWidth 5 }
    else if r = regMmdad ∧ w.fnctn = fnctnAddr then { w with regAddr := v }
    else w

/-- The latch after the transactions of a trace. -/
def afterAll (addr : U8) (w : Latch) (made : List (TxnEvent ε)) : Latch :=
  made.foldl (fun w e => w.after addr e.req) w

/-- The MMD register `MMDAD` is a window on under `FNCTN_DATA`. -/
def target (w : Latch) : MmdAddr := (w.devad, w.regAddr)

/-- The register that a transaction with register `r` of PHY `a` is made to.  One that
moves the latch is made to none. -/
def register? (w : Latch) (addr a r : U8) : Option Register :=
  if a ≠ addr ∨ r = regMmdctrl then none
  else if r = regMmdad then if w.fnctn = fnctnData then some (.mmd w.target) else none
  else some (.clause22 r)

/-- The access a transaction requests. -/
def request? (w : Latch) (addr : U8) : Txn → Option AccessReq
  | .read a r => (w.register? addr a r).map .read
  | .write a r v => (w.register? addr a r).map fun x => .write x v

/-- The access a transaction makes. -/
def access? (w : Latch) (addr : U8) : TxnEvent ε → Option (Access ε)
  | ⟨.read a r, reply⟩ => (w.register? addr a r).map fun x => ⟨.read x, reply⟩
  | ⟨.write a r v, reply⟩ => (w.register? addr a r).map fun x => ⟨.write x v, reply⟩

variable {addr : U8} (w : Latch)

theorem access?_req (e : TxnEvent ε) :
    (w.access? addr e).map Event.req = w.request? addr e.req := by
  obtain ⟨q, reply⟩ := e
  cases q with
  | read a r => simp only [access?, request?, Option.map_map, Function.comp_def]
  | write a r v => simp only [access?, request?, Option.map_map, Function.comp_def]

theorem register?_ctrl : w.register? addr addr regMmdctrl = none := by
  simp [register?]

theorem register?_clause22 {r : U8} (hctrl : r ≠ regMmdctrl) (had : r ≠ regMmdad) :
    w.register? addr addr r = some (.clause22 r) := by
  simp [register?, hctrl, had]

variable {w}

theorem register?_addr (hw : w.fnctn = fnctnAddr) : w.register? addr addr regMmdad = none := by
  simp [register?, hw, show fnctnAddr ≠ fnctnData by decide]

theorem register?_data (hw : w.fnctn = fnctnData) :
    w.register? addr addr regMmdad = some (.mmd w.target) := by
  simp [register?, hw, show regMmdad ≠ regMmdctrl by decide]

/-- An MMD register is accessed through `MMDAD`, under `FNCTN_DATA`. -/
theorem register?_eq_mmd {a r : U8} {x : MmdAddr} (h : w.register? addr a r = some (.mmd x)) :
    a = addr ∧ r = regMmdad ∧ w.fnctn = fnctnData ∧ x = w.target := by
  unfold register? at h
  split at h
  · cases h
  · rename_i hor
    split at h
    · rename_i hr
      split at h
      · rename_i hf
        obtain rfl := Register.mmd.inj (Option.some.inj h)
        exact ⟨not_not.mp fun ha => hor (.inl ha), hr, hf, rfl⟩
      · cases h
    · cases h

theorem after_ctrl (v : U16) : w.after addr (.write addr regMmdctrl v) =
    { w with fnctn := v.extractLsb' 14 2, devad := v.setWidth 5 } := by
  simp [after]

theorem after_addr (hw : w.fnctn = fnctnAddr) (v : U16) :
    w.after addr (.write addr regMmdad v) = { w with regAddr := v } := by
  simp [after, hw, show regMmdad ≠ regMmdctrl by decide]

theorem afterAll_concat (made : List (TxnEvent ε)) (e : TxnEvent ε) :
    w.afterAll addr (made ++ [e]) = (w.afterAll addr made).after addr e.req := by
  simp [afterAll]

end Latch

/-- **The accesses a trace makes** to the registers of the PHY at `addr`, from the latch
`w`. -/
def accesses (addr : U8) (w : Latch) : List (TxnEvent ε) → List (Access ε)
  | [] => []
  | e :: made => (w.access? addr e).toList ++ accesses addr (w.after addr e.req) made

section Accesses

variable {addr : U8}

theorem accesses_append (w : Latch) (made made' : List (TxnEvent ε)) :
    accesses addr w (made ++ made') =
      accesses addr w made ++ accesses addr (w.afterAll addr made) made' := by
  induction made generalizing w with
  | nil => rfl
  | cons e made ih =>
    simp only [List.cons_append, accesses, ih, List.append_assoc]
    rfl

/-- One transaction more. -/
theorem accesses_concat (w : Latch) (made : List (TxnEvent ε)) (e : TxnEvent ε) :
    accesses addr w (made ++ [e]) =
      accesses addr w made ++ ((w.afterAll addr made).access? addr e).toList := by
  rw [accesses_append]
  simp only [accesses, List.append_nil]

/-- Every access is made by a transaction. -/
theorem accesses_origin {w : Latch} {made : List (TxnEvent ε)} {log log' : List (Access ε)}
    {a : Access ε} (h : accesses addr w made = log ++ a :: log') :
    ∃ l e l', made = l ++ e :: l' ∧ accesses addr w l = log ∧
      (w.afterAll addr l).access? addr e = some a ∧
      accesses addr (w.afterAll addr (l ++ [e])) l' = log' := by
  induction made generalizing w log with
  | nil => exact absurd h.symm (by simp [accesses])
  | cons e made ih =>
    rw [accesses] at h
    cases he : w.access? addr e with
    | none =>
      rw [he, Option.toList_none, List.nil_append] at h
      obtain ⟨l, e', l', rfl, hlog, ha, hlog'⟩ := ih h
      refine ⟨e :: l, e', l', rfl, ?_, ha, hlog'⟩
      rw [accesses, he, hlog, Option.toList_none, List.nil_append]
    | some b =>
      rw [he, Option.toList_some, List.singleton_append] at h
      cases log with
      | nil =>
        obtain ⟨rfl, htail⟩ := List.cons.inj h
        exact ⟨[], e, made, rfl, rfl, he, htail⟩
      | cons c log =>
        obtain ⟨rfl, htail⟩ := List.cons.inj h
        obtain ⟨l, e', l', rfl, hlog, ha, hlog'⟩ := ih htail
        refine ⟨e :: l, e', l', rfl, ?_, ha, hlog'⟩
        rw [accesses, he, hlog, Option.toList_some, List.singleton_append]

end Accesses

/-! ## Rules about accesses -/

/-- The transaction is a write to `MMDCTRL` or `MMDAD`. -/
def MovesLatch (addr : U8) (t : Txn) : Prop :=
  ∃ r v, t = .write addr r v ∧ (r = regMmdctrl ∨ r = regMmdad)

/-- **A rule about accesses, as a rule about transactions**, whatever the latch was. -/
def onAccesses (addr : U8) (A : Guard AccessReq.Reply ε) : Guard Txn.Reply ε := fun past t =>
  ∀ w : Latch, match (w.afterAll addr past).request? addr t with
    | some q => A (accesses addr w past) q
    | none => MovesLatch addr t ∧
        ∃ q x, q.register = .mmd x ∧ A (accesses addr w past) q

/-- The transactions have made the accesses `log`, whatever the latch was. -/
def Logs (addr : U8) (past : List (TxnEvent ε)) (log : List (Access ε)) : Prop :=
  ∀ w : Latch, accesses addr w past = log

section Rules

variable {addr devad : U8} {reg : U16} {A : Guard AccessReq.Reply ε} {past made : List (TxnEvent ε)}
  {log log' : List (Access ε)} {w : Latch}

/-- **In a trace that heeds the rule, every access is allowed** after those before it. -/
theorem access_allowed (h : ∀ l e l', made = l ++ e :: l' → onAccesses addr A l e.req)
    {a : Access ε} (ha : accesses addr w made = log ++ a :: log') : A log a.req := by
  obtain ⟨l, e, l', hmade, rfl, he, -⟩ := accesses_origin ha
  have hreq : (w.afterAll addr l).request? addr e.req = some a.req := by
    rw [← Latch.access?_req, he, Option.map_some]
  have hallowed := h l e l' hmade w
  rwa [hreq] at hallowed

/-- Some access is allowed wherever a transaction is. -/
theorem onAccesses_exists {t : Txn} (h : onAccesses addr A past t) (w : Latch) :
    ∃ q, A (accesses addr w past) q := by
  have hw := h w
  split at hw
  · exact ⟨_, hw⟩
  · obtain ⟨-, q, -, -, hA⟩ := hw
    exact ⟨q, hA⟩

/-- A read of the register `x`. -/
theorem read_logs {r : U8} {x : Register} (hpast : Logs addr past log)
    (hreg : ∀ w : Latch, (w.afterAll addr past).register? addr addr r = some x)
    (hA : A log (.read x)) :
    (mdioRead addr r : Mdio ε U16).Heeds (onAccesses addr A) past fun l v =>
      Logs addr l (log ++ [⟨.read x, .ok v⟩]) := by
  have hallowed : onAccesses addr A past (.read addr r) := by
    intro w
    simp only [Latch.request?, hreg, Option.map_some, hpast w]
    exact hA
  refine (Fallible.heeds_request hallowed).mono ?_
  intro l v hl w
  rw [hl, accesses_concat, hpast w]
  simp only [Latch.access?, hreg, Option.map_some, Option.toList_some]

/-- A write of the register `x`. -/
theorem write_logs {r : U8} {x : Register} {v : U16} (hpast : Logs addr past log)
    (hreg : ∀ w : Latch, (w.afterAll addr past).register? addr addr r = some x)
    (hA : A log (.write x v)) :
    (mdioWrite addr r v : Mdio ε Unit).Heeds (onAccesses addr A) past fun l _ =>
      Logs addr l (log ++ [⟨.write x v, .ok ()⟩]) := by
  have hallowed : onAccesses addr A past (.write addr r v) := by
    intro w
    simp only [Latch.request?, hreg, Option.map_some, hpast w]
    exact hA
  refine (Fallible.heeds_request hallowed).mono ?_
  intro l u hl w
  rw [hl, accesses_concat, hpast w]
  simp only [Latch.access?, hreg, Option.map_some, Option.toList_some]

/-- A write that moves the latch towards an allowed access makes none itself. -/
theorem move_logs {r : U8} {v : U16} {q : AccessReq} {x : MmdAddr} (hpast : Logs addr past log)
    (hreg : ∀ w : Latch, (w.afterAll addr past).register? addr addr r = none)
    (hr : r = regMmdctrl ∨ r = regMmdad) (hq : q.register = .mmd x) (hA : A log q) :
    (mdioWrite addr r v : Mdio ε Unit).Heeds (onAccesses addr A) past fun l _ =>
      Logs addr l log ∧
        ∀ w : Latch, w.afterAll addr l = (w.afterAll addr past).after addr (.write addr r v) := by
  have hallowed : onAccesses addr A past (.write addr r v) := by
    intro w
    simp only [Latch.request?, hreg, Option.map_none, hpast w]
    exact ⟨⟨r, v, rfl, hr⟩, q, x, hq, hA⟩
  refine (Fallible.heeds_request hallowed).mono ?_
  intro l u hl
  refine ⟨fun w => ?_, fun w => by rw [hl, Latch.afterAll_concat]⟩
  rw [hl, accesses_concat, hpast w]
  simp only [Latch.access?, hreg, Option.map_none, Option.toList_none, List.append_nil]

/-- A read of a Clause 22 register is one access. -/
theorem mdioRead_logs {r : U8} (hctrl : r ≠ regMmdctrl) (had : r ≠ regMmdad)
    (hpast : Logs addr past log) (hA : A log (.read (.clause22 r))) :
    (mdioRead addr r : Mdio ε U16).Heeds (onAccesses addr A) past fun l v =>
      Logs addr l (log ++ [⟨.read (.clause22 r), .ok v⟩]) :=
  read_logs hpast (fun w => (w.afterAll addr past).register?_clause22 hctrl had) hA

/-- A write of a Clause 22 register is one access. -/
theorem mdioWrite_logs {r : U8} {v : U16} (hctrl : r ≠ regMmdctrl) (had : r ≠ regMmdad)
    (hpast : Logs addr past log) (hA : A log (.write (.clause22 r) v)) :
    (mdioWrite addr r v : Mdio ε Unit).Heeds (onAccesses addr A) past fun l _ =>
      Logs addr l (log ++ [⟨.write (.clause22 r) v, .ok ()⟩]) :=
  write_logs hpast (fun w => (w.afterAll addr past).register?_clause22 hctrl had) hA

/-- **Steps 1 to 3 make no access**, and leave `MMDAD` a window on the register. -/
theorem mmdSelect_logs {q : AccessReq} {x : MmdAddr} (hpast : Logs addr past log)
    (hq : q.register = .mmd x) (hA : A log q) :
    (mmdSelect addr devad reg : Mdio ε Unit).Heeds (onAccesses addr A) past fun l _ =>
      Logs addr l log ∧ ∀ w : Latch,
        (w.afterAll addr l).register? addr addr regMmdad = some (.mmd (mmdAddr devad reg)) := by
  -- MMDCTRL, under FNCTN_ADDR
  refine (move_logs hpast (fun _ => Latch.register?_ctrl _) (.inl rfl) hq hA).bind ?_
  intro l₁ _ ⟨hlog₁, hlatch₁⟩
  have hf₁ : ∀ w : Latch, (w.afterAll addr l₁).fnctn = fnctnAddr := by
    intro w
    rw [hlatch₁, Latch.after_ctrl]
    exact fnctn_addr devad
  -- MMDAD, as a register address
  refine (move_logs hlog₁ (fun w => Latch.register?_addr (hf₁ w)) (.inr rfl) hq hA).bind ?_
  intro l₂ _ ⟨hlog₂, hlatch₂⟩
  -- MMDCTRL, under FNCTN_DATA
  refine (move_logs hlog₂ (fun _ => Latch.register?_ctrl _) (.inl rfl) hq hA).mono ?_
  intro l₃ _ ⟨hlog₃, hlatch₃⟩
  refine ⟨hlog₃, fun w => ?_⟩
  have hlatch : w.afterAll addr l₃ = ⟨fnctnData, devad.setWidth 5, reg⟩ := by
    rw [hlatch₃, hlatch₂, Latch.after_addr (hf₁ w), Latch.after_ctrl, fnctn_data, devad_data]
  rw [hlatch, Latch.register?_data rfl]
  rfl

/-- **`mmdRead` is one access.** -/
theorem mmdRead_logs (hpast : Logs addr past log) (hA : A log (.read (.mmd (mmdAddr devad reg)))) :
    (mmdRead addr devad reg : Mdio ε U16).Heeds (onAccesses addr A) past fun l v =>
      Logs addr l (log ++ [⟨.read (.mmd (mmdAddr devad reg)), .ok v⟩]) :=
  (mmdSelect_logs hpast rfl hA).bind fun _ _ ⟨hlog, hreg⟩ => read_logs hlog hreg hA

/-- **`mmdWrite` is one access.** -/
theorem mmdWrite_logs {v : U16} (hpast : Logs addr past log)
    (hA : A log (.write (.mmd (mmdAddr devad reg)) v)) :
    (mmdWrite addr devad reg v : Mdio ε Unit).Heeds (onAccesses addr A) past fun l _ =>
      Logs addr l (log ++ [⟨.write (.mmd (mmdAddr devad reg)) v, .ok ()⟩]) :=
  (mmdSelect_logs hpast rfl hA).bind fun _ _ ⟨hlog, hreg⟩ => write_logs hlog hreg hA

/-- `mmdRmw` is a read and then a write. -/
theorem mmdRmw_logs {clearMask setMask : U16} (hpast : Logs addr past log)
    (hread : A log (.read (.mmd (mmdAddr devad reg))))
    (hwrite : ∀ v, A (log ++ [⟨.read (.mmd (mmdAddr devad reg)), .ok v⟩])
      (.write (.mmd (mmdAddr devad reg)) ((v &&& ~~~clearMask) ||| setMask))) :
    (mmdRmw addr devad reg clearMask setMask : Mdio ε Unit).Heeds (onAccesses addr A) past fun l _ =>
      ∃ v, Logs addr l (log ++ [⟨.read (.mmd (mmdAddr devad reg)), .ok v⟩,
        ⟨.write (.mmd (mmdAddr devad reg)) ((v &&& ~~~clearMask) ||| setMask), .ok ()⟩]) := by
  refine (mmdRead_logs hpast hread).bind fun l v hlog => ?_
  refine (mmdWrite_logs hlog (hwrite v)).mono fun l' _ hlog' => ⟨v, ?_⟩
  rwa [List.append_assoc] at hlog'

end Rules
end EthPhy
