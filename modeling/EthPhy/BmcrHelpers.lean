import EthPhy.Lan87xxMode
import EthPhy.Updates

/-!
# The BMCR helpers in any order

`forceLink`, `enableAutoNegotiation` and `setLoopback(false)` each read BMCR, update it and
write it back.  Here BMCR is a plain register: it holds what was written to it last.

A sequence of such calls is then a sequence of updates, and what it makes of BMCR is told
field by field (`BmcrComposed`).  Calls that failed are not counted, as a transaction that
fails has no effect; where none fails, all calls are (`done_of_reliable`).
-/

namespace EthPhy
open Interaction Ieee802_3

variable {ε σ : Type}

/-! ## A plain register -/

/-- What a transaction does at a PHY at `addr` whose BMCR is a plain register with the
contents `v`.  The other registers do not matter. -/
def PlainEffect (addr : U8) (v : U16) : (t : Txn) → t.Reply → U16 → Prop
  | .read a r, reply, v' => v' = v ∧ (a = addr → r = regs.bmcr → reply = v)
  | .write a r value, _, v' => v' = if a = addr ∧ r = regs.bmcr then value else v

/-- **A PHY with a plain BMCR**, on a bus that may lose any transaction. -/
def plainBmcr (addr : U8) : Device Txn.Reply ε U16 :=
  Device.faulty False Eq (PlainEffect addr)

/-! ## The calls -/

/-- The calls that read BMCR, update it and write it back. -/
inductive BmcrHelper where
  | forceLink (speed : Speed) (duplex : Duplex)
  | enableAutoNegotiation
  | loopbackOff
  deriving DecidableEq, Repr

namespace BmcrHelper

/-- The call of the driver, or of the helper function. -/
def call : BmcrHelper → PhyCall
  | forceLink speed duplex => .helper (.forceLink speed duplex)
  | enableAutoNegotiation => .helper .enableAutoNegotiation
  | loopbackOff => .driver (.setLoopback false)

/-- The program of the call. -/
def op (helper : BmcrHelper) : Operation ε PhyLan87xx := helper.call.op

/-- What the call does to BMCR. -/
def update : BmcrHelper → Bits.Update 16
  | forceLink speed duplex =>
    ⟨bmcr.anEnable ||| bmcr.anRestart ||| bmcr.isolate ||| bmcr.speed100 ||| bmcr.duplexFull,
      speedBits speed ||| duplexBits duplex⟩
  | enableAutoNegotiation => ⟨bmcr.isolate, bmcr.anEnable ||| bmcr.anRestart⟩
  | loopbackOff => ⟨bmcr.loopback, 0⟩

/-- The calls of a log that succeeded. -/
def done (log : List (BmcrHelper × Response ε)) : List BmcrHelper :=
  (log.filter fun e => e.2.isOk).map Prod.fst

theorem done_concat (log : List (BmcrHelper × Response ε)) (helper : BmcrHelper)
    (r : Response ε) :
    done (log ++ [(helper, r)]) = if r.isOk then done log ++ [helper] else done log := by
  unfold done
  rw [List.filter_append, List.map_append]
  cases h : r.isOk <;> simp [h]

/-! ## What a call does -/

section Calls

variable {addr : U8} {v : U16} (phy : PhyLan87xx)

theorem mdioRead_plain :
    (mdioRead addr regs.bmcr : Mdio ε U16).run.Ensures (plainBmcr addr) v fun _ r v' =>
      v' = v ∧ ∀ val, r = .ok val → val = v := by
  refine Fallible.ensures_request ?_
  intro r v' h
  cases r with
  | ok val =>
    obtain ⟨rfl, hval⟩ := h
    exact ⟨rfl, fun _ he => Except.ok.inj he ▸ hval rfl rfl⟩
  | error e => exact ⟨(h.resolve_right fun h => h.1).symm, nofun⟩

theorem mdioWrite_plain (value : U16) :
    (mdioWrite addr regs.bmcr value : Mdio ε Unit).run.Ensures (plainBmcr addr) v fun _ r v' =>
      match r with
      | .ok _ => v' = value
      | .error _ => v' = v := by
  refine Fallible.ensures_request ?_
  intro r v' h
  cases r with
  | ok u => exact h.trans (if_pos ⟨rfl, rfl⟩)
  | error e => exact (h.resolve_right fun h => h.1).symm

/-- **A call that succeeds has done its update**, and a call that fails has done
nothing. -/
theorem op_ensures (helper : BmcrHelper) :
    (helper.op phy : Program Txn.Reply ε _).Ensures (plainBmcr phy.addr) v fun _ r v' =>
      r.2 = phy ∧ v' = if r.1.isOk then helper.update.apply v else v := by
  -- the helper functions
  have hraw : ∀ g : U16 → U16, g v = helper.update.apply v →
      (Operation.raw (do
        let val ← mdioRead phy.addr regs.bmcr
        mdioWrite phy.addr regs.bmcr (g val)) (fun _ => .unit) phy).Ensures
        (plainBmcr phy.addr) v fun _ (r : Response ε × PhyLan87xx) v' =>
          r.2 = phy ∧ v' = if r.1.isOk then helper.update.apply v else v := by
    intro g hg
    refine (Program.ensures_map _ _ v).mpr (Fallible.ensures_bind mdioRead_plain ?_ ?_)
    · rintro l val v₁ ⟨rfl, hval⟩
      obtain rfl := hval val rfl
      refine (mdioWrite_plain (g val)).mono ?_
      intro l r v' h
      cases r with
      | ok u => exact ⟨rfl, h.trans hg⟩
      | error e => exact ⟨rfl, h⟩
    · rintro l e v₁ ⟨rfl, -⟩
      exact ⟨rfl, rfl⟩
  cases helper with
  | forceLink speed duplex => exact hraw (forced speed duplex) (forced_eq speed duplex v)
  | enableAutoNegotiation => exact hraw anRestarted (anRestarted_eq v)
  | loopbackOff =>
    refine (Program.ensures_map _ _ v).mpr (Method.ensures_lift_bind mdioRead_plain ?_ ?_)
    · rintro l val v₁ ⟨rfl, hval⟩
      obtain rfl := hval val rfl
      refine Method.ensures_lift (mdioWrite_plain (val &&& ~~~bmcr.loopback)) ?_ ?_
      · rintro l u v' rfl
        exact ⟨rfl, loopbackOff_eq val⟩
      · rintro l e v' rfl
        exact ⟨rfl, rfl⟩
    · rintro l e v₁ ⟨rfl, -⟩
      exact ⟨rfl, rfl⟩

/-- **What a session makes of BMCR**: the updates of the calls that succeeded, in order. -/
theorem play_updates {bus : MdioBus ε σ} {view : σ → U16}
    (hbus : bus.handler.Conforms (plainBmcr phy.addr) view) (s : σ) (calls : List BmcrHelper) :
    let session := (serve bus.handler op).play calls (phy, s)
    view session.2.2 = Bits.Update.run ((done session.1).map update) (view s) := by
  have hstep : ∀ (log : List (BmcrHelper × Response ε)) helper (phy' : PhyLan87xx) v', True →
      (phy' = phy ∧ v' = Bits.Update.run ((done log).map update) (view s)) →
      (op helper phy').Ensures (plainBmcr phy.addr) v' fun _ r v'' =>
        r.2 = phy ∧ v'' = Bits.Update.run ((done (log ++ [(helper, r.1)])).map update) (view s) := by
    rintro log helper phy' v' - ⟨rfl, rfl⟩
    refine (op_ensures phy' helper).mono ?_
    rintro l r v'' ⟨hphy, hv⟩
    refine ⟨hphy, hv.trans ?_⟩
    rw [done_concat]
    cases r.1.isOk with
    | true =>
      rw [if_pos rfl, if_pos rfl, List.map_append, List.map_singleton, Bits.Update.run_concat]
    | false => rfl
  have hcalls : ∀ helper ∈ calls, True := fun _ _ => trivial
  exact (serve_invariant hbus hstep hcalls (o := phy) ⟨rfl, rfl⟩).2

/-- Where no transaction fails, no call does. -/
theorem op_reliable (helper : BmcrHelper) :
    (helper.op phy : Program Txn.Reply ε _).Ensures (plainBmcr phy.addr).reliable v
      fun _ r _ => r.2 = phy ∧ r.1.isOk = true := by
  have hread : (mdioRead phy.addr regs.bmcr : Mdio ε U16).run.Ensures
      (plainBmcr phy.addr).reliable v fun _ r _ => ∃ val, r = .ok val ∧ True :=
    Fallible.reliable_request fun val v' _ => ⟨val, rfl, trivial⟩
  have hwrite : ∀ v' value : U16, (mdioWrite phy.addr regs.bmcr value : Mdio ε Unit).run.Ensures
      (plainBmcr phy.addr).reliable v' fun _ r _ => ∃ u, r = .ok u :=
    fun v' value => Fallible.reliable_request fun u v' _ => ⟨u, rfl⟩
  have hraw : ∀ g : U16 → U16,
      (Operation.raw (do
        let val ← mdioRead phy.addr regs.bmcr
        mdioWrite phy.addr regs.bmcr (g val)) (fun _ => .unit) phy).Ensures
        (plainBmcr phy.addr).reliable v fun _ (r : Response ε × PhyLan87xx) _ =>
          r.2 = phy ∧ r.1.isOk = true := by
    intro g
    refine (Program.ensures_map _ _ v).mpr (Fallible.reliable_bind hread ?_)
    rintro l val v' -
    refine (hwrite v' _).mono ?_
    rintro l _ v'' ⟨u, rfl⟩
    exact ⟨rfl, rfl⟩
  cases helper with
  | forceLink speed duplex => exact hraw (forced speed duplex)
  | enableAutoNegotiation => exact hraw anRestarted
  | loopbackOff =>
    refine (Program.ensures_map _ _ v).mpr (Method.reliable_lift_bind hread ?_)
    rintro l val v' -
    refine Method.ensures_lift (hwrite v' _) (fun l u v' _ => ⟨rfl, rfl⟩) ?_
    rintro l e v' ⟨u, hu⟩
    cases hu

/-- On a bus that never fails, all calls count. -/
theorem done_of_reliable {bus : MdioBus ε σ} {view : σ → U16}
    (hbus : bus.handler.Conforms (plainBmcr phy.addr) view)
    (hok : ∀ q s, ∃ v, (bus.handler q s).1 = .ok v) (s : σ) (calls : List BmcrHelper) :
    done ((serve bus.handler op).play calls (phy, s)).1 = calls := by
  have hreliable : bus.handler.Conforms (plainBmcr phy.addr).reliable view :=
    fun q s => ⟨hbus q s, hok q s⟩
  have hstep : ∀ (log : List (BmcrHelper × Response ε)) helper (phy' : PhyLan87xx) v', True →
      (phy' = phy ∧ done log = log.map Prod.fst) →
      (op helper phy').Ensures (plainBmcr phy.addr).reliable v' fun _ r _ =>
        r.2 = phy ∧ done (log ++ [(helper, r.1)]) = (log ++ [(helper, r.1)]).map Prod.fst := by
    rintro log helper phy' v' - ⟨rfl, hlog⟩
    refine (op_reliable phy' helper).mono ?_
    rintro l r v'' ⟨hphy, hr⟩
    refine ⟨hphy, ?_⟩
    rw [done_concat, if_pos hr, hlog, List.map_append, List.map_singleton]
  have hcalls : ∀ helper ∈ calls, True := fun _ _ => trivial
  have hdone := (serve_invariant hreliable hstep hcalls (o := phy) (s := s) ⟨rfl, rfl⟩).2
  rw [hdone, Machine.play_calls]

end Calls

/-! ## The closed form -/

/-- The mode a call commands, if it commands one. -/
def mode : BmcrHelper → Option LinkMode
  | forceLink speed duplex => some (.forced speed duplex)
  | enableAutoNegotiation => some .auto
  | loopbackOff => none

/-- The speed and duplex a call forces, if it forces them. -/
def forces : BmcrHelper → Option (Speed × Duplex)
  | forceLink speed duplex => some (speed, duplex)
  | _ => none

end BmcrHelper

/-- **The closed form**: what the calls, in this order, have made of the BMCR value `v`. -/
structure BmcrComposed (calls : List BmcrHelper) (v v' : U16) : Prop where
  /-- AN_ENABLE and AN_RESTART, bits 12 and 9, are as the last mode command sets them. -/
  negotiation : v' &&& 0x1200 =
    match (calls.filterMap BmcrHelper.mode).getLast? with
    | some .auto => 0x1200
    | some (.forced _ _) => 0
    | none => v &&& 0x1200
  /-- SPEED_100 and DUPLEX_FULL, bits 13 and 8, encode what was forced last. -/
  link : v' &&& 0x2100 =
    match (calls.filterMap BmcrHelper.forces).getLast? with
    | some (speed, duplex) =>
      (if speed = ._100M then 0x2000 else 0) ||| (if duplex = .full then 0x0100 else 0)
    | none => v &&& 0x2100
  /-- ISOLATE is bit 10. -/
  isolate : v' &&& 0x0400 = if ∃ c ∈ calls, c ≠ .loopbackOff then 0 else v &&& 0x0400
  /-- LOOPBACK is bit 14. -/
  loopback : v' &&& 0x4000 = if .loopbackOff ∈ calls then 0 else v &&& 0x4000
  rest : v' &&& ~~~0x7700 = v &&& ~~~0x7700

namespace BmcrHelper
open Bits

section Fields

variable (calls : List BmcrHelper) (v : U16)

/-- A fact about each of the three kinds of calls. -/
theorem forall_call {p : BmcrHelper → Prop} (hforce : ∀ speed duplex, p (forceLink speed duplex))
    (henable : p enableAutoNegotiation) (hoff : p loopbackOff) (c : BmcrHelper) : p c := by
  cases c with
  | forceLink speed duplex => exact hforce speed duplex
  | enableAutoNegotiation => exact henable
  | loopbackOff => exact hoff

/-- Which of the fields a call of `forceLink` writes, and what to them. -/
theorem forceLink_fields (speed : Speed) (duplex : Duplex) :
    let u := (forceLink speed duplex).update
    (u.Writes 0x1200 ∧ u.set &&& 0x1200 = 0) ∧
    (u.Writes 0x2100 ∧ u.set &&& 0x2100 =
      (if speed = ._100M then 0x2000 else 0) ||| (if duplex = .full then 0x0100 else 0)) ∧
    (u.Writes 0x0400 ∧ u.set &&& 0x0400 = 0) ∧ u.Skips 0x4000 ∧ u.Skips (~~~0x7700) := by
  cases speed <;> cases duplex <;> decide

/-- What a mode command leaves of AN_ENABLE and AN_RESTART. -/
def negotiationBits : LinkMode → U16
  | .auto => 0x1200
  | .forced _ _ => 0

theorem run_negotiation :
    Update.run (calls.map update) v &&& 0x1200 =
      match (calls.filterMap mode).getLast? with
      | some .auto => 0x1200
      | some (.forced _ _) => 0
      | none => v &&& 0x1200 := by
  have hsay : ∀ c m, mode c = some m →
      c.update.Writes 0x1200 ∧ c.update.set &&& 0x1200 = negotiationBits m := by
    intro c m hm
    cases c with
    | forceLink speed duplex =>
      obtain rfl := Option.some.inj hm
      exact (forceLink_fields speed duplex).1
    | enableAutoNegotiation =>
      obtain rfl := Option.some.inj hm
      decide
    | loopbackOff => cases hm
  have hskips : ∀ c, mode c = none → c.update.Skips 0x1200 :=
    forall_call (fun _ _ hm => by cases hm) (fun hm => by cases hm) (fun _ => by decide)
  rw [Update.run_map_and hsay hskips, Update.lastSaid]
  cases (calls.filterMap mode).getLast? with
  | none => rfl
  | some m => cases m <;> rfl

theorem run_link :
    Update.run (calls.map update) v &&& 0x2100 =
      match (calls.filterMap forces).getLast? with
      | some (speed, duplex) =>
        (if speed = ._100M then 0x2000 else 0) ||| (if duplex = .full then 0x0100 else 0)
      | none => v &&& 0x2100 := by
  have hsay : ∀ c (b : Speed × Duplex), forces c = some b →
      c.update.Writes 0x2100 ∧ c.update.set &&& 0x2100 =
        (if b.1 = ._100M then 0x2000 else 0) ||| (if b.2 = .full then 0x0100 else 0) := by
    intro c b hb
    cases c with
    | forceLink speed duplex =>
      obtain rfl := Option.some.inj hb
      exact (forceLink_fields speed duplex).2.1
    | enableAutoNegotiation => cases hb
    | loopbackOff => cases hb
  have hskips : ∀ c, forces c = none → c.update.Skips 0x2100 :=
    forall_call (fun _ _ hm => by cases hm) (fun _ => by decide) (fun _ => by decide)
  rw [Update.run_map_and hsay hskips, Update.lastSaid]
  cases (calls.filterMap forces).getLast? with
  | none => rfl
  | some b => rfl

theorem run_isolate :
    Update.run (calls.map update) v &&& 0x0400 =
      if ∃ c ∈ calls, c ≠ .loopbackOff then 0 else v &&& 0x0400 := by
  have hsay : ∀ c m, mode c = some m →
      c.update.Writes 0x0400 ∧ c.update.set &&& 0x0400 = 0 := by
    intro c m hm
    cases c with
    | forceLink speed duplex => exact (forceLink_fields speed duplex).2.2.1
    | enableAutoNegotiation => decide
    | loopbackOff => cases hm
  have hskips : ∀ c, mode c = none → c.update.Skips 0x0400 :=
    forall_call (fun _ _ hm => by cases hm) (fun hm => by cases hm) (fun _ => by decide)
  have hmode : ∀ c, mode c ≠ none ↔ c ≠ loopbackOff :=
    forall_call (fun _ _ => by simp [mode]) (by simp [mode]) (by simp [mode])
  rw [Update.run_map_and hsay hskips, Update.lastSaid_const fun _ => rfl]
  simp only [hmode]

theorem run_loopback :
    Update.run (calls.map update) v &&& 0x4000 =
      if .loopbackOff ∈ calls then 0 else v &&& 0x4000 := by
  let off : BmcrHelper → Option Unit := fun c => if c = loopbackOff then some () else none
  have hsay : ∀ c b, off c = some b →
      c.update.Writes 0x4000 ∧ c.update.set &&& 0x4000 = 0 :=
    forall_call (fun _ _ _ hb => by cases hb) (fun _ hb => by cases hb) (fun _ _ => by decide)
  have hskips : ∀ c, off c = none → c.update.Skips 0x4000 :=
    forall_call (fun speed duplex _ => (forceLink_fields speed duplex).2.2.2.1)
      (fun _ => by decide) (fun h => by cases h)
  have hoff : ∀ c, off c ≠ none ↔ c = loopbackOff := by
    intro c
    by_cases h : c = loopbackOff
    · simp [off, h]
    · simp [off, h]
  rw [Update.run_map_and hsay hskips, Update.lastSaid_const fun _ => rfl]
  simp [hoff]

theorem run_rest :
    Update.run (calls.map update) v &&& ~~~0x7700 = v &&& ~~~0x7700 := by
  have hskips : ∀ c : BmcrHelper, c.update.Skips (~~~0x7700) :=
    forall_call (fun speed duplex => (forceLink_fields speed duplex).2.2.2.2) (by decide)
      (by decide)
  refine Update.run_and_of_skips ?_ v
  intro u hu
  obtain ⟨c, -, rfl⟩ := List.mem_map.mp hu
  exact hskips c

/-- **The closed form holds** of every sequence of updates. -/
theorem composed : BmcrComposed calls v (Update.run (calls.map update) v) :=
  ⟨run_negotiation calls v, run_link calls v, run_isolate calls v, run_loopback calls v,
    run_rest calls v⟩

end Fields

/-! ## Order -/

/-- `forceLink` erases all trace of the earlier calls that do not turn loopback off. -/
theorem forceLink_erases (speed : Speed) (duplex : Duplex) (pre post : List BmcrHelper)
    (v : U16) :
    Update.run ((pre ++ forceLink speed duplex :: post).map update) v =
      Update.run ((pre.filter (· = loopbackOff) ++ forceLink speed duplex :: post).map update) v := by
  refine Update.run_filter_cons _ ?_ post v
  intro c _ hc
  cases c with
  | forceLink speed' duplex' =>
    cases speed <;> cases duplex <;> cases speed' <;> cases duplex' <;> decide
  | enableAutoNegotiation => cases speed <;> cases duplex <;> decide
  | loopbackOff => simp at hc

/-- Turning loopback off commutes with the other calls. -/
theorem loopbackOff_comm (helper : BmcrHelper) (pre post : List BmcrHelper) (v : U16) :
    Update.run ((pre ++ loopbackOff :: helper :: post).map update) v =
      Update.run ((pre ++ helper :: loopbackOff :: post).map update) v := by
  have hcomm : ∀ v', helper.update.apply (loopbackOff.update.apply v') =
      loopbackOff.update.apply (helper.update.apply v') := by
    intro v'
    cases helper with
    | forceLink speed duplex =>
      exact Update.apply_comm (by cases speed <;> cases duplex <;> decide) v'
    | enableAutoNegotiation => exact Update.apply_comm (by decide) v'
    | loopbackOff => rfl
  simp only [List.map_append, List.map_cons, Update.run_append, Update.run_cons, hcomm]

end BmcrHelper

/-- **The BMCR helpers compose to a closed form** whatever the order of the calls: after
any calls, from any value, every field of BMCR is as the closed form says.  So `forceLink`
erases all trace of earlier calls of `forceLink` and `enableAutoNegotiation`, and
`setLoopback(false)` commutes with both. -/
theorem bmcr_helpers_compose (bus : MdioBus ε σ) (view : σ → U16) (phy : PhyLan87xx)
    (hbus : bus.handler.Conforms (plainBmcr phy.addr) view) (s : σ) :
    let session := fun calls => (serve bus.handler BmcrHelper.op).play calls (phy, s)
    let made := fun calls => BmcrHelper.done (session calls).1
    let final := fun calls => view (session calls).2.2
    (∀ calls, BmcrComposed (made calls) (view s) (final calls)) ∧
      (∀ calls calls' pre post speed duplex,
        made calls = pre ++ .forceLink speed duplex :: post →
        made calls' = pre.filter (· = .loopbackOff) ++ .forceLink speed duplex :: post →
        final calls = final calls') ∧
      (∀ calls calls' pre post helper, made calls = pre ++ .loopbackOff :: helper :: post →
        made calls' = pre ++ helper :: .loopbackOff :: post → final calls = final calls') ∧
      -- where nothing fails, all calls are made
      ((∀ q s, ∃ v, (bus.handler q s).1 = .ok v) → ∀ calls, made calls = calls) := by
  intro session made final
  have hfinal : ∀ calls,
      final calls = Bits.Update.run ((made calls).map BmcrHelper.update) (view s) :=
    BmcrHelper.play_updates phy hbus s
  refine ⟨?_, ?_, ?_, ?_⟩
  · intro calls
    rw [hfinal]
    exact BmcrHelper.composed (made calls) (view s)
  · intro calls calls' pre post speed duplex hmade hmade'
    rw [hfinal, hfinal, hmade, hmade']
    exact BmcrHelper.forceLink_erases speed duplex pre post (view s)
  · intro calls calls' pre post helper hmade hmade'
    rw [hfinal, hfinal, hmade, hmade']
    exact BmcrHelper.loopbackOff_comm helper pre post (view s)
  · exact fun hok calls => BmcrHelper.done_of_reliable phy hbus hok s calls

/-- A PHY whose BMCR is a plain register, on a bus that never fails. -/
def plainBus (ε : Type) (addr : U8) : MdioBus ε U16 where
  read _ _ v := (.ok v, v)
  write a r value v := (.ok (), if a = addr ∧ r = regs.bmcr then value else v)

theorem plainBus_conforms (ε : Type) (addr : U8) :
    (plainBus ε addr).handler.Conforms (plainBmcr addr) id := by
  intro t v
  cases t with
  | read a r => exact ⟨rfl, fun _ _ => rfl⟩
  | write a r value => rfl

/-- A negotiation begun, loopback turned off, and the link forced to 100M, from LOOPBACK
and ISOLATE. -/
theorem bmcr_helpers_compose_plain :
    let calls : List BmcrHelper :=
      [.enableAutoNegotiation, .loopbackOff, .forceLink ._100M .full]
    BmcrComposed calls 0x4400 0x2100 := by
  have h := bmcr_helpers_compose (plainBus Unit 1) id (PhyLan87xx.new 1)
    (plainBus_conforms Unit 1) 0x4400
  have hmade := h.2.2.2 (fun q s => by cases q <;> exact ⟨_, rfl⟩)
    [.enableAutoNegotiation, .loopbackOff, .forceLink ._100M .full]
  have hcomposed := h.1 [.enableAutoNegotiation, .loopbackOff, .forceLink ._100M .full]
  rw [hmade] at hcomposed
  exact hcomposed

end EthPhy
