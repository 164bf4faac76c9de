import Mathlib.Data.List.Basic
import Mathlib.Logic.Function.Basic

/-!
# Programs that talk to a device one request at a time

A driver never sees the state of its device.  It issues a request, receives the
reply or an error, and decides what to issue next.  `Program` is that
interaction and nothing else: a finite tree of requests, branching on the
replies.  A program may do anything with an error — stop, retry, ignore it — so
that a program stops at its first error is a property to be proved
(`FailStop`), not a convention of the syntax.

A `Handler` is a bus the program can be run on: an arbitrary function from its
own state, so it may fail whenever it likes and remember whatever it likes.
`Program.run` gives the whole outcome of a run: the exchanges in order, the
value the program returns, and the state the bus is left in.

Two monads stand over `Program`.  `Fallible` is a helper function that returns
a value or the bus error; `Method` is an operation of an object with its own
state and its own error type.  Both are the standard transformers, so `do`
blocks read as the code they stand for: a bind is the `?` operator.
-/

namespace Interaction

variable {Req : Type} {Reply : Req → Type} {ε S E α β σ : Type}

/-- **A program**: it is done, or it issues one request and goes on according to
the reply. -/
inductive Program (Reply : Req → Type) (ε α : Type) : Type where
  | done (a : α)
  | call (q : Req) (k : Except ε (Reply q) → Program Reply ε α)

namespace Program

/-- Sequencing: `f` takes over where `p` is done. -/
def bind : Program Reply ε α → (α → Program Reply ε β) → Program Reply ε β
  | done a, f => f a
  | call q k, f => call q (fun r => (k r).bind f)

instance : Monad (Program Reply ε) where
  pure := done
  bind := Program.bind

@[simp] theorem call_bind (q : Req) (k : Except ε (Reply q) → Program Reply ε α)
    (f : α → Program Reply ε β) : (call q k).bind f = call q (fun r => (k r).bind f) := rfl

end Program

/-! ## Helper functions and methods -/

/-- A function that uses the bus and returns a value, or an error of the bus. -/
abbrev Fallible (Reply : Req → Type) (ε α : Type) : Type := ExceptT ε (Program Reply ε) α

/-- Issue one request. -/
def request (q : Req) : Fallible Reply ε (Reply q) := ExceptT.mk (.call q .done)

theorem Fallible.run_bind (x : Fallible Reply ε α) (f : α → Fallible Reply ε β) :
    (x >>= f).run = x.run.bind fun r => match r with
      | .ok a => (f a).run
      | .error e => .done (.error e) := by
  refine congrArg (Program.bind x.run) (funext fun r => ?_)
  cases r <;> rfl

/-- An operation of an object with state `S` that uses the bus and returns a
value, or an error of the object's own type.  What it did to the state stays
done when it fails. -/
abbrev Method (Reply : Req → Type) (ε S E α : Type) : Type :=
  ExceptT E (StateT S (Program Reply ε)) α

namespace Method

/-- The interaction of one call, from object state `s`. -/
def on (m : Method Reply ε S E α) (s : S) : Program Reply ε (Except E α × S) := m.run.run s

/-- Call a helper function, translating the error of the bus. -/
def lift (wrap : ε → E) (x : Fallible Reply ε α) : Method Reply ε S E α :=
  fun s => x.run.bind (fun r => .done (r.mapError wrap, s))

variable {s : S}

theorem bind_on (m : Method Reply ε S E α) (f : α → Method Reply ε S E β) :
    (m >>= f).on s = (m.on s).bind (fun r => match r with
      | (.ok a, t) => (f a).on t
      | (.error e, t) => .done (.error e, t)) := by
  refine congrArg (Program.bind (m.on s)) (funext fun r => ?_)
  rcases r with ⟨_ | _, _⟩ <;> rfl

end Method

/-! ## Runs -/

/-- A bus: how it answers each request, from its own state. -/
abbrev Handler (Reply : Req → Type) (ε σ : Type) : Type :=
  (q : Req) → σ → Except ε (Reply q) × σ

/-- One exchange on the bus, with the states before and after it. -/
structure Exchange (Reply : Req → Type) (ε σ : Type) where
  pre : σ
  req : Req
  reply : Except ε (Reply req)
  post : σ

namespace Exchange

/-- The error the exchange failed with, if it failed. -/
def fault (x : Exchange Reply ε σ) : Option ε :=
  match x.reply with
  | .ok _ => none
  | .error e => some e

@[simp] theorem fault_ok (s t : σ) (q : Req) (v : Reply q) :
    (⟨s, q, .ok v, t⟩ : Exchange Reply ε σ).fault = none := rfl

@[simp] theorem fault_error (s t : σ) (q : Req) (e : ε) :
    (⟨s, q, .error e, t⟩ : Exchange Reply ε σ).fault = some e := rfl

/-- The same exchange, seen through a view of the state. -/
def map (view : σ → β) (x : Exchange Reply ε σ) : Exchange Reply ε β :=
  ⟨view x.pre, x.req, x.reply, view x.post⟩

@[simp] theorem map_fault (view : σ → β) (x : Exchange Reply ε σ) :
    (x.map view).fault = x.fault := by
  cases x with | mk s q r t => cases r <;> rfl

end Exchange

/-- Everything there is to know about a finished run. -/
structure Outcome (Reply : Req → Type) (ε σ α : Type) where
  /-- The exchanges, in order. -/
  trace : List (Exchange Reply ε σ)
  /-- What the program returned. -/
  value : α
  /-- The state the bus is left in. -/
  state : σ

namespace Outcome

/-- No exchange of the run failed. -/
def FaultFree (o : Outcome Reply ε σ α) : Prop := ∀ x ∈ o.trace, x.fault = none

/-- The same run, seen through a view of the state. -/
def map (view : σ → β) (o : Outcome Reply ε σ α) : Outcome Reply ε β α :=
  ⟨o.trace.map (Exchange.map view), o.value, view o.state⟩

@[simp] theorem map_value (view : σ → β) (o : Outcome Reply ε σ α) :
    (o.map view).value = o.value := rfl

@[simp] theorem map_state (view : σ → β) (o : Outcome Reply ε σ α) :
    (o.map view).state = view o.state := rfl

@[simp] theorem map_trace (view : σ → β) (o : Outcome Reply ε σ α) :
    (o.map view).trace = o.trace.map (Exchange.map view) := rfl

@[simp] theorem map_faultFree (view : σ → β) (o : Outcome Reply ε σ α) :
    (o.map view).FaultFree ↔ o.FaultFree := by
  simp [FaultFree]

end Outcome

namespace Program

/-- Run a program on a bus. -/
def run (h : Handler Reply ε σ) : Program Reply ε α → σ → Outcome Reply ε σ α
  | done a, s => ⟨[], a, s⟩
  | call q k, s =>
      let o := (k (h q s).1).run h (h q s).2
      ⟨⟨s, q, (h q s).1, (h q s).2⟩ :: o.trace, o.value, o.state⟩

variable (h : Handler Reply ε σ)

@[simp] theorem run_done (a : α) (s : σ) : (done a : Program Reply ε α).run h s = ⟨[], a, s⟩ := rfl

theorem run_call (q : Req) (k : Except ε (Reply q) → Program Reply ε α) (s : σ) :
    (call q k).run h s =
      ⟨⟨s, q, (h q s).1, (h q s).2⟩ :: ((k (h q s).1).run h (h q s).2).trace,
        ((k (h q s).1).run h (h q s).2).value, ((k (h q s).1).run h (h q s).2).state⟩ := rfl

/-- A run of one program after another. -/
theorem run_bind (p : Program Reply ε α) (f : α → Program Reply ε β) (s : σ) :
    (p.bind f).run h s =
      ⟨(p.run h s).trace ++ ((f (p.run h s).value).run h (p.run h s).state).trace,
        ((f (p.run h s).value).run h (p.run h s).state).value,
        ((f (p.run h s).value).run h (p.run h s).state).state⟩ := by
  induction p generalizing s with
  | done a => rfl
  | call q k ih => simp only [call_bind, run_call, ih, List.cons_append]

end Program
end Interaction
