import Mathlib.Data.List.Basic

namespace StellarSwipe
set_option autoImplicit true

/-- An async handler over a shared store `σ`, cut at its `await` points: each `atom`
reads the store and writes it in one indivisible step, and the rest of the handler
depends on what that step read. Handlers fail with errors of type `ε`. -/
inductive Prog (σ ε α : Type) where
  | ok : α → Prog σ ε α
  | err : ε → Prog σ ε α
  | atom : (σ → σ) → (σ → Prog σ ε α) → Prog σ ε α

namespace Prog

def bind : Prog σ ε α → (α → Prog σ ε β) → Prog σ ε β
  | ok a, f => f a
  | err e, _ => err e
  | atom u k, f => atom u fun s => bind (k s) f

/-- `try ... catch`: the handler runs on the error, from the store the failure left. -/
def handle : Prog σ ε α → (ε → Prog σ ε α) → Prog σ ε α
  | ok a, _ => ok a
  | err e, h => h e
  | atom u k, h => atom u fun s => handle (k s) h

instance : Monad (Prog σ ε) where
  pure := ok
  bind := bind

instance : MonadExcept ε (Prog σ ε) where
  throw := err
  tryCatch := handle

/-- Sequential semantics: the handler runs alone, from its first atom to its result. -/
def run : Prog σ ε α → σ → Except ε α × σ
  | ok a, s => (.ok a, s)
  | err e, s => (.error e, s)
  | atom u k, s => run (k s) (u s)

/-- One awaited query: reads the store, changes nothing. -/
def read (f : σ → α) : Prog σ ε α := atom id fun s => ok (f s)

/-- One awaited write that cannot fail, or a synchronous step with a shared effect. -/
def write (u : σ → σ) : Prog σ ε Unit := atom u fun _ => ok ()

/-- One awaited write that the environment may make fail: the store is then unchanged. -/
def tryWrite (fails : Bool) (e : ε) (u : σ → σ) : Prog σ ε Unit :=
  if fails then atom id fun _ => err e else write u

def ofExcept : Except ε α → Prog σ ε α
  | .ok a => ok a
  | .error e => err e

@[simp] theorem run_ofExcept (x : Except ε α) (s : σ) : (ofExcept x : Prog σ ε α).run s = (x, s) := by
  cases x <;> rfl

@[simp] theorem run_ok (a : α) (s : σ) : (ok a : Prog σ ε α).run s = (.ok a, s) := rfl

@[simp] theorem run_err (e : ε) (s : σ) : (err e : Prog σ ε α).run s = (.error e, s) := rfl

@[simp] theorem run_atom (u : σ → σ) (k : σ → Prog σ ε α) (s : σ) :
    (atom u k).run s = (k s).run (u s) := rfl

@[simp] theorem run_pure (a : α) (s : σ) : (pure a : Prog σ ε α).run s = (.ok a, s) := rfl

@[simp] theorem run_throw (e : ε) (s : σ) : (throw e : Prog σ ε α).run s = (.error e, s) := rfl

@[simp] theorem run_read (f : σ → α) (s : σ) : (read f : Prog σ ε α).run s = (.ok (f s), s) := rfl

@[simp] theorem run_write (u : σ → σ) (s : σ) :
    (write u : Prog σ ε Unit).run s = (.ok (), u s) := rfl

@[simp] theorem run_tryWrite (fails : Bool) (e : ε) (u : σ → σ) (s : σ) :
    (tryWrite fails e u).run s = if fails then (.error e, s) else (.ok (), u s) := by
  cases fails <;> rfl

@[simp] theorem pure_bind (a : α) (f : α → Prog σ ε β) : (pure a >>= f) = f a := rfl

@[simp] theorem throw_bind (e : ε) (f : α → Prog σ ε β) :
    ((throw e : Prog σ ε α) >>= f) = throw e := rfl

@[simp] theorem bind_pure (p : Prog σ ε α) : (p >>= fun a => pure a) = p := by
  induction p with
  | ok a => rfl
  | err e => rfl
  | atom u k ih => exact congrArg (atom u) (funext ih)

theorem run_bind (p : Prog σ ε α) (f : α → Prog σ ε β) (s : σ) :
    (p >>= f).run s = match p.run s with
      | (.ok a, s') => (f a).run s'
      | (.error e, s') => (.error e, s') := by
  induction p generalizing s with
  | ok a => rfl
  | err e => rfl
  | atom u k ih => exact ih s (u s)

theorem run_tryCatch (p : Prog σ ε α) (h : ε → Prog σ ε α) (s : σ) :
    (tryCatch p h : Prog σ ε α).run s = match p.run s with
      | (.ok a, s') => (.ok a, s')
      | (.error e, s') => (h e).run s' := by
  induction p generalizing s with
  | ok a => rfl
  | err e => rfl
  | atom u k ih => exact ih s (u s)

/-- Handler `i` takes one atomic step; a finished handler or a missing index does nothing. -/
def stepAt (i : Nat) : σ × List (Prog σ ε α) → σ × List (Prog σ ε α)
  | (s, ts) =>
    match ts[i]? with
    | some (atom u k) => (u s, ts.set i (k s))
    | _ => (s, ts)

def interleave (sched : List Nat) (st : σ × List (Prog σ ε α)) : σ × List (Prog σ ε α) :=
  sched.foldl (fun st i => stepAt i st) st

def result? : Prog σ ε α → Option (Except ε α)
  | ok a => some (.ok a)
  | err e => some (.error e)
  | atom _ _ => none

@[simp] theorem interleave_nil (st : σ × List (Prog σ ε α)) : interleave [] st = st := rfl

@[simp] theorem interleave_cons (i : Nat) (sched : List Nat) (st : σ × List (Prog σ ε α)) :
    interleave (i :: sched) st = interleave sched (stepAt i st) := rfl

/-- The number of atoms a handler takes when it runs alone from `s`. -/
def atoms : Prog σ ε α → σ → Nat
  | ok _, _ => 0
  | err _, _ => 0
  | atom u k, s => atoms (k s) (u s) + 1

theorem interleave_alone (p : Prog σ ε α) (s : σ) :
    interleave (List.replicate (p.atoms s) 0) (s, [p]) =
      ((p.run s).2, [match (p.run s).1 with | .ok a => ok a | .error e => err e]) := by
  induction p generalizing s with
  | ok a => rfl
  | err e => rfl
  | atom u k ih =>
    simp only [atoms, List.replicate_succ, interleave_cons, stepAt, List.getElem?_cons_zero,
      List.set_cons_zero, run]
    exact ih s (u s)

end Prog

end StellarSwipe
