import Zenith.Cluster

/-!
# Programs against the cluster

The reconciler's coroutines are programs that stop at each request: a program has finished
(`pure`, `raise`), logs a line, or makes a request and continues with the answer, a response or
the error the request raised.  `Prog.run` executes one program alone against a cluster and a
stream of answers; the startup gather interleaves several programs at their requests.
-/

namespace Zenith

inductive Prog (α : Type) where
  | pure (a : α)
  | raise (e : Error)
  | call (request : Request) (next : Except Error Response → Prog α)
  | log (entry : LogEntry) (next : Prog α)

namespace Prog

variable {α β γ : Type}

def bind : Prog α → (α → Prog β) → Prog β
  | pure a, f => f a
  | raise e, _ => raise e
  | call r next, f => call r fun x => (next x).bind f
  | log entry next, f => log entry (next.bind f)

/-- `try ... except`: the handler takes over where the program raises. -/
def tryCatch : Prog α → (Error → Prog α) → Prog α
  | pure a, _ => pure a
  | raise e, handler => handler e
  | call r next, handler => call r fun x => (next x).tryCatch handler
  | log entry next, handler => log entry (next.tryCatch handler)

instance : Monad Prog where
  pure := pure
  bind := bind

instance : MonadExceptOf Error Prog where
  throw := raise
  tryCatch := tryCatch

theorem bind_assoc' (p : Prog α) (f : α → Prog β) (g : β → Prog γ) :
    (p.bind f).bind g = p.bind fun a => (f a).bind g := by
  induction p with
  | pure a => rfl
  | raise e => rfl
  | call r next ih => simp only [bind, ih]
  | log entry next ih => simp only [bind, ih]

theorem bind_pure' (p : Prog α) : p.bind pure = p := by
  induction p with
  | pure a => rfl
  | raise e => rfl
  | call r next ih => simp only [bind, ih]
  | log entry next ih => simp only [bind, ih]

instance : LawfulMonad Prog := LawfulMonad.mk' Prog bind_pure' (fun _ _ => rfl) bind_assoc'

/-- A Python expression that may raise. -/
def ofExcept : Except Error α → Prog α
  | .ok a => pure a
  | .error e => raise e

/-- A request whose failure raises. -/
def request (r : Request) : Prog Response := call r ofExcept

/-- `self._log(level, message)`. -/
def emit (level : Level) (message : String) : Prog Unit := log ⟨level, message⟩ (pure ())

@[simp] theorem bind_eq (p : Prog α) (f : α → Prog β) : p >>= f = p.bind f := rfl
@[simp] theorem pure_eq (a : α) : (Pure.pure a : Prog α) = pure a := rfl
@[simp] theorem throw_eq (e : Error) : (throw e : Prog α) = raise e := rfl
@[simp] theorem tryCatch_eq (p : Prog α) (handler : Error → Prog α) :
    (MonadExceptOf.tryCatch p handler : Prog α) = p.tryCatch handler := rfl

@[simp] theorem tryCatch_eq' (p : Prog α) (handler : Error → Prog α) :
    (MonadExcept.tryCatch p handler : Prog α) = p.tryCatch handler := rfl

@[simp] theorem pure_bind' (a : α) (f : α → Prog β) : (pure a).bind f = f a := rfl
@[simp] theorem raise_bind (e : Error) (f : α → Prog β) : (raise e).bind f = raise e := rfl
@[simp] theorem log_bind (entry : LogEntry) (next : Prog α) (f : α → Prog β) :
    (log entry next).bind f = log entry (next.bind f) := rfl
@[simp] theorem call_bind (r : Request) (next : Except Error Response → Prog α)
    (f : α → Prog β) : (call r next).bind f = call r fun x => (next x).bind f := rfl

@[simp] theorem ofExcept_bind (x : Except Error α) (f : α → Prog β) :
    (ofExcept x).bind f = match x with | .ok a => f a | .error e => raise e := by
  cases x <;> rfl

end Prog

/-- What a program observably does: its requests, in order, and the lines it logs. -/
inductive Event where
  | request (r : Request)
  | log (entry : LogEntry)

/-- The result of running a program alone, with the answers it left unused. -/
structure Outcome (α : Type) where
  result : Except Error α
  cluster : Cluster
  env : Env
  trace : List Event

/-- Continue an outcome with what its result leads to. -/
def Outcome.bind {α β : Type} (o : Outcome α) (k : α → Env → Cluster → Outcome β) :
    Outcome β :=
  match o.result with
  | .ok a => let next := k a o.env o.cluster; { next with trace := o.trace ++ next.trace }
  | .error e => { o with result := .error e }

namespace Prog

variable {α β : Type}

/-- Run a program alone from a cluster, answering its requests from `env` in order. -/
def run (P : Platform) : Prog α → Env → Cluster → Outcome α
  | pure a, env, c => ⟨.ok a, c, env, []⟩
  | raise e, env, c => ⟨.error e, c, env, []⟩
  | call r next, env, c =>
    let o := run P (next (r.perform P env.head c).2) env.tail (r.perform P env.head c).1
    { o with trace := .request r :: o.trace }
  | log entry next, env, c =>
    let o := run P next env c
    { o with trace := .log entry :: o.trace }

variable (P : Platform)

@[simp] theorem run_pure (a : α) (env : Env) (c : Cluster) :
    (pure a).run P env c = ⟨.ok a, c, env, []⟩ := rfl

@[simp] theorem run_raise (e : Error) (env : Env) (c : Cluster) :
    (raise e : Prog α).run P env c = ⟨.error e, c, env, []⟩ := rfl

theorem run_call (r : Request) (next : Except Error Response → Prog α) (env : Env)
    (c : Cluster) :
    (call r next).run P env c =
      let o := (next (r.perform P env.head c).2).run P env.tail (r.perform P env.head c).1
      { o with trace := .request r :: o.trace } := rfl

@[simp] theorem run_log (entry : LogEntry) (next : Prog α) (env : Env) (c : Cluster) :
    (log entry next).run P env c =
      { next.run P env c with trace := .log entry :: (next.run P env c).trace } := rfl

theorem run_bind (p : Prog α) (f : α → Prog β) (env : Env) (c : Cluster) :
    (p.bind f).run P env c = (p.run P env c).bind fun a => (f a).run P := by
  induction p generalizing env c with
  | pure a => simp [Outcome.bind]
  | raise e => simp [Outcome.bind]
  | call r next ih =>
    simp only [bind, run_call, ih, Outcome.bind]
    split <;> simp_all
  | log entry next ih =>
    simp only [bind, run_log, ih, Outcome.bind]
    split <;> simp_all

theorem run_tryCatch (p : Prog α) (handler : Error → Prog α) (env : Env) (c : Cluster) :
    (p.tryCatch handler).run P env c =
      match (p.run P env c).result with
      | .ok _ => p.run P env c
      | .error e =>
        let next := (handler e).run P (p.run P env c).env (p.run P env c).cluster
        { next with trace := (p.run P env c).trace ++ next.trace } := by
  induction p generalizing env c with
  | pure a => rfl
  | raise e => rfl
  | call r next ih =>
    simp only [tryCatch, run_call, ih]
    split <;> simp_all
  | log entry next ih =>
    simp only [tryCatch, run_log, ih]
    split <;> simp_all

@[simp] theorem run_emit (level : Level) (message : String) (env : Env) (c : Cluster) :
    (emit level message).run P env c = ⟨.ok (), c, env, [.log ⟨level, message⟩]⟩ := rfl

end Prog

end Zenith
