import Zenith.Prog

/-!
# Every way a program can go

`Prog.run` answers a program's requests from one stream.  The reconciler's contracts are about
every way the world may answer: any request but `os.urandom` may fail, random values and
registered clients are arbitrary, and a run may stop after any step, by an exception, a give-up
or a crash.  `Reaches` collects all of these: the program, started at a cluster, makes the
requests and logs of a trace and arrives at a program point with the cluster in some state.  A
run answered from a stream is one of them (`reaches_run`), and so is every prefix of it.

Each operation is then described once, by what `Reaches` allows for it, and the contracts are
derived from these descriptions without unfolding the operation again.
-/

namespace Zenith

namespace Prog

variable {α β : Type} (P : Platform)

/-- `Reaches P p c trace q c'`: some answers take the program `p`, started at `c`, through the
requests and logs of `trace` to the program point `q`, with the cluster at `c'`. -/
inductive Reaches : Prog α → Cluster → List Event → Prog α → Cluster → Prop
  | refl (p : Prog α) (c : Cluster) : Reaches p c [] p c
  | call {r : Request} {next : Except Error Response → Prog α} {c : Cluster} (answer : Answer)
      {trace : List Event} {q : Prog α} {c' : Cluster} :
      Reaches (next (r.perform P answer c).2) (r.perform P answer c).1 trace q c' →
      Reaches (call r next) c (.request r :: trace) q c'
  | log {entry : LogEntry} {next : Prog α} {c : Cluster} {trace : List Event} {q : Prog α}
      {c' : Cluster} :
      Reaches next c trace q c' → Reaches (log entry next) c (.log entry :: trace) q c'

variable {P}

theorem Reaches.trans {p q s : Prog α} {c c' c'' : Cluster} {t t' : List Event}
    (first : Reaches P p c t q c') (second : Reaches P q c' t' s c'') :
    Reaches P p c (t ++ t') s c'' := by
  induction first with
  | refl => exact second
  | call answer _ ih => exact .call answer (ih second)
  | log _ ih => exact .log (ih second)

/-- A program's steps are steps of the program continued by `f`. -/
theorem Reaches.bind {p q : Prog α} {c c' : Cluster} {t : List Event}
    (h : Reaches P p c t q c') (f : α → Prog β) : Reaches P (p.bind f) c t (q.bind f) c' := by
  induction h with
  | refl => exact .refl _ _
  | call answer _ ih => exact .call answer ih
  | log _ ih => exact .log ih

/-- A program's steps are steps of the program under a handler. -/
theorem Reaches.tryCatch {p q : Prog α} {c c' : Cluster} {t : List Event}
    (h : Reaches P p c t q c') (handler : Error → Prog α) :
    Reaches P (p.tryCatch handler) c t (q.tryCatch handler) c' := by
  induction h with
  | refl => exact .refl _ _
  | call answer _ ih => exact .call answer ih
  | log _ ih => exact .log ih

/-- The program point and cluster a run answered from a stream stops at. -/
theorem reaches_run (p : Prog α) (env : Env) (c : Cluster) :
    Reaches P p c (p.run P env c).trace (ofExcept (p.run P env c).result)
      (p.run P env c).cluster := by
  induction p generalizing env c with
  | pure a => exact .refl _ _
  | raise e => exact .refl _ _
  | call r next ih => exact .call env.head (ih _ env.tail _)
  | log entry next ih => exact .log (ih env c)

/-- A run answered from a stream that returns `a` is a way of returning `a`. -/
theorem reaches_run_ok {p : Prog α} {env : Env} {c : Cluster} {a : α}
    (ok : (p.run P env c).result = .ok a) :
    Reaches P p c (p.run P env c).trace (pure a) (p.run P env c).cluster := by
  have run := @reaches_run α P p env c
  rw [ok] at run
  exact run

theorem reaches_pure {a : α} {c c' : Cluster} {t : List Event} {q : Prog α} :
    Reaches P (pure a) c t q c' ↔ t = [] ∧ q = pure a ∧ c' = c := by
  constructor
  · rintro ⟨⟩
    exact ⟨rfl, rfl, rfl⟩
  · rintro ⟨rfl, rfl, rfl⟩
    exact .refl _ _

theorem reaches_raise {e : Error} {c c' : Cluster} {t : List Event} {q : Prog α} :
    Reaches P (raise e) c t q c' ↔ t = [] ∧ q = raise e ∧ c' = c := by
  constructor
  · rintro ⟨⟩
    exact ⟨rfl, rfl, rfl⟩
  · rintro ⟨rfl, rfl, rfl⟩
    exact .refl _ _

theorem reaches_call {r : Request} {next : Except Error Response → Prog α} {c c' : Cluster}
    {t : List Event} {q : Prog α} :
    Reaches P (call r next) c t q c' ↔ (t = [] ∧ q = call r next ∧ c' = c) ∨
      ∃ answer t', t = .request r :: t' ∧
        Reaches P (next (r.perform P answer c).2) (r.perform P answer c).1 t' q c' := by
  constructor
  · intro h
    cases h with
    | refl => exact .inl ⟨rfl, rfl, rfl⟩
    | call answer h => exact .inr ⟨answer, _, rfl, h⟩
  · rintro (⟨rfl, rfl, rfl⟩ | ⟨answer, t', rfl, h⟩)
    · exact .refl _ _
    · exact .call answer h

theorem reaches_log {entry : LogEntry} {next : Prog α} {c c' : Cluster} {t : List Event}
    {q : Prog α} :
    Reaches P (log entry next) c t q c' ↔ (t = [] ∧ q = log entry next ∧ c' = c) ∨
      ∃ t', t = .log entry :: t' ∧ Reaches P next c t' q c' := by
  constructor
  · intro h
    cases h with
    | refl => exact .inl ⟨rfl, rfl, rfl⟩
    | log h => exact .inr ⟨_, rfl, h⟩
  · rintro (⟨rfl, rfl, rfl⟩ | ⟨t', rfl, h⟩)
    · exact .refl _ _
    · exact .log h

/-- A point reached by `p` continued by `f` lies within `p`, or after `p` has returned. -/
theorem reaches_bind {p : Prog α} {f : α → Prog β} {c c' : Cluster} {t : List Event}
    {q : Prog β} (h : Reaches P (p.bind f) c t q c') :
    (∃ p', q = p'.bind f ∧ Reaches P p c t p' c') ∨
      ∃ a t₁ c₁ t₂, t = t₁ ++ t₂ ∧ Reaches P p c t₁ (pure a) c₁ ∧ Reaches P (f a) c₁ t₂ q c' := by
  induction p generalizing c t with
  | pure a => exact .inr ⟨a, [], c, t, rfl, .refl _ _, h⟩
  | raise e =>
    obtain ⟨rfl, rfl, rfl⟩ := reaches_raise.mp h
    exact .inl ⟨raise e, rfl, .refl _ _⟩
  | call r next ih =>
    rcases reaches_call.mp h with ⟨rfl, rfl, rfl⟩ | ⟨answer, t', rfl, rest⟩
    · exact .inl ⟨call r next, rfl, .refl _ _⟩
    · rcases ih _ rest with ⟨p', rfl, within⟩ | ⟨a, t₁, c₁, t₂, rfl, h₁, h₂⟩
      · exact .inl ⟨p', rfl, .call answer within⟩
      · exact .inr ⟨a, _, c₁, t₂, rfl, .call answer h₁, h₂⟩
  | log entry next ih =>
    rcases reaches_log.mp h with ⟨rfl, rfl, rfl⟩ | ⟨t', rfl, rest⟩
    · exact .inl ⟨log entry next, rfl, .refl _ _⟩
    · rcases ih rest with ⟨p', rfl, within⟩ | ⟨a, t₁, c₁, t₂, rfl, h₁, h₂⟩
      · exact .inl ⟨p', rfl, .log within⟩
      · exact .inr ⟨a, _, c₁, t₂, rfl, .log h₁, h₂⟩

theorem bind_eq_pure {p : Prog α} {f : α → Prog β} {b : β} (h : p.bind f = pure b) :
    ∃ a, p = pure a ∧ f a = pure b := by
  cases p with
  | pure a => exact ⟨a, rfl, h⟩
  | raise e => cases h
  | call r next => cases h
  | log entry next => cases h

/-- A program continued by `f` returns only after `p` has returned and `f` has. -/
theorem reaches_bind_pure {p : Prog α} {f : α → Prog β} {c c' : Cluster} {t : List Event}
    {b : β} (h : Reaches P (p.bind f) c t (pure b) c') :
    ∃ a t₁ c₁ t₂, t = t₁ ++ t₂ ∧ Reaches P p c t₁ (pure a) c₁ ∧
      Reaches P (f a) c₁ t₂ (pure b) c' := by
  rcases reaches_bind h with ⟨p', same, h⟩ | done
  · obtain ⟨a, rfl, returns⟩ := bind_eq_pure same.symm
    exact ⟨a, t, c', [], by simp, h, returns ▸ .refl _ _⟩
  · exact done

/-- A program under a handler returns where the program returns, or where the handler returns
after the program raised. -/
theorem reaches_tryCatch_pure {p : Prog α} {handler : Error → Prog α} {c c' : Cluster}
    {t : List Event} {a : α} (h : Reaches P (p.tryCatch handler) c t (pure a) c') :
    Reaches P p c t (pure a) c' ∨ ∃ e t₁ c₁ t₂, t = t₁ ++ t₂ ∧ Reaches P p c t₁ (raise e) c₁ ∧
      Reaches P (handler e) c₁ t₂ (pure a) c' := by
  induction p generalizing c t with
  | pure b => exact .inl h
  | raise e => exact .inr ⟨e, [], c, t, rfl, .refl _ _, h⟩
  | call r next ih =>
    rcases reaches_call.mp h with ⟨-, stopped, -⟩ | ⟨answer, t', rfl, rest⟩
    · cases stopped
    · rcases ih _ rest with returned | ⟨e, t₁, c₁, t₂, rfl, raised, handled⟩
      · exact .inl (.call answer returned)
      · exact .inr ⟨e, _, c₁, t₂, rfl, .call answer raised, handled⟩
  | log entry next ih =>
    rcases reaches_log.mp h with ⟨-, stopped, -⟩ | ⟨t', rfl, rest⟩
    · cases stopped
    · rcases ih rest with returned | ⟨e, t₁, c₁, t₂, rfl, raised, handled⟩
      · exact .inl (.log returned)
      · exact .inr ⟨e, _, c₁, t₂, rfl, .log raised, handled⟩

/-- A failed request changes nothing. -/
theorem perform_error {r : Request} {answer : Answer} {c : Cluster} {e : Error}
    (failed : (r.perform P answer c).2 = .error e) : (r.perform P answer c).1 = c := by
  by_cases fails : (answer.fails && r.mayFail) = true
  · simp [Request.perform, fails]
  · simp only [Request.perform, fails, if_false] at failed ⊢
    cases r with
    | createOrPatch key stringData =>
      simp only [Request.apply] at failed ⊢
      cases patch : patchStringData P (c.get key) stringData <;> simp_all
    | _ => simp [Request.apply] at failed

/-- A request that goes through does what `Request.apply` says. -/
theorem perform_ok {r : Request} {answer : Answer} {c : Cluster} {x : Response}
    (ok : (r.perform P answer c).2 = .ok x) : r.perform P answer c = r.apply P answer c := by
  by_cases fails : (answer.fails && r.mayFail) = true <;> simp_all [Request.perform]

/-- What a request followed by more of the program can do: nothing yet, raise without a change,
or go through and continue with its response. -/
theorem reaches_request_bind {r : Request} {f : Response → Prog β} {c c' : Cluster}
    {t : List Event} {q : Prog β} (h : Reaches P ((request r).bind f) c t q c') :
    (t = [] ∧ q = (request r).bind f ∧ c' = c) ∨
      (∃ e, t = [.request r] ∧ q = raise e ∧ c' = c) ∨
      ∃ answer x t', (r.perform P answer c).2 = .ok x ∧ t = .request r :: t' ∧
        Reaches P (f x) (r.perform P answer c).1 t' q c' := by
  rcases reaches_call.mp h with ⟨rfl, rfl, rfl⟩ | ⟨answer, t', rfl, rest⟩
  · exact .inl ⟨rfl, rfl, rfl⟩
  · cases response : (r.perform P answer c).2 with
    | error e =>
      rw [response] at rest
      obtain ⟨rfl, rfl, rfl⟩ := reaches_raise.mp rest
      exact .inr (.inl ⟨e, rfl, rfl, perform_error response⟩)
    | ok x =>
      rw [response] at rest
      exact .inr (.inr ⟨answer, x, t', response, rfl, rest⟩)

theorem reaches_log_pure {entry : LogEntry} {next : Prog α} {c c' : Cluster} {t : List Event}
    {a : α} (h : Reaches P (log entry next) c t (pure a) c') :
    ∃ t', t = .log entry :: t' ∧ Reaches P next c t' (pure a) c' := by
  rcases reaches_log.mp h with ⟨-, stopped, -⟩ | returns
  · cases stopped
  · exact returns

/-- A program that returns after a request made the request, and it went through. -/
theorem reaches_request_bind_pure {r : Request} {f : Response → Prog β} {c c' : Cluster}
    {t : List Event} {b : β} (h : Reaches P ((request r).bind f) c t (pure b) c') :
    ∃ answer x c₁ t', r.apply P answer c = (c₁, .ok x) ∧ t = .request r :: t' ∧
      Reaches P (f x) c₁ t' (pure b) c' := by
  rcases reaches_request_bind h with ⟨-, stopped, -⟩ | ⟨e, -, stopped, -⟩ |
    ⟨answer, x, t', ok, rfl, rest⟩
  · cases stopped
  · cases stopped
  · refine ⟨answer, x, _, t', ?_, rfl, rest⟩
    rw [← perform_ok ok, ← ok]

/-- Every request the program may make, whatever the answers, satisfies `ok`. -/
def Always (ok : Request → Prop) : Prog α → Prop
  | pure _ => True
  | raise _ => True
  | call r next => ok r ∧ ∀ x, (next x).Always ok
  | log _ next => next.Always ok

@[simp] theorem always_pure (ok : Request → Prop) (a : α) : (pure a).Always ok := trivial
@[simp] theorem always_raise (ok : Request → Prop) (e : Error) : (raise e : Prog α).Always ok :=
  trivial

@[simp] theorem always_call (ok : Request → Prop) (r : Request)
    (next : Except Error Response → Prog α) :
    (call r next).Always ok ↔ ok r ∧ ∀ x, (next x).Always ok := Iff.rfl

@[simp] theorem always_log (ok : Request → Prop) (entry : LogEntry) (next : Prog α) :
    (log entry next).Always ok ↔ next.Always ok := Iff.rfl

@[simp] theorem always_ofExcept (ok : Request → Prop) (x : Except Error α) :
    (ofExcept x).Always ok := by
  cases x <;> trivial

theorem Always.bind {ok : Request → Prop} {p : Prog α} {f : α → Prog β} (first : p.Always ok)
    (rest : ∀ a, (f a).Always ok) : (p.bind f).Always ok := by
  induction p with
  | pure a => exact rest a
  | raise e => trivial
  | call r next ih => exact ⟨first.1, fun x => ih x (first.2 x)⟩
  | log entry next ih => exact ih first

theorem Always.tryCatch {ok : Request → Prop} {p : Prog α} {handler : Error → Prog α}
    (first : p.Always ok) (rest : ∀ e, (handler e).Always ok) : (p.tryCatch handler).Always ok := by
  induction p with
  | pure a => trivial
  | raise e => exact rest e
  | call r next ih => exact ⟨first.1, fun x => ih x (first.2 x)⟩
  | log entry next ih => exact ih first

theorem Always.mono {ok ok' : Request → Prop} (weaker : ∀ r, ok r → ok' r) {p : Prog α}
    (h : p.Always ok) : p.Always ok' := by
  induction p with
  | pure a => trivial
  | raise e => trivial
  | call r next ih => exact ⟨weaker r h.1, fun x => ih x (h.2 x)⟩
  | log entry next ih => exact ih h

/-- Along any run, every request made satisfies `ok`, and so does what is left. -/
theorem Always.reaches {ok : Request → Prop} {p q : Prog α} {c c' : Cluster} {t : List Event}
    (always : p.Always ok) (h : Reaches P p c t q c') :
    (∀ r, .request r ∈ t → ok r) ∧ q.Always ok := by
  induction h with
  | refl => exact ⟨by simp, always⟩
  | call answer _ ih =>
    obtain ⟨made, rest⟩ := ih (always.2 _)
    exact ⟨by simpa [always.1] using made, rest⟩
  | log _ ih =>
    obtain ⟨made, rest⟩ := ih always
    exact ⟨by simpa using made, rest⟩

/-- A quantity of the cluster that every request the program may make leaves as it was stays so
along every run. -/
theorem Always.reaches_conserves {β : Type} {f : Cluster → β} {p q : Prog α} {c c' : Cluster}
    {t : List Event} (always : p.Always fun r => ∀ answer d, f (r.perform P answer d).1 = f d)
    (h : Reaches P p c t q c') : f c' = f c := by
  induction h with
  | refl => rfl
  | call answer _ ih => exact (ih (always.2 _)).trans (always.1 answer _)
  | log _ ih => exact ih always

/-- Along any run, an object outside the footprint is left as it was. -/
theorem Always.reaches_get {foot : Key → Prop} {p q : Prog α} {c c' : Cluster} {t : List Event}
    (always : p.Always (Request.Within foot)) (h : Reaches P p c t q c') {k : Key}
    (outside : ¬ foot k) : c'.get k = c.get k := by
  induction h with
  | refl => rfl
  | call answer _ ih => rw [ih (always.2 _), Request.get_perform always.1 outside]
  | log _ ih => exact ih always

/-- A program that only reads leaves the cluster as it was. -/
theorem Always.reaches_readOnly {p q : Prog α} {c c' : Cluster} {t : List Event}
    (always : p.Always Request.ReadOnly) (h : Reaches P p c t q c') : c' = c :=
  Store.ext fun _ => always.reaches_get h id

theorem reaches_ofExcept {x : Except Error α} {c c' : Cluster} {t : List Event} {q : Prog α}
    (h : Reaches P (ofExcept x) c t q c') : c' = c ∧ t = [] := by
  cases x with
  | error e => obtain ⟨rfl, -, rfl⟩ := reaches_raise.mp h; exact ⟨rfl, rfl⟩
  | ok a => obtain ⟨rfl, -, rfl⟩ := reaches_pure.mp h; exact ⟨rfl, rfl⟩

theorem reaches_ofExcept_pure {x : Except Error α} {c c' : Cluster} {t : List Event} {a : α}
    (h : Reaches P (ofExcept x) c t (pure a) c') : x = .ok a ∧ c' = c := by
  cases x with
  | error e => cases (reaches_raise.mp h).2.1
  | ok b =>
    obtain ⟨-, same, rfl⟩ := reaches_pure.mp h
    cases same
    exact ⟨rfl, rfl⟩

/-- A program that only reads, continued by `f`: stopped within it, the cluster is as it was;
after it, `f` starts from the same cluster. -/
theorem reaches_bind_readOnly {p : Prog α} {f : α → Prog β} {c c' : Cluster} {t : List Event}
    {q : Prog β} (readOnly : p.Always Request.ReadOnly) (h : Reaches P (p.bind f) c t q c') :
    (c' = c ∧ ∃ p', Reaches P p c t p' c') ∨
      ∃ a t₁ t₂, t = t₁ ++ t₂ ∧ Reaches P p c t₁ (pure a) c ∧ Reaches P (f a) c t₂ q c' := by
  rcases reaches_bind h with ⟨p', -, within⟩ | ⟨a, t₁, c₁, t₂, rfl, first, rest⟩
  · exact .inl ⟨readOnly.reaches_readOnly within, p', within⟩
  · obtain rfl := readOnly.reaches_readOnly first
    exact .inr ⟨a, t₁, t₂, rfl, first, rest⟩

/-- From `c`, every run of the program, stopped anywhere, leaves the cluster as it was and makes
only requests that satisfy `ok`. -/
def Fixes (P : Platform) (ok : Request → Prop) (p : Prog α) (c : Cluster) : Prop :=
  ∀ t q c', Reaches P p c t q c' → c' = c ∧ ∀ r, .request r ∈ t → ok r

/-- A program that only reads, and only as `ok` allows, changes nothing. -/
theorem Fixes.of_always {ok : Request → Prop} {p : Prog α} {c : Cluster}
    (always : p.Always fun r => r.ReadOnly ∧ ok r) : Fixes P ok p c := fun _ _ _ h =>
  ⟨(always.mono fun _ allowed => allowed.1).reaches_readOnly h,
    fun r made => ((always.reaches h).1 r made).2⟩

/-- A program changes nothing where its first part does, and so does the rest after any value
the first part can return from `c`. -/
theorem Fixes.bind {ok : Request → Prop} {p : Prog α} {f : α → Prog β} {c : Cluster}
    (first : Fixes P ok p c) (rest : ∀ a t, Reaches P p c t (pure a) c → Fixes P ok (f a) c) :
    Fixes P ok (p.bind f) c := by
  intro t q c' h
  rcases reaches_bind h with ⟨p', -, within⟩ | ⟨a, t₁, c₁, t₂, rfl, returned, after⟩
  · exact first _ _ _ within
  · obtain ⟨rfl, early⟩ := first _ _ _ returned
    obtain ⟨rfl, late⟩ := rest a t₁ returned _ _ _ after
    refine ⟨rfl, fun r made => ?_⟩
    rcases List.mem_append.mp made with made | made
    · exact early r made
    · exact late r made

end Prog

end Zenith
