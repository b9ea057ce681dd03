import Zenith.Reaches

/-!
# The calls the reconciler makes

The reconciler's calls to the Kubernetes API (through easykube), to Helm, to `os.urandom` and to
an identity provider, each as a program making one request, with the response it returns.  A call
that returns a value decodes its response (`ask`); one lemma says what a program that continues
after any such call can do.
-/

namespace Zenith

namespace Prog

variable {β : Type} {P : Platform}

/-- A call that returns what its response decodes to, and raises on any other response. -/
def ask {α : Type} (r : Request) (decode : Response → Option α) : Prog α := do
  match decode (← request r) with
  | some a => pure a
  | none => raise .apiError

/-- `resource.fetch(name)`: the object, or `None` where the API answers 404. -/
def fetch (key : Key) : Prog (Option Manifest) :=
  ask (.fetch key) fun | .object found => some found | _ => none

/-- `resource.list(labels = selector)`: the names of the objects it selects. -/
def list (kind : Kind) (selector : Dict LabelValue) : Prog (Finset String) :=
  ask (.list kind selector) fun | .names names => some names | _ => none

/-- `base64.urlsafe_b64encode(os.urandom(32)).decode()`. -/
def urandom : Prog String :=
  ask .urandom fun | .random value => some value | _ => none

/-- Dynamic client registration at an issuer: the discovery request and the registration
request, returning the client id and secret. -/
def registerClient (registration : ClientRegistration) : Prog (String × String) :=
  ask (.registerClient registration) fun
    | .client clientId clientSecret => some (clientId, clientSecret)
    | _ => none

/-- A call made for its effect: a create, replace, patch or delete, a release install or
uninstall. -/
def send (r : Request) : Prog Unit := do
  let _ ← request r

@[simp] theorem always_request_bind {ok : Request → Prop} {r : Request} {f : Response → Prog β} :
    ((request r).bind f).Always ok ↔ ok r ∧ ∀ x, (f x).Always ok := by
  constructor
  · intro h
    exact ⟨h.1, fun x => h.2 (.ok x)⟩
  · intro h
    refine ⟨h.1, fun x => ?_⟩
    cases x with
    | ok x => exact h.2 x
    | error e => trivial

theorem reaches_send_bind {r : Request} {f : Unit → Prog β} {c c' : Cluster} {t : List Event}
    {q : Prog β} (h : Reaches P ((send r).bind f) c t q c') :
    (t = [] ∧ q = (send r).bind f ∧ c' = c) ∨
      (∃ e, t = [.request r] ∧ q = raise e ∧ c' = c) ∨
      ∃ answer x c₁ t', r.apply P answer c = (c₁, .ok x) ∧ t = .request r :: t' ∧
        Reaches P (f ()) c₁ t' q c' := by
  unfold send at h ⊢
  simp only [bind_eq, bind_assoc', pure_bind'] at h ⊢
  rcases reaches_request_bind h with stopped | failed | ⟨answer, x, t', ok, rfl, rest⟩
  · exact .inl stopped
  · exact .inr (.inl failed)
  · refine .inr (.inr ⟨answer, x, _, t', ?_, rfl, rest⟩)
    rw [← perform_ok ok, ← ok]

/-- A call followed by more of the program that returns went through, its response decoded,
and the rest ran from the call's effect. -/
theorem reaches_ask_bind_pure {α : Type} {decode : Response → Option α} {r : Request}
    {f : α → Prog β} {c c' : Cluster} {t : List Event} {b : β}
    (h : Reaches P ((ask r decode).bind f) c t (pure b) c') :
    ∃ answer c₁ x a t', r.apply P answer c = (c₁, .ok x) ∧ decode x = some a ∧
      t = .request r :: t' ∧ Reaches P (f a) c₁ t' (pure b) c' := by
  simp only [ask, bind_eq, bind_assoc'] at h
  obtain ⟨answer, x, c₁, t', applied, rfl, rest⟩ := reaches_request_bind_pure h
  cases decoded : decode x with
  | none => simp only [decoded, raise_bind, reaches_raise] at rest; cases rest.2.1
  | some a =>
    simp only [decoded, pure_bind'] at rest
    exact ⟨answer, c₁, x, a, t', applied, decoded, rfl, rest⟩

theorem reaches_send_bind_pure {r : Request} {f : Unit → Prog β} {c c' : Cluster}
    {t : List Event} {b : β} (h : Reaches P ((send r).bind f) c t (pure b) c') :
    ∃ answer x c₁ t', r.apply P answer c = (c₁, .ok x) ∧ t = .request r :: t' ∧
      Reaches P (f ()) c₁ t' (pure b) c' := by
  rcases reaches_send_bind h with ⟨-, stopped, -⟩ | ⟨e, -, stopped, -⟩ | through
  · cases stopped
  · cases stopped
  · exact through

@[simp] theorem always_ask {α : Type} {ok : Request → Prop} {r : Request}
    {decode : Response → Option α} : (ask r decode).Always ok ↔ ok r := by
  simp only [ask, bind_eq, always_request_bind, and_iff_left_iff_imp]
  intro _ x
  cases decode x <;> trivial

@[simp] theorem always_send {ok : Request → Prop} {r : Request} : (send r).Always ok ↔ ok r := by
  simp [send]

theorem reaches_send_pure {r : Request} {c c' : Cluster} {t : List Event}
    (h : Reaches P (send r) c t (pure ()) c') :
    ∃ answer x, r.apply P answer c = (c', .ok x) ∧ t = [.request r] := by
  rw [← bind_pure' (send r)] at h
  obtain ⟨answer, x, c₁, t', applied, rfl, done⟩ := reaches_send_bind_pure h
  obtain ⟨rfl, -, rfl⟩ := reaches_pure.mp done
  exact ⟨answer, x, applied, rfl⟩

/-- A call whose effect on `c` is none changes nothing. -/
theorem fixes_send {ok : Request → Prop} {r : Request} {c : Cluster}
    (unchanged : ∀ answer, (r.apply P answer c).1 = c) (allowed : ok r) :
    Fixes P ok (send r) c := by
  intro t q c' h
  rw [← bind_pure' (send r)] at h
  rcases reaches_send_bind h with ⟨rfl, -, rfl⟩ | ⟨e, rfl, -, rfl⟩ |
    ⟨answer, x, c₁, t', applied, rfl, rest⟩
  · simp
  · simpa using allowed
  · obtain ⟨rfl, -, rfl⟩ := reaches_pure.mp rest
    refine ⟨(congrArg Prod.fst applied).symm.trans (unchanged answer), ?_⟩
    simpa using allowed

end Prog

theorem apply_createOrPatch {P : Platform} {answer : Answer} {c c₁ : Cluster} {key : Key}
    {stringData : Dict Value} {x : Response}
    (applied : Request.apply P answer c (.createOrPatch key stringData) = (c₁, .ok x)) :
    ∃ m, patchStringData P (c.get key) stringData = some m ∧ c₁ = c.set key m := by
  simp only [Request.apply] at applied
  split at applied
  · next m patched =>
    cases applied
    exact ⟨m, patched, rfl⟩
  · cases applied

end Zenith
