import Zenith.Reconcile

/-!
# Which authentication an ingress gets

`_apply_auth` configures authentication on the service's ingress under two guards: the OIDC
proxy where `skip-auth` is falsy and `auth-type` equals `"oidc"`, the external auth service where
`skip-auth` is falsy, `auth-type` equals `"external"` and an external auth URL is configured.
The guards exclude each other, so the ingress a completed reconcile writes carries at most one
`configure_authentication`; where neither guard holds (an `auth-type` of any other value, or a
`skip-auth` that is truthy without being `True`), it carries none.
-/

namespace Zenith

/-- `configure_authentication`, as opposed to the other edits. -/
def IngressEdit.isAuthentication : IngressEdit → Bool
  | .configureAuthentication .. => true
  | _ => false

/-- The authentication edits of an ingress, in order. -/
def Ingress.authentication (ingress : Ingress) : List IngressEdit :=
  ingress.edits.filter IngressEdit.isAuthentication

@[simp] theorem Ingress.authentication_edit (ingress : Ingress) (e : IngressEdit) :
    (ingress.edit e).authentication =
      ingress.authentication ++ if e.isAuthentication then [e] else [] := by
  simp only [authentication, edit, List.filter_append, List.filter_cons, List.filter_nil]

theorem protocolIngress_authentication (cfg : Config) (service : Service) :
    (protocolIngress cfg service).authentication = [] := rfl

theorem readTimeoutIngress_authentication {P : Platform} {service : Service}
    {ingress ingress' : Ingress} (ok : readTimeoutIngress P service ingress = .ok ingress') :
    ingress'.authentication = ingress.authentication := by
  unfold readTimeoutIngress at ok
  split at ok <;> cases ok <;> simp [IngressEdit.isAuthentication]

theorem tlsIngress_authentication (cfg : Config) (service : Service) (serviceDomain : String)
    (ingress : Ingress) :
    (tlsIngress cfg service serviceDomain ingress).authentication = ingress.authentication := by
  unfold tlsIngress
  split_ifs <;> split <;> simp [IngressEdit.isAuthentication]

/-- The two guards of `_apply_auth` exclude each other. -/
theorem usesExternalAuth_of_usesOidc {cfg : Config} {service : Service}
    (uses : usesOidc service = true) : usesExternalAuth cfg service = false := by
  simp only [usesOidc, Bool.and_eq_true, decide_eq_true_eq] at uses
  simp [usesExternalAuth, uses.2]

/-- The edits of `_apply_auth`: the OIDC proxy's, the external service's, or none. -/
theorem authentication_cases {cfg : Config} {service : Service} {edits : List IngressEdit}
    (ok : authentication cfg service = .ok edits) :
    (usesOidc service = true → edits = [oidcAuthentication cfg (oidcReleaseName service)]) ∧
      (usesExternalAuth cfg service = true →
        ∃ headers, externalRequestHeaders cfg service = .ok headers ∧
          edits = [externalAuthentication cfg headers]) ∧
      (usesOidc service = false → usesExternalAuth cfg service = false → edits = []) := by
  refine ⟨fun uses => ?_, fun uses => ?_, fun noOidc noExternal => ?_⟩
  · simp only [authentication, usesExternalAuth_of_usesOidc uses, uses, ↓reduceIte, pure,
      Except.pure, Except.ok.injEq, Bool.false_eq_true] at ok
    exact ok.symm
  · have noOidc : usesOidc service = false := by
      cases oidc : usesOidc service
      · rfl
      · simp [usesExternalAuth_of_usesOidc oidc] at uses
    cases headers : externalRequestHeaders cfg service <;>
      simp only [authentication, uses, noOidc, headers, ↓reduceIte, bind, Except.bind, pure,
        Except.pure, reduceCtorEq, Except.ok.injEq, Bool.false_eq_true, List.nil_append] at ok
    exact ⟨_, rfl, ok.symm⟩
  · simp only [authentication, noOidc, noExternal, ↓reduceIte, pure, Except.pure,
      Except.ok.injEq, Bool.false_eq_true] at ok
    exact ok.symm

/-- Every edit `_apply_auth` makes is a `configure_authentication`. -/
theorem authentication_authentication {cfg : Config} {service : Service}
    {edits : List IngressEdit} (ok : authentication cfg service = .ok edits) :
    edits.filter IngressEdit.isAuthentication = edits := by
  obtain ⟨oidc, external, none⟩ := authentication_cases ok
  cases uses : usesOidc service
  · cases usesExternal : usesExternalAuth cfg service
    · rw [none uses usesExternal]
      rfl
    · obtain ⟨headers, -, rfl⟩ := external usesExternal
      rfl
  · rw [oidc uses]
    rfl

/-- The ingress `_reconcile_service` builds carries exactly the edits of `_apply_auth` as its
authentication. -/
theorem serviceIngress_authentication {P : Platform} {cfg : Config} {service : Service}
    {ingress : Ingress} (ok : serviceIngress P cfg service = .ok ingress) :
    ∃ edits, authentication cfg service = .ok edits ∧ ingress.authentication = edits := by
  unfold serviceIngress at ok
  cases timedOut : readTimeoutIngress P service (protocolIngress cfg service) with
  | error e => simp [timedOut, bind, Except.bind] at ok
  | ok i =>
    cases authenticated : authentication cfg service with
    | error e => simp [timedOut, authenticated, bind, Except.bind] at ok
    | ok edits =>
      simp only [timedOut, authenticated, bind, Except.bind, pure, Except.pure,
        Except.ok.injEq] at ok
      subst ok
      refine ⟨edits, rfl, ?_⟩
      simp only [Ingress.authentication, List.filter_append] at *
      rw [authentication_authentication authenticated]
      have tls := tlsIngress_authentication cfg service (serviceDomainOf cfg service) i
      rw [Ingress.authentication, readTimeoutIngress_authentication timedOut,
        protocolIngress_authentication] at tls
      simp [tls]

/-- **Authentication of the written ingress.**  The written ingress carries one
`configure_authentication`, to oauth2-proxy or to the external auth URL, exactly where `skip-auth`
is falsy and `auth-type` asks for it (and an external URL is configured), and none otherwise. -/
theorem reconcileService_authentication {P : Platform} {cfg : Config} {service : Service}
    {c c' : Cluster} {t : List Event}
    (h : Prog.Reaches P (reconcileService P cfg service) c t (pure ()) c') :
    ∃ ingress, c'.get (.ingresses, service.name) = some (ingressManifest cfg service ingress) ∧
      (usesOidc service = true →
        ingress.authentication = [oidcAuthentication cfg s!"oidc-{service.name}"]) ∧
      (usesExternalAuth cfg service = true → ∃ headers,
        ingress.authentication = [externalAuthentication cfg headers]) ∧
      (usesOidc service = false → usesExternalAuth cfg service = false →
        ingress.authentication = []) := by
  obtain ⟨ingress, built, written⟩ := (reconcileService_returns h).ingresses
  obtain ⟨edits, ok, rfl⟩ := serviceIngress_authentication built
  obtain ⟨oidc, external, none⟩ := authentication_cases ok
  refine ⟨ingress, written, oidc, fun uses => ?_, none⟩
  obtain ⟨headers, -, same⟩ := external uses
  exact ⟨headers, same⟩

/-- A registration with the default auth type, reconciled with no failures, gets the external
auth service. -/
theorem reconcileService_authentication_external :
    let cfg : Config := { (default : Config) with
      ingress := { (default : IngressConfig) with
        externalAuth := { (default : ExternalAuthConfig) with url := "https://auth.example" } } }
    let service : Service := ⟨"web", [], Dict.empty⟩
    let o := (reconcileService Platform.plain cfg service).run Platform.plain
      (Stream'.const ⟨false, "", ("", "")⟩) Store.empty
    ∃ ingress,
      o.cluster.get (.ingresses, service.name) = some (ingressManifest cfg service ingress) ∧
      (usesOidc service = true →
        ingress.authentication = [oidcAuthentication cfg s!"oidc-{service.name}"]) ∧
      (usesExternalAuth cfg service = true → ∃ headers,
        ingress.authentication = [externalAuthentication cfg headers]) ∧
      (usesOidc service = false → usesExternalAuth cfg service = false →
        ingress.authentication = []) :=
  reconcileService_authentication (Prog.reaches_run_ok rfl)

/-- An `auth-type` of `"OIDC"` with an external auth URL configured: the reconcile completes
and writes the ingress without any authentication. -/
theorem reconcileService_unauthenticated :
    let cfg : Config := { (default : Config) with
      ingress := { (default : IngressConfig) with
        externalAuth := { (default : ExternalAuthConfig) with url := "https://auth.example" } } }
    let service : Service := ⟨"web", [], Dict.empty.set "auth-type" (.str "OIDC")⟩
    let o := (reconcileService Platform.plain cfg service).run Platform.plain
      (Stream'.const ⟨false, "", ("", "")⟩) Store.empty
    o.result = .ok () ∧ ∃ ingress,
      o.cluster.get (.ingresses, "web") = some (ingressManifest cfg service ingress) ∧
      ingress.authentication = [] :=
  ⟨rfl, _, rfl, rfl⟩

end Zenith
