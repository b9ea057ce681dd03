import Zenith.Reconcile

/-!
# Reconciling again

A completed `_reconcile_service` leaves the cluster `Reconciled` for the registration, whatever
it started from.  From a reconciled cluster, another reconcile of the same registration, however
it is answered and wherever it stops, changes nothing: every object it writes already holds what
it writes; the OIDC record it reads is complete, so it neither registers a client nor writes the
record; and the release it installs already carries the record's values.

Re-registering under a name replaces what an earlier registration wrote for the Service,
Endpoints and ingresses of that name, and the secrets the new registration pushes.  A certificate
an earlier registration pushed to `tls-<name>` stays, and an ingress that falls back to that
name under auto-TLS then serves it.
-/

namespace Zenith

/-- Neither a client registration nor a write to an OIDC record. -/
def LeavesOidcAlone : Request → Prop
  | .registerClient _ | .createOrPatch _ _ => False
  | _ => True

variable {P : Platform} {cfg : Config} {service : Service} {serviceDomain : String}
  {c : Cluster}

theorem fixes_pure {α : Type} (a : α) : Prog.Fixes P LeavesOidcAlone (pure a) c :=
  Prog.Fixes.of_always trivial

theorem writeTlsCert_fixes (tls : TlsReconciled cfg service c) :
    Prog.Fixes P LeavesOidcAlone (writeTlsCert cfg service) c := by
  unfold writeTlsCert
  split
  · next pushed =>
    obtain ⟨cert, key, hcert, hkey, stored⟩ := tls.cert pushed
    simp only [Dict.getItem_eq_ok.mpr hcert, Dict.getItem_eq_ok.mpr hkey, Prog.ofExcept,
      Prog.bind_eq, Prog.pure_bind']
    exact Prog.fixes_send (fun _ => Store.set_of_get stored) trivial
  · exact fixes_pure ()

theorem writeTlsClientCa_fixes (tls : TlsReconciled cfg service c) :
    Prog.Fixes P LeavesOidcAlone (writeTlsClientCa cfg service) c := by
  unfold writeTlsClientCa
  split
  · next pushed =>
    obtain ⟨ca, hca, stored⟩ := tls.clientCa pushed
    simp only [Dict.getItem_eq_ok.mpr hca, Prog.ofExcept, Prog.bind_eq, Prog.pure_bind']
    exact Prog.fixes_send (fun _ => Store.set_of_get stored) trivial
  · exact fixes_pure ()

/-- On a settled record the record call only reads, and returns the stored values. -/
theorem reconcileOidcSecret_settled (cfg : Config) (serviceDomain : String)
    {releaseName issuer : String} {creds : Value × Value × Value}
    (issued : issuerOf service.config = .ok issuer)
    (settled : RecordSettled P service.config c (recordKey P releaseName issuer) creds) :
    Prog.Fixes P LeavesOidcAlone (reconcileOidcSecret P cfg releaseName service serviceDomain) c ∧
      ∀ t a c', Prog.Reaches P (reconcileOidcSecret P cfg releaseName service serviceDomain) c t
        (pure a) c' → a = creds := by
  obtain ⟨d, read, returned, named⟩ := settled
  have updated : ∀ t d' c', Prog.Reaches P (readRecordAt P (recordKey P releaseName issuer)) c t
      (pure d') c' → updateRecord cfg service issuer serviceDomain
        (recordKey P releaseName issuer) d' = pure creds := by
    intro t d' c' reached
    obtain ⟨rfl, read'⟩ := readRecordAt_returns reached
    rw [read, Except.ok.injEq] at read'
    subst read'
    exact updateRecord_settled returned named
  rw [reconcileOidcSecret_eq issued]
  refine ⟨(Prog.Fixes.of_always ?_).bind fun d' t reached => ?_, fun t a c' h => ?_⟩
  · exact Prog.Always.bind (Prog.always_ask.mpr ⟨trivial, trivial⟩) fun _ => by simp
  · rw [updated _ _ _ reached]
    exact fixes_pure creds
  · obtain ⟨d', t₁, c₁, t₂, -, reached, rest⟩ := Prog.reaches_bind_pure h
    rw [updated _ _ _ reached] at rest
    obtain ⟨-, same, -⟩ := Prog.reaches_pure.mp rest
    cases same
    rfl

theorem applyOidcProxy_fixes (uses : usesOidc service = true)
    (oidc : OidcReconciled P cfg service serviceDomain c) :
    Prog.Fixes P LeavesOidcAlone (applyOidcProxy P cfg service serviceDomain) c := by
  obtain ⟨⟨issuer, cookieSecret, clientId, clientSecret, config, checksum, issued, settled,
    configured, release⟩, ingress⟩ := oidc
  obtain ⟨fixes, returns⟩ := reconcileOidcSecret_settled cfg serviceDomain issued settled
  rw [applyOidcProxy, if_pos uses]
  simp only [reconcileOidcProxy, Prog.bind_eq]
  refine (fixes.bind fun creds t reached => ?_).bind fun _ _ _ =>
    Prog.fixes_send (fun _ => Store.set_of_get ingress) trivial
  obtain rfl := returns _ _ _ reached
  simp only [configured, Prog.ofExcept, Prog.pure_bind']
  exact Prog.fixes_send (fun _ => Store.set_of_get release) trivial

theorem applyOidcProxy_fixes_removed (uses : usesOidc service = false)
    (removed : c.get (.ingresses, oidcReleaseName service) = none ∧
      c.get (.releases, oidcReleaseName service) = none) :
    Prog.Fixes P LeavesOidcAlone (applyOidcProxy P cfg service serviceDomain) c := by
  rw [applyOidcProxy, if_neg (by simp [uses])]
  exact Prog.Fixes.bind (Prog.fixes_send (fun _ => Store.erase_of_get removed.1) trivial)
    fun _ _ _ => Prog.fixes_send (fun _ => Store.erase_of_get removed.2) trivial

/-- From a reconciled cluster, a reconcile of the same registration changes nothing and neither
registers a client nor writes an OIDC record, however it is answered and wherever it stops. -/
theorem reconcileService_fixes (settled : Reconciled P cfg service c) :
    Prog.Fixes P LeavesOidcAlone (reconcileService P cfg service) c := by
  obtain ⟨services, endpoints, ⟨ingress, built, written⟩, tls, oidc, noOidc⟩ := settled
  have oidcFixes : Prog.Fixes P LeavesOidcAlone
      (applyOidcProxy P cfg service (serviceDomainOf cfg service)) c := by
    cases uses : usesOidc service
    · exact applyOidcProxy_fixes_removed uses (noOidc uses)
    · exact applyOidcProxy_fixes uses (oidc uses)
  simp only [reconcileService, applyTls, applyAuth, Prog.bind_eq, Prog.bind_assoc']
  refine (Prog.Fixes.of_always (by simp [Prog.emit])).bind fun _ _ _ =>
    Prog.Fixes.bind (Prog.fixes_send (fun _ => Store.set_of_get services) trivial) fun _ _ _ =>
    Prog.Fixes.bind (Prog.fixes_send (fun _ => Store.set_of_get endpoints) trivial) fun _ _ _ =>
    (Prog.Fixes.of_always ((applyReadTimeout_requests P service _).mono fun _ => False.elim)).bind
      fun i₁ _ timedOut => (writeTlsCert_fixes tls).bind fun _ _ _ =>
      (writeTlsClientCa_fixes tls).bind fun _ _ _ => oidcFixes.bind fun _ _ _ =>
      (Prog.Fixes.of_always (Prog.always_ofExcept _ _)).bind fun edits _ authenticated =>
        Prog.fixes_send (fun _ => Store.set_of_get ?_) trivial
  obtain ⟨-, timedOut⟩ := applyReadTimeout_returns timedOut
  obtain ⟨authenticated, -⟩ := Prog.reaches_ofExcept_pure authenticated
  have : serviceIngress P cfg service =
      .ok { tlsIngress cfg service (serviceDomainOf cfg service) i₁ with
        edits := (tlsIngress cfg service (serviceDomainOf cfg service) i₁).edits ++ edits } := by
    rw [serviceIngress, timedOut, authenticated]
    rfl
  rw [built, Except.ok.injEq] at this
  rw [← this]
  exact written

/-- **Idempotence of `_reconcile_service`.**  After a completed reconcile, another of the same
registration, however answered and wherever it stops, changes no object, record or release, and
makes no client registration and no write to an OIDC record. -/
theorem reconcileService_idempotent {c c₁ c₂ : Cluster} {t₁ t₂ : List Event} {q : Prog Unit}
    (first : Prog.Reaches P (reconcileService P cfg service) c t₁ (pure ()) c₁)
    (second : Prog.Reaches P (reconcileService P cfg service) c₁ t₂ q c₂) :
    c₂ = c₁ ∧ ∀ r, .request r ∈ t₂ → LeavesOidcAlone r :=
  reconcileService_fixes (reconcileService_returns first) t₂ q c₂ second

/-- An OIDC registration reconciled twice from an empty namespace, with a client registered on
the first run. -/
theorem reconcileService_idempotent_oidc :
    let service : Service := ⟨"web", [⟨"10.0.0.1", 8080⟩],
      (Dict.empty.set "auth-type" (.str "oidc")).set "auth-oidc-issuer" (.str "https://idp")⟩
    let env : Env := Stream'.const ⟨false, "cookie", ("client", "secret")⟩
    let first := (reconcileService Platform.plain default service).run Platform.plain env
      Store.empty
    let second := (reconcileService Platform.plain default service).run Platform.plain first.env
      first.cluster
    second.cluster = first.cluster ∧ ∀ r, .request r ∈ second.trace → LeavesOidcAlone r :=
  reconcileService_idempotent (Prog.reaches_run_ok rfl) (Prog.reaches_run _ _ _)

/-- What two clusters share once each has completed a reconcile of the registration: its
Service, Endpoints and ingress, its `_oidc` ingress, whether its oauth2-proxy release exists,
and the secrets of the certificate and the client CA it pushes. -/
structure SameReconciled (service : Service) (c d : Cluster) : Prop where
  services : c.get (.services, service.name) = d.get (.services, service.name)
  endpoints : c.get (.endpoints, service.name) = d.get (.endpoints, service.name)
  ingresses : c.get (.ingresses, service.name) = d.get (.ingresses, service.name)
  oidcIngress : c.get (.ingresses, oidcReleaseName service) =
    d.get (.ingresses, oidcReleaseName service)
  release : (c.get (.releases, oidcReleaseName service)).isSome =
    (d.get (.releases, oidcReleaseName service)).isSome
  cert : service.config.contains "tls-cert" →
    c.get (.secrets, s!"tls-{service.name}") = d.get (.secrets, s!"tls-{service.name}")
  clientCa : service.config.contains "tls-client-ca" →
    c.get (.secrets, s!"tls-client-ca-{service.name}") =
      d.get (.secrets, s!"tls-client-ca-{service.name}")

/-- Two completed reconciles of a registration agree on what it writes. -/
theorem reconcileService_same {c c' d d' : Cluster} {t u : List Event}
    (one : Prog.Reaches P (reconcileService P cfg service) c t (pure ()) c')
    (other : Prog.Reaches P (reconcileService P cfg service) d u (pure ()) d') :
    SameReconciled service c' d' := by
  have left := reconcileService_returns one
  have right := reconcileService_returns other
  obtain ⟨ingress, built, written⟩ := left.ingresses
  obtain ⟨ingress', built', written'⟩ := right.ingresses
  rw [built, Except.ok.injEq] at built'
  subst built'
  have oidcBoth : c'.get (.ingresses, oidcReleaseName service) =
      d'.get (.ingresses, oidcReleaseName service) ∧
      (c'.get (.releases, oidcReleaseName service)).isSome =
        (d'.get (.releases, oidcReleaseName service)).isSome := by
    cases uses : usesOidc service
    · rw [(left.noOidc uses).1, (left.noOidc uses).2, (right.noOidc uses).1,
        (right.noOidc uses).2]
      exact ⟨rfl, rfl⟩
    · obtain ⟨⟨_, _, _, _, _, _, -, -, -, release⟩, ingress⟩ := left.oidc uses
      obtain ⟨⟨_, _, _, _, _, _, -, -, -, release'⟩, ingress'⟩ := right.oidc uses
      rw [ingress, ingress', release, release']
      exact ⟨rfl, rfl⟩
  refine ⟨by rw [left.services, right.services], by rw [left.endpoints, right.endpoints],
    by rw [written, written'], oidcBoth.1, oidcBoth.2, fun pushed => ?_, fun pushed => ?_⟩
  · obtain ⟨cert, key, hcert, hkey, stored⟩ := left.tls.cert pushed
    obtain ⟨cert', key', hcert', hkey', stored'⟩ := right.tls.cert pushed
    rw [hcert, Option.some_inj] at hcert'
    rw [hkey, Option.some_inj] at hkey'
    rw [stored, stored', hcert', hkey']
  · obtain ⟨ca, hca, stored⟩ := left.tls.clientCa pushed
    obtain ⟨ca', hca', stored'⟩ := right.tls.clientCa pushed
    rw [hca, Option.some_inj] at hca'
    rw [stored, stored', hca']

/-- A reconcile of a registration that pushes no certificate never writes `tls-<name>`. -/
theorem reconcileService_within_unpushed (unpushed : service.config.contains "tls-cert" = false) :
    (reconcileService P cfg service).Always
      (Request.Within (· ≠ ((.secrets, s!"tls-{service.name}") : Key))) := by
  have other : ∀ k, k = ((.secrets, s!"tls-client-ca-{service.name}") : Key) ∨
      OidcFoot P service k → k ≠ (.secrets, s!"tls-{service.name}") := by
    rintro _ (rfl | rfl | rfl | ⟨issuer, rfl⟩) same
    · exact tls_ne_clientCa _ (Prod.mk.inj same).2.symm
    · cases same
    · cases same
    · simp only [recordKey, oidcReleaseName, toString, String.append_empty, Prod.mk.injEq,
        true_and] at same
      exact tls_ne_record issuer same.symm
  have tls : ∀ serviceDomain ingress, (applyTls cfg service serviceDomain ingress).Always
      (Request.Within (· ≠ ((.secrets, s!"tls-{service.name}") : Key))) := fun _ _ =>
    Prog.Always.bind (by rw [writeTlsCert, if_neg (by rw [unpushed]; decide)]; trivial) fun _ =>
      ((writeTlsClientCa_within cfg service).mono fun _ =>
        Request.Within.mono fun k inFoot => other k (.inl inFoot)).bind fun _ => trivial
  simp only [reconcileService, Prog.bind_eq, Prog.emit, Prog.log_bind, Prog.pure_bind',
    Prog.always_log]
  exact Prog.Always.bind (Prog.always_send.mpr (by simp [Request.Within])) fun _ =>
    Prog.Always.bind (Prog.always_send.mpr (by simp [Request.Within])) fun _ =>
      ((applyReadTimeout_requests P service _).mono fun _ => False.elim).bind fun _ =>
        (tls _ _).bind fun _ => ((applyAuth_within P cfg service _ _).mono fun _ =>
          Request.Within.mono fun k inFoot => other k (.inr inFoot)).bind fun _ =>
            Prog.always_send.mpr (by simp [Request.Within])

/-- A TLS section the service's settings name is in the ingress `_apply_tls` leaves. -/
theorem setTLS_mem_tlsIngress {secretName serviceDomain : String} {ingress : Ingress}
    (named : tlsSecretName cfg service = some secretName) :
    .setTLS [⟨[serviceDomain], secretName⟩] ∈
      (tlsIngress cfg service serviceDomain ingress).edits := by
  simp only [tlsIngress, named]
  split_ifs <;> simp [Ingress.edit]

/-- **Re-registration replaces.**  Two completed reconciles of a registration agree on what it
writes, the Endpoints list exactly its endpoints, and one that pushes no certificate leaves
`tls-<name>` as it was, which under auto-TLS with no shared secret is what its ingress names. -/
theorem reconcileService_replaces {c c' d d' : Cluster} {t u : List Event}
    (one : Prog.Reaches P (reconcileService P cfg service) c t (pure ()) c')
    (other : Prog.Reaches P (reconcileService P cfg service) d u (pure ()) d') :
    SameReconciled service c' d' ∧
      c'.get (.endpoints, service.name) =
        some ⟨labels cfg (.exact service.name), Dict.empty, .endpoints service.endpoints⟩ ∧
      (service.config.contains "tls-cert" = false →
        c'.get (.secrets, s!"tls-{service.name}") = c.get (.secrets, s!"tls-{service.name}") ∧
        (cfg.ingress.tls.enabled = true → cfg.ingress.tls.secretName = "" →
          ∃ ingress, c'.get (.ingresses, service.name) =
              some ⟨labels cfg (.exact service.name), Dict.empty, .ingress ingress⟩ ∧
            .setTLS [⟨[serviceDomainOf cfg service], s!"tls-{service.name}"⟩] ∈
              ingress.edits)) := by
  have left := reconcileService_returns one
  refine ⟨reconcileService_same one other, left.endpoints, fun unpushed =>
    ⟨(reconcileService_within_unpushed unpushed).reaches_get one (not_not.mpr rfl),
      fun enabled shared => ?_⟩⟩
  obtain ⟨ingress, built, written⟩ := left.ingresses
  obtain ⟨i, edits, -, -, rfl⟩ := serviceIngress_eq_ok built
  have named : tlsSecretName cfg service = some s!"tls-{service.name}" := by
    simp [tlsSecretName, unpushed, enabled, shared]
  exact ⟨_, written, List.mem_append_left _ (setTLS_mem_tlsIngress named)⟩

/-- A registration moved to another endpoint, reconciled over the earlier one and alone. -/
theorem reconcileService_replaces_moved :
    let earlier : Service := ⟨"web", [⟨"10.0.0.1", 8080⟩], Dict.empty⟩
    let moved : Service := ⟨"web", [⟨"10.0.0.2", 9090⟩], Dict.empty⟩
    let env : Env := Stream'.const ⟨false, "", ("", "")⟩
    let first := (reconcileService Platform.plain default earlier).run Platform.plain env
      Store.empty
    let second := (reconcileService Platform.plain default moved).run Platform.plain first.env
      first.cluster
    let alone := (reconcileService Platform.plain default moved).run Platform.plain env
      Store.empty
    SameReconciled moved second.cluster alone.cluster ∧
      second.cluster.get (.endpoints, moved.name) =
        some ⟨labels default (.exact moved.name), Dict.empty, .endpoints moved.endpoints⟩ ∧
      (moved.config.contains "tls-cert" = false →
        second.cluster.get (.secrets, s!"tls-{moved.name}") =
          first.cluster.get (.secrets, s!"tls-{moved.name}") ∧
        ((default : Config).ingress.tls.enabled = true →
          (default : Config).ingress.tls.secretName = "" →
          ∃ ingress, second.cluster.get (.ingresses, moved.name) =
              some ⟨labels default (.exact moved.name), Dict.empty, .ingress ingress⟩ ∧
            .setTLS [⟨[serviceDomainOf default moved], s!"tls-{moved.name}"⟩] ∈ ingress.edits)) :=
  reconcileService_replaces (Prog.reaches_run_ok rfl) (Prog.reaches_run_ok rfl)

/-- A certificate withdrawn under auto-TLS with no shared secret: the registration without it
names `tls-web` for its ingress, and reconciled over the one that pushed the certificate, leaves
that certificate in `tls-web`, where reconciled alone it leaves no such secret. -/
theorem reconcileService_stale_certificate :
    let cfg : Config := { (default : Config) with
      ingress := { (default : IngressConfig) with tls := { (default : TLSConfig) with
        enabled := true } } }
    let pushed : Service := ⟨"web", [],
      (Dict.empty.set "tls-cert" (.str "CERT")).set "tls-key" (.str "KEY")⟩
    let withdrawn : Service := ⟨"web", [], Dict.empty⟩
    let env : Env := Stream'.const ⟨false, "", ("", "")⟩
    let first := (reconcileService Platform.plain cfg pushed).run Platform.plain env Store.empty
    let second := (reconcileService Platform.plain cfg withdrawn).run Platform.plain first.env
      first.cluster
    let alone := (reconcileService Platform.plain cfg withdrawn).run Platform.plain env
      Store.empty
    first.result = .ok () ∧ second.result = .ok () ∧ alone.result = .ok () ∧
      tlsSecretName cfg withdrawn = some "tls-web" ∧
      second.cluster.get (.secrets, "tls-web") =
        some (tlsSecretManifest cfg pushed (.str "CERT") (.str "KEY")) ∧
      alone.cluster.get (.secrets, "tls-web") = none :=
  ⟨rfl, rfl, rfl, rfl, rfl, rfl⟩

end Zenith
