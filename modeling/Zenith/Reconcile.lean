import Zenith.Record
import Zenith.Retry

/-!
# Reconciling and removing a service

`_reconcile_service` writes the service's Service and Endpoints objects, builds its ingress
(controller defaults, annotations, backend protocol, read timeout, TLS, authentication), writing
the TLS secrets and the OIDC proxy on the way, and writes the ingress last.  `_remove_service`
deletes everything labelled with the service's name, kind by kind, and the OIDC release.  The
try-methods wrap both in the retry loop of `Zenith.Retry`.

The ingress is a dictionary that the Python code mutates between its requests; nothing reads it
before it is written, so the model makes the requests in the source's order and collects the
mutations in pure functions (`protocolIngress`, `tlsIngress`, `authentication`).
-/

namespace Zenith


/-- `service_domain`. -/
def serviceDomainOf (cfg : Config) (service : Service) : String :=
  s!"{service.name}.{cfg.ingress.baseDomain}"

/-- `_adopt` of a Service object for the service. -/
def serviceManifest (cfg : Config) (service : Service) : Manifest :=
  ⟨labels cfg (.exact service.name), Dict.empty, .service [⟨"TCP", 80, "dynamic"⟩]⟩

/-- `_adopt` of the Endpoints object, one subset per registered endpoint. -/
def endpointsManifest (cfg : Config) (service : Service) : Manifest :=
  ⟨labels cfg (.exact service.name), Dict.empty, .endpoints service.endpoints⟩

/-- `_adopt` of the service's ingress. -/
def ingressManifest (cfg : Config) (service : Service) (ingress : Ingress) : Manifest :=
  ⟨labels cfg (.exact service.name), Dict.empty, .ingress ingress⟩

/-- The secret holding a certificate the service pushed. -/
def tlsSecretManifest (cfg : Config) (service : Service) (cert key : Value) : Manifest :=
  ⟨labels cfg (.exact service.name), Dict.empty,
    .secret ⟨some "kubernetes.io/tls", (Dict.empty.set "tls.crt" cert).set "tls.key" key⟩⟩

/-- The secret holding the CA for client certificates. -/
def clientCaManifest (cfg : Config) (service : Service) (ca : Value) : Manifest :=
  ⟨labels cfg (.exact service.name), Dict.empty, .secret ⟨none, Dict.empty.set "ca.crt" ca⟩⟩

/-- Record a mutation of an ingress. -/
def Ingress.edit (ingress : Ingress) (e : IngressEdit) : Ingress :=
  { ingress with edits := ingress.edits ++ [e] }


/-- The ingress `_reconcile_service` starts from, with the controller defaults, the custom
annotations and the backend protocol applied. -/
def protocolIngress (cfg : Config) (service : Service) : Ingress where
  className := cfg.ingress.className
  host := serviceDomainOf cfg service
  path := "/"
  serviceName := service.name
  portName := "dynamic"
  tls := none
  edits := [.configureDefaults, .updateAnnotations cfg.ingress.annotations,
    .configureBackendProtocol (service.config.getD "backend-protocol" (.str "http"))]

/-- `int(read_timeout)` for a truthy `read-timeout`; `none` where there is none. -/
def readTimeout (P : Platform) (service : Service) : Option (Except Error Int) :=
  let value := (service.config.get? "read-timeout").getD .none
  if value.truthy then some (value.toInt P.parseInt) else none

/-- The read-timeout block of `_reconcile_service`: an integer is applied, a `ValueError` is
logged and ignored, any other exception propagates. -/
def applyReadTimeout (P : Platform) (service : Service) (ingress : Ingress) : Prog Ingress :=
  match readTimeout P service with
  | none => pure ingress
  | some (.ok seconds) => pure (ingress.edit (.configureReadTimeout seconds))
  | some (.error .valueError) => do
    Prog.emit .warn "Given read timeout is not a valid integer"
    pure ingress
  | some (.error e) => Prog.raise e

/-- The ingress after the read-timeout block, or the exception it raises. -/
def readTimeoutIngress (P : Platform) (service : Service) (ingress : Ingress) :
    Except Error Ingress :=
  match readTimeout P service with
  | none => .ok ingress
  | some (.ok seconds) => .ok (ingress.edit (.configureReadTimeout seconds))
  | some (.error .valueError) => .ok ingress
  | some (.error e) => .error e

/-- The mutations `_apply_tls` makes: the TLS annotations where auto-TLS names the secret, the
TLS section, and client-certificate handling. -/
def tlsIngress (cfg : Config) (service : Service) (serviceDomain : String) (ingress : Ingress) :
    Ingress :=
  let ingress :=
    if !service.config.contains "tls-cert" && cfg.ingress.tls.enabled then
      ingress.edit (.updateAnnotations cfg.ingress.tls.annotations)
    else ingress
  let ingress :=
    match tlsSecretName cfg service with
    | some secretName => ingress.edit (.setTLS [⟨[serviceDomain], secretName⟩])
    | none => ingress
  if service.config.contains "tls-client-ca" then
    ingress.edit (.configureTLSClientCertificates cfg.targetNamespace
      s!"tls-client-ca-{service.name}")
  else ingress

/-- The first block of `_apply_tls`: a certificate the service pushed goes to `tls-<name>`. -/
def writeTlsCert (cfg : Config) (service : Service) : Prog Unit :=
  if service.config.contains "tls-cert" then do
    let cert ← Prog.ofExcept (service.config.getItem "tls-cert")
    let key ← Prog.ofExcept (service.config.getItem "tls-key")
    Prog.send (.createOrReplace (.secrets, s!"tls-{service.name}")
      (tlsSecretManifest cfg service cert key))
  else pure ()

/-- The last block of `_apply_tls`: a client CA goes to `tls-client-ca-<name>`. -/
def writeTlsClientCa (cfg : Config) (service : Service) : Prog Unit :=
  if service.config.contains "tls-client-ca" then do
    let ca ← Prog.ofExcept (service.config.getItem "tls-client-ca")
    Prog.send (.createOrReplace (.secrets, s!"tls-client-ca-{service.name}")
      (clientCaManifest cfg service ca))
  else pure ()

/-- `_apply_tls`: the secrets it writes, in order, and the ingress it leaves. -/
def applyTls (cfg : Config) (service : Service) (serviceDomain : String) (ingress : Ingress) :
    Prog Ingress := do
  writeTlsCert cfg service
  writeTlsClientCa cfg service
  pure (tlsIngress cfg service serviceDomain ingress)

/-- `skip_auth = service.config.get("skip-auth", False)`. -/
def skipAuth (service : Service) : Value := service.config.getD "skip-auth" (.bool false)

/-- `auth_type = service.config.get("auth-type", "external")`. -/
def authType (service : Service) : Value := service.config.getD "auth-type" (.str "external")

/-- `not skip_auth and auth_type == "oidc"`. -/
def usesOidc (service : Service) : Bool :=
  !(skipAuth service).truthy && decide (authType service = .str "oidc")

/-- `not skip_auth and auth_type == "external" and self.config.ingress.external_auth.url`. -/
def usesExternalAuth (cfg : Config) (service : Service) : Bool :=
  !(skipAuth service).truthy && decide (authType service = .str "external") &&
    !cfg.ingress.externalAuth.url.isEmpty

/-- `oidc_release_name`. -/
def oidcReleaseName (service : Service) : String := s!"oidc-{service.name}"

/-- The auth-request URL of the oauth2-proxy of a release. -/
def oidcAuthUrl (cfg : Config) (releaseName : String) : String :=
  s!"http://{releaseName}.{cfg.targetNamespace}.{cfg.clusterServicesDomain}/_oidc/auth"

/-- The `configure_authentication` call of the OIDC branch. -/
def oidcAuthentication (cfg : Config) (releaseName : String) : IngressEdit :=
  .configureAuthentication (oidcAuthUrl cfg releaseName)
    (some "https://$host/_oidc/start??rd=$escaped_request_uri&$args") none none
    ["X-Remote-User", "X-Remote-Group", "X-Access-Token"]
    (some ((List.range' 1 3).map fun i => s!"_oauth2_proxy_{i}"))

/-- The headers of the external auth request: the configured ones, then one per entry of
`auth-external-params`; a value there that is not a dictionary raises on `.items()`. -/
def externalRequestHeaders (cfg : Config) (service : Service) : Except Error (Dict String) := do
  let params ← match service.config.get? "auth-external-params" with
    | none => pure []
    | some (.dict entries) => pure entries
    | some _ => throw Error.typeError
  pure <| params.foldl (fun headers (name, value) =>
      headers.set s!"{cfg.ingress.externalAuth.paramHeaderPrefix}{name}" value)
    cfg.ingress.externalAuth.requestHeaders

/-- The `configure_authentication` call of the external-auth branch. -/
def externalAuthentication (cfg : Config) (headers : Dict String) : IngressEdit :=
  .configureAuthentication cfg.ingress.externalAuth.url cfg.ingress.externalAuth.signinUrl
    cfg.ingress.externalAuth.nextUrlParam (some headers) cfg.ingress.externalAuth.responseHeaders
    none

/-- The `configure_authentication` calls `_apply_auth` makes, in order. -/
def authentication (cfg : Config) (service : Service) : Except Error (List IngressEdit) := do
  let oidc := if usesOidc service then [oidcAuthentication cfg (oidcReleaseName service)] else []
  if usesExternalAuth cfg service then
    let headers ← externalRequestHeaders cfg service
    pure (oidc ++ [externalAuthentication cfg headers])
  else pure oidc

/-- The first block of `_apply_auth`: the oauth2-proxy and its `_oidc` ingress for a service
that uses OIDC, else their removal. -/
def applyOidcProxy (P : Platform) (cfg : Config) (service : Service) (serviceDomain : String) :
    Prog Unit :=
  if usesOidc service then do
    reconcileOidcProxy P cfg (oidcReleaseName service) service serviceDomain
    reconcileOidcIngress cfg (oidcReleaseName service) service serviceDomain
  else do
    Prog.send (.delete (.ingresses, oidcReleaseName service))
    Prog.send (.uninstallRelease (oidcReleaseName service))

/-- `_apply_auth`. -/
def applyAuth (P : Platform) (cfg : Config) (service : Service) (serviceDomain : String)
    (ingress : Ingress) : Prog Ingress := do
  applyOidcProxy P cfg service serviceDomain
  let edits ← Prog.ofExcept (authentication cfg service)
  pure { ingress with edits := ingress.edits ++ edits }

/-- The ingress `_reconcile_service` writes, or the exception building it raises. -/
def serviceIngress (P : Platform) (cfg : Config) (service : Service) : Except Error Ingress := do
  let ingress ← readTimeoutIngress P service (protocolIngress cfg service)
  let ingress := tlsIngress cfg service (serviceDomainOf cfg service) ingress
  let edits ← authentication cfg service
  pure { ingress with edits := ingress.edits ++ edits }


/-- The endpoints of a registration as `_reconcile_service` logs them. -/
def endpointsText (service : Service) : String :=
  ", ".intercalate (service.endpoints.map fun endpoint => s!"{endpoint.address}:{endpoint.port}")

/-- `_reconcile_service`. -/
def reconcileService (P : Platform) (cfg : Config) (service : Service) : Prog Unit := do
  let endpoints := endpointsText service
  Prog.emit .info s!"Reconciling {service.name} [{endpoints}]"
  Prog.send (.createOrReplace (.services, service.name) (serviceManifest cfg service))
  Prog.send (.createOrReplace (.endpoints, service.name) (endpointsManifest cfg service))
  let serviceDomain := serviceDomainOf cfg service
  let ingress ← applyReadTimeout P service (protocolIngress cfg service)
  let ingress ← applyTls cfg service serviceDomain ingress
  let ingress ← applyAuth P cfg service serviceDomain ingress
  Prog.send (.createOrReplace (.ingresses, service.name) (ingressManifest cfg service ingress))

/-- `_remove_service`. -/
def removeService (cfg : Config) (name : String) : Prog Unit := do
  Prog.emit .info s!"Removing {name}"
  Prog.send (.deleteAll .ingresses (labels cfg (.exact name)))
  Prog.send (.deleteAll .endpoints (labels cfg (.exact name)))
  Prog.send (.deleteAll .services (labels cfg (.exact name)))
  Prog.send (.deleteAll .secrets (labels cfg (.exact name)))
  Prog.send (.uninstallRelease s!"oidc-{name}")

/-- The retries the model allows the loop of the try-methods: enough to reach the give-up at
attempt `reconciliation_retries`, and `retryBound` more where that never comes. -/
def retryFuel (cfg : Config) : Nat := cfg.reconciliationRetries.toNat + cfg.retryBound

/-- `_try_reconcile_service`. -/
def tryReconcileService (P : Platform) (cfg : Config) (service : Service) : Prog Unit :=
  tryOperation (Prog.emit .exception) cfg.reconciliationRetries "reconcile" service.name
    (reconcileService P cfg service) (retryFuel cfg) 1

/-- `_try_remove_service`. -/
def tryRemoveService (cfg : Config) (name : String) : Prog Unit :=
  tryOperation (Prog.emit .exception) cfg.reconciliationRetries "remove" name
    (removeService cfg name) (retryFuel cfg) 1

theorem tls_ne_clientCa (name : String) : s!"tls-{name}" ≠ s!"tls-client-ca-{name}" := by
  intro same
  have := congrArg String.length same
  simp [toString] at this
  exact absurd this (by decide)

@[simp] theorem oidcReleaseName_ne (service : Service) :
    oidcReleaseName service ≠ service.name := by
  intro same
  have := congrArg String.length same
  simp [oidcReleaseName, toString] at this
  exact absurd this (by decide)

@[simp] theorem tls_ne_record {P : Platform} {n m : String} (issuer : String) :
    "tls-" ++ n ≠ recordName P ("oidc-" ++ m) issuer := by
  intro same
  have := congrArg (fun s => s.data.head?) same
  simp [recordName, toString] at this

@[simp] theorem clientCa_ne_record {P : Platform} {n m : String} (issuer : String) :
    "tls-client-ca-" ++ n ≠ recordName P ("oidc-" ++ m) issuer := by
  intro same
  have := congrArg (fun s => s.data.head?) same
  simp [recordName, toString] at this


/-- The keys `_apply_tls` may write. -/
def TlsFoot (service : Service) (k : Key) : Prop :=
  k = (.secrets, s!"tls-{service.name}") ∨ k = (.secrets, s!"tls-client-ca-{service.name}")

/-- The keys the OIDC block of `_apply_auth` may write: the `_oidc` ingress, the release, and
the record of any issuer. -/
def OidcFoot (P : Platform) (service : Service) (k : Key) : Prop :=
  k = (.ingresses, oidcReleaseName service) ∨ k = (.releases, oidcReleaseName service) ∨
    ∃ issuer, k = recordKey P (oidcReleaseName service) issuer

/-- The secrets `_apply_tls` leaves: the certificate and the client CA the service pushed. -/
structure TlsReconciled (cfg : Config) (service : Service) (c : Cluster) : Prop where
  cert : service.config.contains "tls-cert" → ∃ cert key,
    service.config.get? "tls-cert" = some cert ∧ service.config.get? "tls-key" = some key ∧
    c.get (.secrets, s!"tls-{service.name}") = some (tlsSecretManifest cfg service cert key)
  clientCa : service.config.contains "tls-client-ca" → ∃ ca,
    service.config.get? "tls-client-ca" = some ca ∧
    c.get (.secrets, s!"tls-client-ca-{service.name}") = some (clientCaManifest cfg service ca)

/-- What a completed OIDC block leaves: the record settled for the service's config, the
release built from the record's values, and the `_oidc` ingress. -/
structure OidcReconciled (P : Platform) (cfg : Config) (service : Service) (serviceDomain : String)
    (c : Cluster) : Prop where
  record : ∃ issuer cookieSecret clientId clientSecret config checksum,
    issuerOf service.config = .ok issuer ∧
    RecordSettled P service.config c (recordKey P (oidcReleaseName service) issuer)
      (cookieSecret, clientId, clientSecret) ∧
    oauth2ProxyAlphaConfig P cfg service clientId clientSecret = .ok (config, checksum) ∧
    c.get (.releases, oidcReleaseName service) = some (releaseManifest
      (proxyRelease cfg service serviceDomain (oidcReleaseName service) cookieSecret config
        checksum))
  ingress : c.get (.ingresses, oidcReleaseName service) = some ⟨labels cfg (.exact service.name),
    Dict.empty, .ingress (oidcIngress cfg (oidcReleaseName service) service serviceDomain)⟩

section Stages

variable {P : Platform} {cfg : Config} {service : Service} {serviceDomain : String}
  {ingress ingress' : Ingress} {c c' : Cluster} {t : List Event}

/-- The read-timeout block makes no request. -/
theorem applyReadTimeout_requests (P : Platform) (service : Service) (ingress : Ingress) :
    (applyReadTimeout P service ingress).Always fun _ => False := by
  unfold applyReadTimeout
  split <;> simp [Prog.emit]

theorem applyReadTimeout_returns
    (h : Prog.Reaches P (applyReadTimeout P service ingress) c t (pure ingress') c') :
    c' = c ∧ readTimeoutIngress P service ingress = .ok ingress' := by
  refine
    ⟨((applyReadTimeout_requests P service ingress).mono fun _ => False.elim).reaches_readOnly h,
      ?_⟩
  unfold applyReadTimeout at h
  unfold readTimeoutIngress
  split at h
  · next found =>
    obtain ⟨-, same, -⟩ := Prog.reaches_pure.mp h
    cases same
    simp [found]
  · next seconds found =>
    obtain ⟨-, same, -⟩ := Prog.reaches_pure.mp h
    cases same
    simp [found]
  · next found =>
    simp only [Prog.bind_eq, Prog.emit, Prog.log_bind, Prog.pure_bind'] at h
    obtain ⟨_, -, h⟩ := Prog.reaches_log_pure h
    obtain ⟨-, same, -⟩ := Prog.reaches_pure.mp h
    cases same
    simp [found]
  · cases (Prog.reaches_raise.mp h).2.1

theorem writeTlsCert_within (cfg : Config) (service : Service) :
    (writeTlsCert cfg service).Always
      (Request.Within (· = (Kind.secrets, s!"tls-{service.name}"))) := by
  unfold writeTlsCert
  split
  · exact (Prog.always_ofExcept _ _).bind fun _ => (Prog.always_ofExcept _ _).bind fun _ =>
      Prog.always_send.mpr rfl
  · trivial

theorem writeTlsClientCa_within (cfg : Config) (service : Service) :
    (writeTlsClientCa cfg service).Always
      (Request.Within (· = (Kind.secrets, s!"tls-client-ca-{service.name}"))) := by
  unfold writeTlsClientCa
  split
  · exact (Prog.always_ofExcept _ _).bind fun _ => Prog.always_send.mpr rfl
  · trivial

theorem applyTls_within (cfg : Config) (service : Service) (serviceDomain : String)
    (ingress : Ingress) :
    (applyTls cfg service serviceDomain ingress).Always (Request.Within (TlsFoot service)) :=
  ((writeTlsCert_within cfg service).mono fun _ => Request.Within.mono fun _ => .inl).bind
    fun _ => ((writeTlsClientCa_within cfg service).mono fun _ =>
      Request.Within.mono fun _ => .inr).bind fun _ => trivial

theorem writeTlsCert_returns (h : Prog.Reaches P (writeTlsCert cfg service) c t (pure ()) c')
    (pushed : service.config.contains "tls-cert") :
    ∃ cert key, service.config.get? "tls-cert" = some cert ∧
      service.config.get? "tls-key" = some key ∧
      c' = c.set (.secrets, s!"tls-{service.name}") (tlsSecretManifest cfg service cert key) := by
  rw [writeTlsCert, if_pos pushed] at h
  simp only [Prog.bind_eq] at h
  obtain ⟨cert, t₁, c₁, t₂, -, hcert, afterCert⟩ := Prog.reaches_bind_pure h
  obtain ⟨certFound, rfl⟩ := Prog.reaches_ofExcept_pure hcert
  obtain ⟨key, t₃, c₂, t₄, -, hkey, written⟩ := Prog.reaches_bind_pure afterCert
  obtain ⟨keyFound, rfl⟩ := Prog.reaches_ofExcept_pure hkey
  obtain ⟨answer, x, applied, -⟩ := Prog.reaches_send_pure written
  exact ⟨cert, key, Dict.getItem_eq_ok.mp certFound, Dict.getItem_eq_ok.mp keyFound,
    (congrArg Prod.fst applied).symm⟩

theorem writeTlsClientCa_returns
    (h : Prog.Reaches P (writeTlsClientCa cfg service) c t (pure ()) c')
    (pushed : service.config.contains "tls-client-ca") :
    ∃ ca, service.config.get? "tls-client-ca" = some ca ∧
      c' = c.set (.secrets, s!"tls-client-ca-{service.name}")
        (clientCaManifest cfg service ca) := by
  rw [writeTlsClientCa, if_pos pushed] at h
  simp only [Prog.bind_eq] at h
  obtain ⟨ca, t₁, c₁, t₂, -, hca, written⟩ := Prog.reaches_bind_pure h
  obtain ⟨caFound, rfl⟩ := Prog.reaches_ofExcept_pure hca
  obtain ⟨answer, x, applied, -⟩ := Prog.reaches_send_pure written
  exact ⟨ca, Dict.getItem_eq_ok.mp caFound, (congrArg Prod.fst applied).symm⟩

/-- A completed `_apply_tls` leaves the service's TLS secrets and the ingress `tlsIngress`. -/
theorem applyTls_returns
    (h : Prog.Reaches P (applyTls cfg service serviceDomain ingress) c t (pure ingress') c') :
    ingress' = tlsIngress cfg service serviceDomain ingress ∧ TlsReconciled cfg service c' := by
  simp only [applyTls, Prog.bind_eq] at h
  obtain ⟨u, t₁, c₁, t₂, -, cert, afterCert⟩ := Prog.reaches_bind_pure h
  obtain ⟨v, t₃, c₂, t₄, -, clientCa, done⟩ := Prog.reaches_bind_pure afterCert
  obtain ⟨-, same, rfl⟩ := Prog.reaches_pure.mp done
  cases same
  refine ⟨rfl, fun pushed => ?_, fun pushed => ?_⟩
  · obtain ⟨certValue, key, hcert, hkey, rfl⟩ := writeTlsCert_returns cert pushed
    refine ⟨certValue, key, hcert, hkey, ?_⟩
    rw [(writeTlsClientCa_within cfg service).reaches_get clientCa (by simp [tls_ne_clientCa])]
    simp
  · obtain ⟨ca, hca, rfl⟩ := writeTlsClientCa_returns clientCa pushed
    exact ⟨ca, hca, by simp⟩

theorem applyOidcProxy_within (P : Platform) (cfg : Config) (service : Service)
    (serviceDomain : String) :
    (applyOidcProxy P cfg service serviceDomain).Always (Request.Within (OidcFoot P service)) := by
  unfold applyOidcProxy
  split
  · exact (reconcileOidcProxy_within.mono fun _ => Request.Within.mono fun _ => .inr).bind
      fun _ => Prog.always_send.mpr (.inl rfl)
  · exact Prog.always_send.mpr (.inl rfl) |>.bind fun _ => Prog.always_send.mpr (.inr (.inl rfl))

theorem applyOidcProxy_oidc (uses : usesOidc service = true)
    (h : Prog.Reaches P (applyOidcProxy P cfg service serviceDomain) c t (pure ()) c') :
    OidcReconciled P cfg service serviceDomain c' := by
  rw [applyOidcProxy, if_pos uses] at h
  simp only [Prog.bind_eq] at h
  obtain ⟨u, t₁, c₁, t₂, -, proxy, ingressWritten⟩ := Prog.reaches_bind_pure h
  obtain ⟨answer, x, applied, -⟩ := Prog.reaches_send_pure ingressWritten
  obtain ⟨t₃, c₀, cookieSecret, clientId, clientSecret, config, checksum, secret, configured,
    rfl⟩ := reconcileOidcProxy_returns proxy
  obtain ⟨issuer, issued⟩ := reconcileOidcSecret_issued secret
  obtain ⟨d, read, returned, named⟩ := settled_call issued secret
  obtain rfl := congrArg Prod.fst applied
  exact ⟨⟨issuer, cookieSecret, clientId, clientSecret, config, checksum, issued,
    ⟨d, by simpa [Request.apply, recordKey] using read, returned, named⟩, configured,
    by simp [Request.apply]⟩, by simp [Request.apply]⟩

theorem applyOidcProxy_removed (uses : usesOidc service = false)
    (h : Prog.Reaches P (applyOidcProxy P cfg service serviceDomain) c t (pure ()) c') :
    c'.get (.ingresses, oidcReleaseName service) = none ∧
      c'.get (.releases, oidcReleaseName service) = none := by
  rw [applyOidcProxy, if_neg (by simp [uses])] at h
  simp only [Prog.bind_eq] at h
  obtain ⟨answer, x, c₁, t₁, applied₁, -, uninstalled⟩ := Prog.reaches_send_bind_pure h
  obtain ⟨answer', x', applied₂, -⟩ := Prog.reaches_send_pure uninstalled
  obtain rfl := congrArg Prod.fst applied₂
  obtain rfl := congrArg Prod.fst applied₁
  simp [Request.apply]

theorem applyAuth_within (P : Platform) (cfg : Config) (service : Service)
    (serviceDomain : String) (ingress : Ingress) :
    (applyAuth P cfg service serviceDomain ingress).Always (Request.Within (OidcFoot P service)) :=
  (applyOidcProxy_within P cfg service serviceDomain).bind fun _ =>
    (Prog.always_ofExcept _ _).bind fun _ => trivial

/-- A completed `_apply_auth` has completed its OIDC block and added the authentication edits. -/
theorem applyAuth_returns
    (h : Prog.Reaches P (applyAuth P cfg service serviceDomain ingress) c t (pure ingress') c') :
    ∃ edits, authentication cfg service = .ok edits ∧
      ingress' = { ingress with edits := ingress.edits ++ edits } ∧
      ∃ t', Prog.Reaches P (applyOidcProxy P cfg service serviceDomain) c t' (pure ()) c' := by
  simp only [applyAuth, Prog.bind_eq] at h
  obtain ⟨u, t₁, c₁, t₂, -, oidc, afterOidc⟩ := Prog.reaches_bind_pure h
  obtain ⟨edits, t₃, c₂, t₄, -, authenticated, done⟩ := Prog.reaches_bind_pure afterOidc
  obtain ⟨found, rfl⟩ := Prog.reaches_ofExcept_pure authenticated
  obtain ⟨-, same, rfl⟩ := Prog.reaches_pure.mp done
  cases same
  exact ⟨edits, found, rfl, t₁, oidc⟩

end Stages

theorem TlsReconciled.frame {cfg : Config} {service : Service} {c c' : Cluster}
    (tls : TlsReconciled cfg service c) (same : ∀ k, TlsFoot service k → c'.get k = c.get k) :
    TlsReconciled cfg service c' := by
  refine ⟨fun pushed => ?_, fun pushed => ?_⟩
  · obtain ⟨cert, key, hcert, hkey, stored⟩ := tls.cert pushed
    exact ⟨cert, key, hcert, hkey, (same _ (.inl rfl)).trans stored⟩
  · obtain ⟨ca, hca, stored⟩ := tls.clientCa pushed
    exact ⟨ca, hca, (same _ (.inr rfl)).trans stored⟩

theorem OidcReconciled.frame {P : Platform} {cfg : Config} {service : Service}
    {serviceDomain : String} {c c' : Cluster} (oidc : OidcReconciled P cfg service serviceDomain c)
    (same : ∀ k, OidcFoot P service k → c'.get k = c.get k) :
    OidcReconciled P cfg service serviceDomain c' := by
  obtain ⟨⟨issuer, cookieSecret, clientId, clientSecret, config, checksum, issued,
    ⟨d, read, returned, named⟩, configured, release⟩, ingress⟩ := oidc
  refine ⟨⟨issuer, cookieSecret, clientId, clientSecret, config, checksum, issued,
    ⟨d, ?_, returned, named⟩, configured, ?_⟩, ?_⟩
  · rwa [same _ (.inr (.inr ⟨issuer, rfl⟩))]
  · rwa [same _ (.inr (.inl rfl))]
  · rwa [same _ (.inl rfl)]


/-- What a completed `_reconcile_service` leaves: the Service, the Endpoints listing the
registration's endpoints and the ingress built from it, all labelled as the service's own; its
TLS secrets; and its OIDC proxy, or no `_oidc` ingress and release. -/
structure Reconciled (P : Platform) (cfg : Config) (service : Service) (c : Cluster) : Prop where
  services : c.get (.services, service.name) =
    some ⟨labels cfg (.exact service.name), Dict.empty, .service [⟨"TCP", 80, "dynamic"⟩]⟩
  endpoints : c.get (.endpoints, service.name) =
    some ⟨labels cfg (.exact service.name), Dict.empty, .endpoints service.endpoints⟩
  ingresses : ∃ ingress, serviceIngress P cfg service = .ok ingress ∧
    c.get (.ingresses, service.name) =
      some ⟨labels cfg (.exact service.name), Dict.empty, .ingress ingress⟩
  tls : TlsReconciled cfg service c
  oidc : usesOidc service = true → OidcReconciled P cfg service (serviceDomainOf cfg service) c
  noOidc : usesOidc service = false → c.get (.ingresses, oidcReleaseName service) = none ∧
    c.get (.releases, oidcReleaseName service) = none

variable {P : Platform} {cfg : Config} {service : Service} {c c' : Cluster} {t : List Event}

/-- The ingress `_reconcile_service` builds: `tlsIngress` of the read-timeout ingress, followed
by the authentication edits. -/
theorem serviceIngress_eq_ok {ingress : Ingress} (ok : serviceIngress P cfg service = .ok ingress) :
    ∃ i edits, readTimeoutIngress P service (protocolIngress cfg service) = .ok i ∧
      authentication cfg service = .ok edits ∧
      ingress = { tlsIngress cfg service (serviceDomainOf cfg service) i with
        edits := (tlsIngress cfg service (serviceDomainOf cfg service) i).edits ++ edits } := by
  unfold serviceIngress at ok
  cases timedOut : readTimeoutIngress P service (protocolIngress cfg service) with
  | error e => simp [timedOut, bind, Except.bind] at ok
  | ok i =>
    cases authenticated : authentication cfg service with
    | error e => simp [timedOut, authenticated, bind, Except.bind] at ok
    | ok edits =>
      simp only [timedOut, authenticated, bind, Except.bind, pure, Except.pure,
        Except.ok.injEq] at ok
      exact ⟨i, edits, rfl, rfl, ok.symm⟩

theorem reconcileService_returns
    (h : Prog.Reaches P (reconcileService P cfg service) c t (pure ()) c') :
    Reconciled P cfg service c' := by
  simp only [reconcileService, Prog.bind_eq, Prog.emit, Prog.log_bind, Prog.pure_bind'] at h
  obtain ⟨_, -, logged⟩ := Prog.reaches_log_pure h
  obtain ⟨a₁, x₁, c₁, t₁, applied₁, -, afterService⟩ := Prog.reaches_send_bind_pure logged
  obtain ⟨a₂, x₂, c₂, t₂, applied₂, -, afterEndpoints⟩ :=
    Prog.reaches_send_bind_pure afterService
  obtain ⟨i₁, t₃, c₃, t₄, -, timeout, afterTimeout⟩ := Prog.reaches_bind_pure afterEndpoints
  obtain ⟨rfl, timedOut⟩ := applyReadTimeout_returns timeout
  obtain ⟨i₂, t₅, c₄, t₆, -, tls, afterTls⟩ := Prog.reaches_bind_pure afterTimeout
  obtain ⟨rfl, tlsDone⟩ := applyTls_returns tls
  obtain ⟨i₃, t₇, c₅, t₈, -, auth, written⟩ := Prog.reaches_bind_pure afterTls
  obtain ⟨edits, authenticated, rfl, t₉, oidc⟩ := applyAuth_returns auth
  obtain ⟨a₃, x₃, applied₃, -⟩ := Prog.reaches_send_pure written
  obtain rfl := congrArg Prod.fst applied₃
  obtain rfl := congrArg Prod.fst applied₂
  obtain rfl := congrArg Prod.fst applied₁
  have authFrame := fun k (outside : ¬ OidcFoot P service k) =>
    (applyAuth_within P cfg service _ _).reaches_get auth outside
  have tlsFrame := fun k (outside : ¬ TlsFoot service k) =>
    (applyTls_within cfg service _ _).reaches_get tls outside
  refine ⟨?_, ?_, ⟨_, by rw [serviceIngress, timedOut, authenticated]; rfl,
      by simp [Request.apply, ingressManifest]⟩,
    tlsDone.frame fun k inFoot => ?_, fun uses => (applyOidcProxy_oidc uses oidc).frame
      fun k inFoot => ?_, fun uses => ?_⟩
  · rw [Request.apply, Store.get_set, if_neg (by simp), authFrame _ (by simp [OidcFoot, recordKey]),
      tlsFrame _ (by simp [TlsFoot])]
    simp [Request.apply, serviceManifest]
  · rw [Request.apply, Store.get_set, if_neg (by simp), authFrame _ (by simp [OidcFoot, recordKey]),
      tlsFrame _ (by simp [TlsFoot])]
    simp [Request.apply, endpointsManifest]
  · rcases inFoot with rfl | rfl <;>
      rw [Request.apply, Store.get_set, if_neg (by simp),
        authFrame _ (by simp [OidcFoot, recordKey, oidcReleaseName, tls_ne_clientCa, toString])]
  · rcases inFoot with rfl | rfl | ⟨issuer, rfl⟩ <;> simp [Request.apply, recordKey]
  · obtain ⟨noIngress, noRelease⟩ := applyOidcProxy_removed uses oidc
    simp [Request.apply, noIngress, noRelease]

end Zenith
