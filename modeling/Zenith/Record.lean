import Zenith.Oidc
import Mathlib.Logic.Relation

/-!
# The OIDC client record across calls

A record is written only by the last step of a `_reconcile_oidc_secret` call, by a patch whose
values are read back over the values already there.  Any sequence of calls on one record, each
of which may stop anywhere (an API error, a failed registration, a crash), keeps it absent or
complete, never changes its cookie secret, registers a client only where none is stored, and
changes the stored client only to the one a service config names.  A call that completes
returns what is stored after it, and `_reconcile_oidc_proxy` puts exactly that into the release.
-/

namespace Zenith

/-- The record's value under `field`, as a call reads it back: nothing where the record is
absent or does not decode. -/
def storedField (P : Platform) (c : Cluster) (key : Key) (field : String) : Option Value :=
  match readRecord P (c.get key) with
  | .ok d => d.get? field
  | .error _ => none

/-- The record is absent, or is read back with a cookie secret, a client id and a secret. -/
def RecordOk (P : Platform) (c : Cluster) (key : Key) : Prop :=
  c.get key = none ∨ ∃ d, readRecord P (c.get key) = .ok d ∧
    d.get? "cookie-secret" ≠ none ∧ d.get? "client-id" ≠ none ∧ d.get? "client-secret" ≠ none

/-- One call of `_reconcile_oidc_secret` on the record of `releaseName` at `issuer`, for any
service config naming that issuer, stopped at any point. -/
def RecordCall (P : Platform) (releaseName issuer : String) (c c' : Cluster) : Prop :=
  ∃ cfg service serviceDomain t q, issuerOf service.config = .ok issuer ∧
    Prog.Reaches P (reconcileOidcSecret P cfg releaseName service serviceDomain) c t q c'

variable {P : Platform} {c c' : Cluster} {key : Key}

theorem storedField_of_read {d : Dict Value} (read : readRecord P (c.get key) = .ok d)
    (field : String) : storedField P c key field = d.get? field := by
  simp [storedField, read]

theorem storedField_set {m : Manifest} {d : Dict Value} (read : readRecord P (some m) = .ok d)
    (field : String) : storedField P (c.set key m) key field = d.get? field := by
  simp [storedField, read]

theorem storedField_set_other {k : Key} {m : Manifest} (other : k ≠ key) (field : String) :
    storedField P (c.set k m) key field = storedField P c key field := by
  simp [storedField, Ne.symm other]

theorem or_ne_none {a b : Option Value} (some : a ≠ none) : a.or b ≠ none := by
  cases a
  · exact absurd rfl some
  · simp

variable {releaseName issuer : String} {cfg : Config} {service : Service} {serviceDomain : String}
  {t : List Event}

/-- A call keeps a sound record sound, at every point. -/
theorem recordOk_call (sound : RecordOk P c (recordKey P releaseName issuer))
    (call : RecordCall P releaseName issuer c c') :
    RecordOk P c' (recordKey P releaseName issuer) := by
  obtain ⟨cfg, service, serviceDomain, t, q, issued, h⟩ := call
  rcases reconcileOidcSecret_reaches issued h with rfl |
    ⟨existing, random, registered, next, m, read, completed, -, patched, rfl⟩
  · exact sound
  obtain ⟨d, back, agree⟩ := readRecord_patch read patched
  have cookie : next.get? "cookie-secret" ≠ none := by
    rw [withClient_other completed (by decide) (by decide), get?_withCookie, if_pos rfl]
    cases existing.get? "cookie-secret" <;> simp
  have client : next.get? "client-id" ≠ none ∧ next.get? "client-secret" ≠ none := by
    rcases withClient_cases completed with ⟨clientId, clientSecret, -, -, hid, hsecret⟩ |
      ⟨-, stored, rfl⟩ | ⟨-, -, hid, hsecret⟩
    · simp [hid, hsecret]
    · rw [get?_withCookie, if_neg (by decide)] at stored ⊢
      rw [get?_withCookie, if_neg (by decide)]
      rcases sound with absent | ⟨d₀, read₀, -, -, secret⟩
      · rw [absent] at read
        cases read
        exact absurd rfl stored
      · rw [read₀] at read
        cases read
        exact ⟨stored, secret⟩
    · simp [hid, hsecret]
  refine .inr ⟨d, by simpa using back, ?_, ?_, ?_⟩ <;> rw [agree]
  · exact or_ne_none cookie
  · exact or_ne_none client.1
  · exact or_ne_none client.2

/-- A call never changes a stored cookie secret. -/
theorem cookie_call {cookieSecret : Value}
    (stored : storedField P c (recordKey P releaseName issuer) "cookie-secret" = some cookieSecret)
    (call : RecordCall P releaseName issuer c c') :
    storedField P c' (recordKey P releaseName issuer) "cookie-secret" = some cookieSecret := by
  obtain ⟨cfg, service, serviceDomain, t, q, issued, h⟩ := call
  rcases reconcileOidcSecret_reaches issued h with rfl |
    ⟨existing, random, registered, next, m, read, completed, -, patched, rfl⟩
  · exact stored
  obtain ⟨d, back, agree⟩ := readRecord_patch read patched
  rw [storedField_of_read read] at stored
  rw [storedField_set back, agree, withClient_other completed (by decide) (by decide),
    get?_withCookie, if_pos rfl, stored]
  rfl

/-- A call registers a client only where it finds no client id stored. -/
theorem registers_call (issued : issuerOf service.config = .ok issuer)
    {q : Prog (Value × Value × Value)} {registration : ClientRegistration}
    (h : Prog.Reaches P (reconcileOidcSecret P cfg releaseName service serviceDomain) c t q c')
    (made : .request (.registerClient registration) ∈ t) :
    storedField P c (recordKey P releaseName issuer) "client-id" = none ∧
      service.config.get? "auth-oidc-client-id" = none := by
  obtain ⟨unnamed, existing, read, missing⟩ := reconcileOidcSecret_registers issued h made
  exact ⟨by rw [storedField_of_read read, missing], unnamed⟩

/-- Once stored, the client changes only in a call whose config names one, and to that one. -/
theorem client_call (issued : issuerOf service.config = .ok issuer)
    {q : Prog (Value × Value × Value)}
    (h : Prog.Reaches P (reconcileOidcSecret P cfg releaseName service serviceDomain) c t q c')
    (stored : storedField P c (recordKey P releaseName issuer) "client-id" ≠ none)
    (changed : storedField P c' (recordKey P releaseName issuer) "client-id" ≠
        storedField P c (recordKey P releaseName issuer) "client-id" ∨
      storedField P c' (recordKey P releaseName issuer) "client-secret" ≠
        storedField P c (recordKey P releaseName issuer) "client-secret") :
    ∃ clientId clientSecret, service.config.get? "auth-oidc-client-id" = some clientId ∧
      service.config.get? "auth-oidc-client-secret" = some clientSecret ∧
      storedField P c' (recordKey P releaseName issuer) "client-id" = some clientId ∧
      storedField P c' (recordKey P releaseName issuer) "client-secret" = some clientSecret := by
  rcases reconcileOidcSecret_reaches issued h with rfl |
    ⟨existing, random, registered, next, m, read, completed, -, patched, rfl⟩
  · simp at changed
  obtain ⟨d, back, agree⟩ := readRecord_patch read patched
  simp only [storedField_set back, storedField_of_read read, agree] at stored changed ⊢
  rcases withClient_cases completed with ⟨clientId, clientSecret, hid, hsecret, nid, nsecret⟩ |
    ⟨-, -, rfl⟩ | ⟨-, missing, -⟩
  · exact ⟨clientId, clientSecret, hid, hsecret, by simp [nid], by simp [nsecret]⟩
  · simp only [get?_withCookie, if_neg (show ("client-id" : String) ≠ "cookie-secret" by decide),
      if_neg (show ("client-secret" : String) ≠ "cookie-secret" by decide)] at changed
    cases existing.get? "client-id" <;> cases existing.get? "client-secret" <;> simp at changed
  · rw [get?_withCookie, if_neg (by decide)] at missing
    exact absurd missing stored

/-- A completed call returns exactly what is stored after it. -/
theorem returns_call {cookieSecret clientId clientSecret : Value}
    (issued : issuerOf service.config = .ok issuer)
    (h : Prog.Reaches P (reconcileOidcSecret P cfg releaseName service serviceDomain) c t
      (pure (cookieSecret, clientId, clientSecret)) c') :
    storedField P c' (recordKey P releaseName issuer) "cookie-secret" = some cookieSecret ∧
      storedField P c' (recordKey P releaseName issuer) "client-id" = some clientId ∧
      storedField P c' (recordKey P releaseName issuer) "client-secret" = some clientSecret := by
  obtain ⟨existing, random, registered, next, read, -, returned, written⟩ :=
    reconcileOidcSecret_returns issued h
  obtain ⟨hcookie, hid, hsecret⟩ := credentials_eq_ok.mp returned
  rcases written with ⟨same, rfl⟩ | ⟨-, m, patched, rfl⟩
  · have agree := (Dict.beq_iff next existing).mp same
    simp only [storedField_of_read read, ← agree, hcookie, hid, hsecret, and_self]
  · obtain ⟨d, back, agree⟩ := readRecord_patch read patched
    simp [storedField_set back, agree, hcookie, hid, hsecret]

theorem oauth2ProxyAlphaConfig_client {clientId clientSecret : Value} {config : AlphaConfig}
    {checksum : String}
    (ok : oauth2ProxyAlphaConfig P cfg service clientId clientSecret = .ok (config, checksum)) :
    config.clientID = clientId ∧ config.clientSecret = clientSecret := by
  unfold oauth2ProxyAlphaConfig at ok
  cases issuerURL : service.config.getItem "auth-oidc-issuer" <;>
    simp only [issuerURL, bind, Except.bind, pure, Except.pure, reduceCtorEq,
      Except.ok.injEq, Prod.mk.injEq] at ok
  obtain ⟨rfl, -⟩ := ok
  exact ⟨rfl, rfl⟩

/-- A completed `_reconcile_oidc_proxy` gives the release the stored values. -/
theorem proxy_call (issued : issuerOf service.config = .ok issuer)
    (h : Prog.Reaches P (reconcileOidcProxy P cfg releaseName service serviceDomain) c t
      (pure ()) c') :
    ∃ release, c'.get (.releases, releaseName) = some (releaseManifest release) ∧
      storedField P c' (recordKey P releaseName issuer) "cookie-secret" =
        some release.values.cookieSecret ∧
      storedField P c' (recordKey P releaseName issuer) "client-id" =
        some release.values.configData.clientID ∧
      storedField P c' (recordKey P releaseName issuer) "client-secret" =
        some release.values.configData.clientSecret := by
  obtain ⟨t₁, c₁, cookieSecret, clientId, clientSecret, config, checksum, secret, configured,
    rfl⟩ := reconcileOidcProxy_returns h
  obtain ⟨hcookie, hid, hsecret⟩ := returns_call issued secret
  obtain ⟨cid, csecret⟩ := oauth2ProxyAlphaConfig_client configured
  have other : ((.releases, releaseName) : Key) ≠ recordKey P releaseName issuer := by
    simp [recordKey]
  refine ⟨proxyRelease cfg service serviceDomain releaseName cookieSecret config checksum,
    by simp, ?_, ?_, ?_⟩ <;> rw [storedField_set_other other]
  · exact hcookie
  · rw [hid, proxyRelease, cid]
  · rw [hsecret, proxyRelease, csecret]

/-- The record as a completed call leaves it for a service config: read back with `creds` as
its cookie secret, client id and secret, the client being the config's where it names one. -/
def RecordSettled (P : Platform) (config : Dict Value) (c : Cluster) (key : Key)
    (creds : Value × Value × Value) : Prop :=
  ∃ d, readRecord P (c.get key) = .ok d ∧ credentials d = .ok creds ∧
    (config.contains "auth-oidc-client-id" →
      config.get? "auth-oidc-client-id" = some creds.2.1 ∧
      config.get? "auth-oidc-client-secret" = some creds.2.2)

/-- A completed call leaves the record settled for its config, with the values it returns. -/
theorem settled_call {creds : Value × Value × Value} (issued : issuerOf service.config = .ok issuer)
    (h : Prog.Reaches P (reconcileOidcSecret P cfg releaseName service serviceDomain) c t
      (pure creds) c') :
    RecordSettled P service.config c' (recordKey P releaseName issuer) creds := by
  obtain ⟨cookieSecret, clientId, clientSecret⟩ := creds
  obtain ⟨existing, random, registered, next, read, completed, returned, written⟩ :=
    reconcileOidcSecret_returns issued h
  obtain ⟨hcookie, hid, hsecret⟩ := credentials_eq_ok.mp returned
  have named : service.config.contains "auth-oidc-client-id" →
      service.config.get? "auth-oidc-client-id" = some clientId ∧
        service.config.get? "auth-oidc-client-secret" = some clientSecret := by
    intro contained
    rcases withClient_cases completed with ⟨v, w, hv, hw, nid, nsecret⟩ | ⟨unnamed, -⟩ |
      ⟨unnamed, -⟩
    · rw [hid, Option.some_inj] at nid
      rw [hsecret, Option.some_inj] at nsecret
      exact ⟨nid ▸ hv, nsecret ▸ hw⟩
    all_goals exact absurd unnamed (Dict.contains_iff.mp contained)
  rcases written with ⟨same, rfl⟩ | ⟨-, m, patched, rfl⟩
  · have agree := (Dict.beq_iff next existing).mp same
    exact ⟨existing, read, credentials_eq_ok.mpr
      ⟨agree _ ▸ hcookie, agree _ ▸ hid, agree _ ▸ hsecret⟩, named⟩
  · obtain ⟨d, back, agree⟩ := readRecord_patch read patched
    exact ⟨d, by simpa using back, credentials_eq_ok.mpr (by simp [agree, hcookie, hid, hsecret]),
      named⟩

/-- On a settled record the update after the read is already done: it makes no request and
returns the stored values. -/
theorem updateRecord_settled {d : Dict Value} {creds : Value × Value × Value} {key : Key}
    (returned : credentials d = .ok creds)
    (named : service.config.contains "auth-oidc-client-id" →
      service.config.get? "auth-oidc-client-id" = some creds.2.1 ∧
      service.config.get? "auth-oidc-client-secret" = some creds.2.2) :
    updateRecord cfg service issuer serviceDomain key d = pure creds := by
  obtain ⟨cookieSecret, clientId, clientSecret⟩ := creds
  obtain ⟨hcookie, hid, hsecret⟩ := credentials_eq_ok.mp returned
  have client : ∃ next, ensureClient cfg service issuer serviceDomain d = pure next ∧
      next.beq d = true ∧ credentials next = .ok (cookieSecret, clientId, clientSecret) := by
    unfold ensureClient
    by_cases contained : service.config.contains "auth-oidc-client-id"
    · obtain ⟨configId, configSecret⟩ := named contained
      rw [if_pos contained, Dict.getItem_eq_ok.mpr configId, Dict.getItem_eq_ok.mpr configSecret]
      refine ⟨_, rfl, (Dict.beq_iff _ _).mpr fun k => ?_, credentials_eq_ok.mpr ?_⟩
      · simp only [Dict.get?_set]
        split_ifs with isSecret isId <;> simp_all
      · simp [hcookie]
    · rw [if_neg contained, if_pos (Dict.contains_iff.mpr (by simp [hid]))]
      exact ⟨d, rfl, (Dict.beq_iff d d).mpr fun _ => rfl, returned⟩
  obtain ⟨next, client, same, returned'⟩ := client
  have cookie : d.contains "cookie-secret" := Dict.contains_iff.mpr (by simp [hcookie])
  simp only [updateRecord, ensureCookieSecret, cookie, ↓reduceIte, Prog.bind_eq, Prog.pure_eq,
    Prog.pure_bind',
    client, writeRecord, same, Bool.not_true, Bool.false_eq_true, returned', Prog.ofExcept]

/-- **The OIDC client record.**  Over calls of `_reconcile_oidc_secret` stopped anywhere, the record
stays absent or complete and keeps its cookie secret; a client is registered, or changed, only as
the config says; and a completed call, and the proxy's release, carry exactly what is stored. -/
theorem oidc_record_invariant (P : Platform) (releaseName issuer : String) :
    (∀ c c', RecordOk P c (recordKey P releaseName issuer) →
      Relation.ReflTransGen (RecordCall P releaseName issuer) c c' →
      RecordOk P c' (recordKey P releaseName issuer)) ∧
    (∀ c c' cookieSecret,
      storedField P c (recordKey P releaseName issuer) "cookie-secret" = some cookieSecret →
      Relation.ReflTransGen (RecordCall P releaseName issuer) c c' →
      storedField P c' (recordKey P releaseName issuer) "cookie-secret" = some cookieSecret) ∧
    (∀ cfg service serviceDomain c t (q : Prog (Value × Value × Value)) c' registration,
      issuerOf service.config = .ok issuer →
      Prog.Reaches P (reconcileOidcSecret P cfg releaseName service serviceDomain) c t q c' →
      .request (.registerClient registration) ∈ t →
      storedField P c (recordKey P releaseName issuer) "client-id" = none ∧
        service.config.get? "auth-oidc-client-id" = none) ∧
    (∀ cfg service serviceDomain c t (q : Prog (Value × Value × Value)) c',
      issuerOf service.config = .ok issuer →
      Prog.Reaches P (reconcileOidcSecret P cfg releaseName service serviceDomain) c t q c' →
      storedField P c (recordKey P releaseName issuer) "client-id" ≠ none →
      (storedField P c' (recordKey P releaseName issuer) "client-id" ≠
          storedField P c (recordKey P releaseName issuer) "client-id" ∨
        storedField P c' (recordKey P releaseName issuer) "client-secret" ≠
          storedField P c (recordKey P releaseName issuer) "client-secret") →
      ∃ clientId clientSecret, service.config.get? "auth-oidc-client-id" = some clientId ∧
        service.config.get? "auth-oidc-client-secret" = some clientSecret ∧
        storedField P c' (recordKey P releaseName issuer) "client-id" = some clientId ∧
        storedField P c' (recordKey P releaseName issuer) "client-secret" = some clientSecret) ∧
    (∀ cfg service serviceDomain c t c' cookieSecret clientId clientSecret,
      issuerOf service.config = .ok issuer →
      Prog.Reaches P (reconcileOidcSecret P cfg releaseName service serviceDomain) c t
        (pure (cookieSecret, clientId, clientSecret)) c' →
      storedField P c' (recordKey P releaseName issuer) "cookie-secret" = some cookieSecret ∧
        storedField P c' (recordKey P releaseName issuer) "client-id" = some clientId ∧
        storedField P c' (recordKey P releaseName issuer) "client-secret" = some clientSecret) ∧
    (∀ cfg service serviceDomain c t c', issuerOf service.config = .ok issuer →
      Prog.Reaches P (reconcileOidcProxy P cfg releaseName service serviceDomain) c t
        (pure ()) c' →
      ∃ release, c'.get (.releases, releaseName) = some (releaseManifest release) ∧
        storedField P c' (recordKey P releaseName issuer) "cookie-secret" =
          some release.values.cookieSecret ∧
        storedField P c' (recordKey P releaseName issuer) "client-id" =
          some release.values.configData.clientID ∧
        storedField P c' (recordKey P releaseName issuer) "client-secret" =
          some release.values.configData.clientSecret) := by
  refine ⟨fun c c' sound calls => ?_, fun c c' cookieSecret stored calls => ?_,
    fun _ _ _ _ _ _ _ _ issued h made => registers_call issued h made,
    fun _ _ _ _ _ _ _ issued h stored changed => client_call issued h stored changed,
    fun _ _ _ _ _ _ _ _ _ issued h => returns_call issued h,
    fun _ _ _ _ _ _ issued h => proxy_call issued h⟩
  · induction calls with
    | refl => exact sound
    | tail _ call ih => exact recordOk_call ih call
  · induction calls with
    | refl => exact stored
    | tail _ call ih => exact cookie_call ih call

set_option maxRecDepth 4000 in
/-- A call that registers a client where nothing is stored, then one whose config names its own. -/
theorem oidc_record_invariant_registered :
    let key := recordKey Platform.plain "oidc-web" "https://idp"
    let registering : Service := ⟨"web", [], Dict.empty.set "auth-oidc-issuer" (.str "https://idp")⟩
    let configured : Service := ⟨"web", [],
      ((Dict.empty.set "auth-oidc-issuer" (.str "https://idp")).set "auth-oidc-client-id"
        (.str "cid")).set "auth-oidc-client-secret" (.str "csec")⟩
    let first :=
      (reconcileOidcSecret Platform.plain default "oidc-web" registering "web.example").run
      Platform.plain (Stream'.const ⟨false, "cookie", ("rid", "rsecret")⟩) Store.empty
    let second :=
      (reconcileOidcSecret Platform.plain default "oidc-web" configured "web.example").run
      Platform.plain (Stream'.const ⟨false, "other", ("rid2", "rsecret2")⟩) first.cluster
    (∃ registration, Event.request (.registerClient registration) ∈ first.trace) ∧
      (storedField Platform.plain Store.empty key "client-id" = none ∧
        registering.config.get? "auth-oidc-client-id" = none) ∧
      first.result = .ok (.str "cookie", .str "rid", .str "rsecret") ∧
      (storedField Platform.plain first.cluster key "cookie-secret" = some (.str "cookie") ∧
        storedField Platform.plain first.cluster key "client-id" = some (.str "rid") ∧
        storedField Platform.plain first.cluster key "client-secret" = some (.str "rsecret")) ∧
      storedField Platform.plain second.cluster key "client-id" ≠
        storedField Platform.plain first.cluster key "client-id" ∧
      (∃ clientId clientSecret, configured.config.get? "auth-oidc-client-id" = some clientId ∧
        configured.config.get? "auth-oidc-client-secret" = some clientSecret ∧
        storedField Platform.plain second.cluster key "client-id" = some clientId ∧
        storedField Platform.plain second.cluster key "client-secret" = some clientSecret) := by
  intro key registering configured first second
  have invariant := oidc_record_invariant Platform.plain "oidc-web" "https://idp"
  -- the trace is the fetch, the urandom call, the log line, then the registration
  obtain ⟨registration, made⟩ : ∃ registration,
      Event.request (.registerClient registration) ∈ first.trace :=
    ⟨_, .tail _ (.tail _ (.tail _ (.head _)))⟩
  refine ⟨⟨registration, made⟩, invariant.2.2.1 default registering "web.example" _ _ _ _
      registration rfl (Prog.reaches_run _ _ _) made,
    rfl, invariant.2.2.2.2.1 default registering "web.example" _ _ _ _ _ _ rfl
      (Prog.reaches_run_ok rfl),
    ?changed, invariant.2.2.2.1 default configured "web.example" _ _ _ _ rfl
      (Prog.reaches_run _ _ _) (by decide) (.inl ?changed)⟩
  case changed => decide

end Zenith
