import Zenith.Api

/-!
# The OIDC client record

For a service authenticated by OIDC, `_reconcile_oidc_secret` keeps a record in a secret named
after the oauth2-proxy release and a hash of the issuer: a cookie secret, and the id and secret
of the OIDC client.  Each call reads the record back, generates a cookie secret only if there is
none, takes the client from the service config or keeps the stored one (registering a client
with the issuer only when there is neither), and writes the record, by a single patch, only if it
changed.  The API server keeps a patch's `stringData` base64-encoded under `data`, which the read
decodes.

So the record, once written, holds all three values, its cookie secret never changes, and a call
that completes returns exactly what is stored after it.
-/

namespace Zenith


/-- `base64.b64decode(value).decode()`. -/
def decodeValue (P : Platform) : Value → Except Error String
  | .str s => match P.b64decode s with
    | some decoded => .ok decoded
    | none => .error .valueError
  | _ => .error .typeError

/-- A value decoded, or kept where it does not decode. -/
def decodedOr (P : Platform) (v : Value) : Value :=
  match decodeValue P v with
  | .ok s => .str s
  | .error _ => v

/-- The exception decoding a value raises, if any. -/
def decodeError (P : Platform) (v : Value) : Option Error :=
  match decodeValue P v with
  | .ok _ => none
  | .error e => some e

/-- `{key: base64.b64decode(value).decode() for key, value in data.items()}`; the first value
that does not decode raises. -/
def decodeData (P : Platform) (data : Dict Value) : Except Error (Dict Value) :=
  match data.items.findSome? fun item => decodeError P item.2 with
  | some e => .error e
  | none => .ok (data.map (decodedOr P))

/-- `secret.get("data", {})`. -/
def secretData (m : Manifest) : Dict Value :=
  match m.body with
  | .secret s => s.data
  | _ => Dict.empty

/-- `existing_data`: the decoded record, or `{}` where the fetch found none. -/
def readRecord (P : Platform) : Option Manifest → Except Error (Dict Value)
  | none => .ok Dict.empty
  | some m => decodeData P (secretData m)

variable {P : Platform}

theorem decodeData_ok {data d : Dict Value} (ok : decodeData P data = .ok d) :
    (∀ item ∈ data.items, decodeError P item.2 = none) ∧ d = data.map (decodedOr P) := by
  unfold decodeData at ok
  split at ok
  · cases ok
  · next none =>
    cases ok
    exact ⟨List.findSome?_eq_none_iff.mp none, rfl⟩

theorem decodeData_of_decodes {data : Dict Value}
    (decodes : ∀ item ∈ data.items, decodeError P item.2 = none) :
    decodeData P data = .ok (data.map (decodedOr P)) := by
  unfold decodeData
  rw [List.findSome?_eq_none_iff.mpr decodes]

theorem decodedOr_encodeValue (s : String) : decodedOr P (encodeValue P (.str s)) = .str s := by
  simp [decodedOr, decodeValue, encodeValue, P.b64decode_encode]

theorem decodeError_encodeValue (s : String) : decodeError P (encodeValue P (.str s)) = none := by
  simp [decodeError, decodeValue, encodeValue, P.b64decode_encode]

/-- A dictionary whose values all decode is read back value by value. -/
theorem decodeData_get? {raw : Dict Value}
    (decodes : ∀ k v, raw.get? k = some v → decodeError P v = none) :
    ∃ d, decodeData P raw = .ok d ∧ ∀ k, d.get? k = (raw.get? k).map (decodedOr P) :=
  ⟨_, decodeData_of_decodes fun _ mem => decodes _ _ (Dict.get?_of_mem mem),
    fun k => Dict.get?_map _ _ k⟩

theorem get?_of_decodeData {raw d : Dict Value} (ok : decodeData P raw = .ok d) :
    (∀ k v, raw.get? k = some v → decodeError P v = none) ∧
      ∀ k, d.get? k = (raw.get? k).map (decodedOr P) := by
  obtain ⟨decodes, rfl⟩ := decodeData_ok ok
  exact ⟨fun k v found => decodes _ (Dict.mem_of_get? found), fun k => Dict.get?_map _ _ k⟩

/-- The values a patch accepts are strings. -/
theorem isStr_of_patch {found : Option Manifest} {next : Dict Value} {m : Manifest}
    (patched : patchStringData P found next = some m) :
    ∀ k v, next.get? k = some v → ∃ s, v = .str s := by
  intro k v found
  unfold patchStringData at patched
  split at patched
  · next strs =>
    have := List.all_eq_true.mp strs _ (Dict.mem_of_get? found)
    cases v <;> simp_all [Value.isStr]
  · cases patched

section Encoded

variable {next : Dict Value} (strs : ∀ k v, next.get? k = some v → ∃ s, v = .str s)
include strs

/-- String values stored encoded are read back as they were. -/
theorem decodedOr_encoded (k : String) :
    ((next.map (encodeValue P)).get? k).map (decodedOr P) = next.get? k := by
  cases found : next.get? k with
  | none => simp [Dict.get?_map, found]
  | some v =>
    obtain ⟨s, rfl⟩ := strs k _ found
    simp [Dict.get?_map, found, decodedOr_encodeValue]

theorem decodeError_encoded (k : String) (v : Value)
    (found : (next.map (encodeValue P)).get? k = some v) : decodeError P v = none := by
  rw [Dict.get?_map] at found
  obtain ⟨w, stored, rfl⟩ := Option.map_eq_some'.mp found
  obtain ⟨s, rfl⟩ := strs k _ stored
  exact decodeError_encodeValue s

end Encoded

/-- A dictionary updated from one whose values all decode has values that all decode. -/
theorem decodeError_update {d e : Dict Value}
    (decodes : ∀ k v, d.get? k = some v → decodeError P v = none)
    (decodes' : ∀ k v, e.get? k = some v → decodeError P v = none) (k : String) (v : Value)
    (found : (d.update e).get? k = some v) : decodeError P v = none := by
  rw [Dict.get?_update] at found
  cases fromE : e.get? k with
  | none => rw [fromE] at found; exact decodes k v found
  | some w =>
    rw [fromE, Option.or_some, Option.some_inj] at found
    exact found ▸ decodes' k w fromE

/-- What a patch leaves is read back as the patch's values over what was read before. -/
theorem readRecord_patch {found : Option Manifest} {m : Manifest} {existing next : Dict Value}
    (read : readRecord P found = .ok existing) (patched : patchStringData P found next = some m) :
    ∃ d, readRecord P (some m) = .ok d ∧ ∀ k, d.get? k = (next.get? k).or (existing.get? k) := by
  have strs := isStr_of_patch patched
  -- a new secret holds just the encoded values
  have fresh : existing = Dict.empty →
      ∃ d, decodeData P (next.map (encodeValue P)) = .ok d ∧
        ∀ k, d.get? k = (next.get? k).or (existing.get? k) := by
    rintro rfl
    obtain ⟨d, ok, agree⟩ := decodeData_get? (decodeError_encoded strs)
    exact ⟨d, ok, fun k => by simp [agree, decodedOr_encoded strs]⟩
  unfold patchStringData at patched
  split at patched
  · cases found with
    | none =>
      cases patched
      exact fresh (by cases read; rfl)
    | some old =>
      obtain ⟨objectLabels, annotations, body⟩ := old
      cases body with
      | secret s =>
        cases patched
        obtain ⟨decodes, readBack⟩ := get?_of_decodeData read
        obtain ⟨d, ok, agree⟩ :=
          decodeData_get? (decodeError_update decodes (decodeError_encoded strs))
        refine ⟨d, ok, fun k => ?_⟩
        rw [agree, Dict.get?_update, readBack, ← decodedOr_encoded strs k]
        cases (next.map (encodeValue P)).get? k <;> rfl
      | _ =>
        cases patched
        exact fresh (by cases read; rfl)
  · cases patched


/-- `service.config["auth-oidc-issuer"]`, which `issuer.encode()` requires to be a string. -/
def issuerOf (config : Dict Value) : Except Error String := do
  match ← config.getItem "auth-oidc-issuer" with
  | .str issuer => pure issuer
  | _ => throw .typeError

/-- The record's name: the release name and the first 8 hex digits of the issuer's SHA-256. -/
def recordName (P : Platform) (releaseName issuer : String) : String :=
  s!"{releaseName}-{(P.hexdigest issuer).take 8}"

/-- `existing_data`: the record fetched and decoded. -/
def readRecordAt (P : Platform) (key : Key) : Prog (Dict Value) := do
  let found ← Prog.fetch key
  Prog.ofExcept (readRecord P found)

/-- Generate a cookie secret if the record has none. -/
def ensureCookieSecret (data : Dict Value) : Prog (Dict Value) :=
  if data.contains "cookie-secret" then pure data
  else do
    let random ← Prog.urandom
    pure (data.set "cookie-secret" (.str random))

/-- The redirect URI registered for the client. -/
def redirectUri (cfg : Config) (service : Service) (serviceDomain : String) : String :=
  let redirectScheme :=
    if cfg.ingress.tls.enabled || service.config.contains "tls-cert" then "https" else "http"
  s!"{redirectScheme}://{serviceDomain}/_oidc/callback"

/-- The client: the service config's if it names one, else the stored one, else one registered
with the issuer. -/
def ensureClient (cfg : Config) (service : Service) (issuer serviceDomain : String)
    (data : Dict Value) : Prog (Dict Value) :=
  if service.config.contains "auth-oidc-client-id" then do
    let clientId ← Prog.ofExcept (service.config.getItem "auth-oidc-client-id")
    let clientSecret ← Prog.ofExcept (service.config.getItem "auth-oidc-client-secret")
    pure ((data.set "client-id" clientId).set "client-secret" clientSecret)
  else if data.contains "client-id" then pure data
  else do
    Prog.emit .info s!"Registering OIDC client for {service.name} at {issuer}"
    let (clientId, clientSecret) ← Prog.registerClient
      ⟨issuer, service.config.get? "auth-oidc-client-registration-token",
        redirectUri cfg service serviceDomain⟩
    pure ((data.set "client-id" (.str clientId)).set "client-secret" (.str clientSecret))

/-- `if next_data != existing_data: secrets.create_or_patch(...)`. -/
def writeRecord (key : Key) (existing next : Dict Value) : Prog Unit :=
  if !next.beq existing then Prog.send (.createOrPatch key next) else pure ()

/-- The cookie secret, client id and client secret of a record. -/
def credentials (data : Dict Value) : Except Error (Value × Value × Value) := do
  pure (← data.getItem "cookie-secret", ← data.getItem "client-id", ← data.getItem "client-secret")

/-- The part of `_reconcile_oidc_secret` after the read: complete the record, write it back if
it changed, and return its values. -/
def updateRecord (cfg : Config) (service : Service) (issuer serviceDomain : String) (key : Key)
    (existingData : Dict Value) : Prog (Value × Value × Value) := do
  let nextData ← ensureCookieSecret existingData
  let nextData ← ensureClient cfg service issuer serviceDomain nextData
  writeRecord key existingData nextData
  Prog.ofExcept (credentials nextData)

/-- `_reconcile_oidc_secret`. -/
def reconcileOidcSecret (P : Platform) (cfg : Config) (releaseName : String) (service : Service)
    (serviceDomain : String) : Prog (Value × Value × Value) := do
  let issuer ← Prog.ofExcept (issuerOf service.config)
  let key : Key := (.secrets, recordName P releaseName issuer)
  let existingData ← readRecordAt P key
  updateRecord cfg service issuer serviceDomain key existingData


/-- The record with a cookie secret: the stored one, or `random`. -/
def withCookie (data : Dict Value) (random : String) : Dict Value :=
  if data.contains "cookie-secret" then data else data.set "cookie-secret" (.str random)

/-- The record with a client: the service config's, the stored one, or `registered`. -/
def withClient (config data : Dict Value) (registered : String × String) :
    Except Error (Dict Value) :=
  if config.contains "auth-oidc-client-id" then do
    let clientId ← config.getItem "auth-oidc-client-id"
    let clientSecret ← config.getItem "auth-oidc-client-secret"
    pure ((data.set "client-id" clientId).set "client-secret" clientSecret)
  else if data.contains "client-id" then pure data
  else pure ((data.set "client-id" (.str registered.1)).set "client-secret" (.str registered.2))

/-- A registration is made only where neither the config nor the record has a client. -/
def RegistersOnlyIf (allowed : Prop) (r : Request) : Prop :=
  (∃ registration, r = .registerClient registration) → allowed

variable {c c' : Cluster} {t : List Event}

/-- The read makes one request, the fetch of the record. -/
theorem readRecordAt_always {ok : Request → Prop} {key : Key} (fetched : ok (.fetch key)) :
    (readRecordAt P key).Always ok :=
  Prog.Always.bind (Prog.always_ask.mpr fetched) fun _ => by simp

theorem readRecordAt_readOnly (key : Key) : (readRecordAt P key).Always Request.ReadOnly :=
  readRecordAt_always trivial

theorem readRecordAt_returns {key : Key} {d : Dict Value}
    (h : Prog.Reaches P (readRecordAt P key) c t (pure d) c') :
    c' = c ∧ readRecord P (c.get key) = .ok d := by
  obtain ⟨answer, c₁, x, found, t', applied, decoded, -, h⟩ := Prog.reaches_ask_bind_pure h
  simp only [Request.apply, Prod.mk.injEq, Except.ok.injEq] at applied
  obtain ⟨rfl, rfl⟩ := applied
  obtain rfl := Option.some.inj decoded
  cases read : readRecord P (c.get key) with
  | error e =>
    rw [read] at h
    cases Prog.reaches_raise.mp h |>.2.1
  | ok d' =>
    rw [read] at h
    obtain ⟨-, same, rfl⟩ := Prog.reaches_pure.mp h
    cases same
    exact ⟨rfl, rfl⟩

/-- The cookie block makes at most one request, for randomness. -/
theorem ensureCookieSecret_always {ok : Request → Prop} (random : ok .urandom) (data : Dict Value) :
    (ensureCookieSecret data).Always ok := by
  unfold ensureCookieSecret
  split
  · trivial
  · exact Prog.Always.bind (Prog.always_ask.mpr random) fun _ => trivial

theorem ensureCookieSecret_readOnly (data : Dict Value) :
    (ensureCookieSecret data).Always Request.ReadOnly :=
  ensureCookieSecret_always trivial data

theorem ensureCookieSecret_returns {data d : Dict Value}
    (h : Prog.Reaches P (ensureCookieSecret data) c t (pure d) c') :
    c' = c ∧ ∃ random, d = withCookie data random := by
  unfold ensureCookieSecret at h
  split at h
  · next stored =>
    obtain ⟨-, same, rfl⟩ := Prog.reaches_pure.mp h
    cases same
    exact ⟨rfl, "", by rw [withCookie, if_pos stored]⟩
  · next missing =>
    obtain ⟨_, c₁, _, random, t', applied, -, -, rest⟩ := Prog.reaches_ask_bind_pure h
    obtain rfl : c₁ = c := (congrArg Prod.fst applied).symm
    obtain ⟨-, same, rfl⟩ := Prog.reaches_pure.mp rest
    cases same
    exact ⟨rfl, random, by rw [withCookie, if_neg missing]⟩

/-- The client block makes at most one request, a registration. -/
theorem ensureClient_always {ok : Request → Prop}
    (registers : ∀ registration, ok (.registerClient registration)) (cfg : Config)
    (service : Service) (issuer serviceDomain : String) (data : Dict Value) :
    (ensureClient cfg service issuer serviceDomain data).Always ok := by
  unfold ensureClient
  split
  · simp only [Prog.bind_eq, Prog.ofExcept_bind]
    split <;> [split <;> trivial; trivial]
  · split
    · trivial
    · simp only [Prog.bind_eq, Prog.emit, Prog.log_bind, Prog.pure_bind', Prog.always_log]
      exact Prog.Always.bind (Prog.always_ask.mpr (registers _)) fun _ => trivial

theorem ensureClient_readOnly (cfg : Config) (service : Service) (issuer serviceDomain : String)
    (data : Dict Value) :
    (ensureClient cfg service issuer serviceDomain data).Always Request.ReadOnly :=
  ensureClient_always (fun _ => trivial) cfg service issuer serviceDomain data

theorem ensureClient_registers (cfg : Config) (service : Service) (issuer serviceDomain : String)
    (data : Dict Value) :
    (ensureClient cfg service issuer serviceDomain data).Always
      (RegistersOnlyIf (service.config.get? "auth-oidc-client-id" = none ∧
        data.get? "client-id" = none)) := by
  unfold ensureClient
  split
  · simp only [Prog.bind_eq, Prog.ofExcept_bind]
    split <;> [split <;> trivial; trivial]
  · next noConfig =>
    split
    · trivial
    · next noClient =>
      simp only [Prog.bind_eq, Prog.emit, Prog.log_bind, Prog.pure_bind', Prog.always_log]
      refine Prog.Always.bind (Prog.always_ask.mpr fun _ => ?_) fun _ => trivial
      simp_all

theorem ensureClient_returns {cfg : Config} {service : Service} {issuer serviceDomain : String}
    {data d : Dict Value}
    (h : Prog.Reaches P (ensureClient cfg service issuer serviceDomain data) c t (pure d) c') :
    c' = c ∧ ∃ registered, withClient service.config data registered = .ok d := by
  refine ⟨(ensureClient_readOnly cfg service issuer serviceDomain data).reaches_readOnly h, ?_⟩
  unfold ensureClient at h
  split at h
  · next named =>
    simp only [Prog.bind_eq, Prog.ofExcept_bind] at h
    refine ⟨("", ""), ?_⟩
    simp only [withClient, named, if_true]
    split at h
    · split at h
      · obtain ⟨-, same, -⟩ := Prog.reaches_pure.mp h
        cases same
        simp_all [bind, Except.bind, pure, Except.pure]
      · cases Prog.reaches_raise.mp h |>.2.1
    · cases Prog.reaches_raise.mp h |>.2.1
  · next unnamed =>
    split at h
    · next stored =>
      obtain ⟨-, same, -⟩ := Prog.reaches_pure.mp h
      cases same
      exact ⟨("", ""), by rw [withClient, if_neg unnamed, if_pos stored]; rfl⟩
    · next missing =>
      simp only [Prog.bind_eq, Prog.emit, Prog.log_bind, Prog.pure_bind'] at h
      obtain ⟨_, -, h⟩ := Prog.reaches_log_pure h
      obtain ⟨_, _, _, client, t', -, -, -, h⟩ := Prog.reaches_ask_bind_pure h
      obtain ⟨-, same, -⟩ := Prog.reaches_pure.mp h
      cases same
      exact ⟨client, by rw [withClient, if_neg unnamed, if_neg missing]; rfl⟩

theorem credentials_eq_ok {d : Dict Value} {cookieSecret clientId clientSecret : Value} :
    credentials d = .ok (cookieSecret, clientId, clientSecret) ↔
      d.get? "cookie-secret" = some cookieSecret ∧ d.get? "client-id" = some clientId ∧
        d.get? "client-secret" = some clientSecret := by
  unfold credentials Dict.getItem
  split <;> split <;> split <;> simp_all [bind, Except.bind, pure, Except.pure]

theorem writeRecord_reaches {key : Key} {existing next : Dict Value} {q : Prog Unit}
    (h : Prog.Reaches P (writeRecord key existing next) c t q c') :
    c' = c ∨ next.beq existing = false ∧
      ∃ m, patchStringData P (c.get key) next = some m ∧ c' = c.set key m := by
  unfold writeRecord at h
  split at h
  · next changed =>
    rw [← Prog.bind_pure' (Prog.send _)] at h
    rcases Prog.reaches_send_bind h with ⟨-, -, rfl⟩ | ⟨e, -, -, rfl⟩ |
      ⟨answer, x, c₁, t', applied, -, rest⟩
    · exact .inl rfl
    · exact .inl rfl
    · obtain ⟨m, patched, rfl⟩ := apply_createOrPatch applied
      obtain ⟨-, -, rfl⟩ := Prog.reaches_pure.mp rest
      exact .inr ⟨by simpa using changed, m, patched, rfl⟩
  · exact .inl (Prog.reaches_pure.mp h).2.2

theorem writeRecord_returns {key : Key} {existing next : Dict Value}
    (h : Prog.Reaches P (writeRecord key existing next) c t (pure ()) c') :
    next.beq existing = true ∧ c' = c ∨ next.beq existing = false ∧
      ∃ m, patchStringData P (c.get key) next = some m ∧ c' = c.set key m := by
  unfold writeRecord at h
  split at h
  · next changed =>
    rw [← Prog.bind_pure' (Prog.send _)] at h
    obtain ⟨answer, x, c₁, t', applied, -, rest⟩ := Prog.reaches_send_bind_pure h
    obtain ⟨m, patched, rfl⟩ := apply_createOrPatch applied
    obtain ⟨-, -, rfl⟩ := Prog.reaches_pure.mp rest
    exact .inr ⟨by simpa using changed, m, patched, rfl⟩
  · next unchanged => exact .inl ⟨by simpa using unchanged, (Prog.reaches_pure.mp h).2.2⟩

theorem writeRecord_registers (allowed : Prop) (key : Key) (existing next : Dict Value) :
    (writeRecord key existing next).Always (RegistersOnlyIf allowed) := by
  unfold writeRecord
  split
  · exact Prog.always_send.mpr (by rintro ⟨_, ⟨⟩⟩)
  · trivial

variable {cfg : Config} {service : Service} {issuer serviceDomain : String} {key : Key}

/-- The update after the read, stopped anywhere, has written nothing, or has patched in a
completed record that differs from the one read. -/
theorem updateRecord_reaches {existing : Dict Value} {q : Prog (Value × Value × Value)}
    (h : Prog.Reaches P (updateRecord cfg service issuer serviceDomain key existing) c t q c') :
    c' = c ∨ ∃ random registered next m,
      withClient service.config (withCookie existing random) registered = .ok next ∧
      next.beq existing = false ∧ patchStringData P (c.get key) next = some m ∧
      c' = c.set key m := by
  unfold updateRecord at h
  simp only [Prog.bind_eq] at h
  rcases Prog.reaches_bind_readOnly (ensureCookieSecret_readOnly existing) h with ⟨rfl, -⟩ |
    ⟨n, t₁, t₂, -, cookie, h⟩
  · exact .inl rfl
  obtain ⟨-, random, rfl⟩ := ensureCookieSecret_returns cookie
  rcases Prog.reaches_bind_readOnly (ensureClient_readOnly cfg service issuer serviceDomain _) h
    with ⟨rfl, -⟩ | ⟨next, t₃, t₄, -, client, h⟩
  · exact .inl rfl
  obtain ⟨-, registered, completed⟩ := ensureClient_returns client
  rcases Prog.reaches_bind h with ⟨p', -, within⟩ | ⟨u, t₅, c₁, t₆, -, written, rest⟩
  · rcases writeRecord_reaches within with same | ⟨changed, m, patched, rfl⟩
    · exact .inl same
    · exact .inr ⟨random, registered, next, m, completed, changed, patched, rfl⟩
  · obtain ⟨rfl, -⟩ := Prog.reaches_ofExcept rest
    rcases writeRecord_reaches written with same | ⟨changed, m, patched, rfl⟩
    · exact .inl same
    · exact .inr ⟨random, registered, next, m, completed, changed, patched, rfl⟩

/-- A completed update returns the values of the completed record, which it wrote if it
changed. -/
theorem updateRecord_returns {existing : Dict Value} {creds : Value × Value × Value}
    (h : Prog.Reaches P (updateRecord cfg service issuer serviceDomain key existing) c t
      (pure creds) c') :
    ∃ random registered next,
      withClient service.config (withCookie existing random) registered = .ok next ∧
      credentials next = .ok creds ∧
      (next.beq existing = true ∧ c' = c ∨ next.beq existing = false ∧
        ∃ m, patchStringData P (c.get key) next = some m ∧ c' = c.set key m) := by
  unfold updateRecord at h
  simp only [Prog.bind_eq] at h
  obtain ⟨n, t₁, c₁, t₂, -, cookie, afterCookie⟩ := Prog.reaches_bind_pure h
  obtain ⟨rfl, random, rfl⟩ := ensureCookieSecret_returns cookie
  obtain ⟨next, t₃, c₂, t₄, -, client, afterClient⟩ := Prog.reaches_bind_pure afterCookie
  obtain ⟨rfl, registered, completed⟩ := ensureClient_returns client
  obtain ⟨u, t₅, c₃, t₆, -, written, rest⟩ := Prog.reaches_bind_pure afterClient
  obtain ⟨returned, rfl⟩ := Prog.reaches_ofExcept_pure rest
  exact ⟨random, registered, next, completed, returned, writeRecord_returns written⟩

/-- The update registers a client only where neither the config nor the record read has one. -/
theorem updateRecord_registers (existing : Dict Value) :
    (updateRecord cfg service issuer serviceDomain key existing).Always
      (RegistersOnlyIf (service.config.get? "auth-oidc-client-id" = none ∧
        existing.get? "client-id" = none)) := by
  have rest : ∀ n : Dict Value, n.get? "client-id" = existing.get? "client-id" →
      ((ensureClient cfg service issuer serviceDomain n).bind fun next =>
        (writeRecord key existing next).bind fun _ => Prog.ofExcept (credentials next)).Always
        (RegistersOnlyIf (service.config.get? "auth-oidc-client-id" = none ∧
          existing.get? "client-id" = none)) := by
    intro n same
    refine ((ensureClient_registers cfg service issuer serviceDomain n).mono ?_).bind fun next =>
      (writeRecord_registers _ key existing next).bind fun _ => by simp
    intro r allowed registration
    rw [← same]
    exact allowed registration
  unfold updateRecord ensureCookieSecret
  simp only [Prog.bind_eq]
  split
  · exact rest existing rfl
  · simp only [Prog.bind_assoc', Prog.pure_bind']
    exact (Prog.always_ask.mpr (by rintro ⟨_, ⟨⟩⟩)).bind fun random =>
      rest _ (by simp)

/-- The update after the read asks for randomness, registers a client, and patches the record
it read. -/
theorem updateRecord_always {ok : Request → Prop} (random : ok .urandom)
    (registers : ∀ registration, ok (.registerClient registration))
    (patched : ∀ next, ok (.createOrPatch key next)) (existing : Dict Value) :
    (updateRecord cfg service issuer serviceDomain key existing).Always ok := by
  refine (ensureCookieSecret_always random existing).bind fun _ =>
    (ensureClient_always registers cfg service issuer serviceDomain _).bind fun next =>
      Prog.Always.bind ?_ fun _ => by simp
  unfold writeRecord
  split
  · exact Prog.always_send.mpr (patched next)
  · trivial

theorem readRecordAt_registers (key : Key) :
    (readRecordAt P key).Always (RegistersOnlyIf False) :=
  Prog.Always.bind (Prog.always_ask.mpr (by rintro ⟨_, ⟨⟩⟩)) fun _ => by simp

theorem get?_withCookie (data : Dict Value) (random k : String) :
    (withCookie data random).get? k =
      if k = "cookie-secret" then (data.get? k).or (some (.str random)) else data.get? k := by
  unfold withCookie
  split
  · next stored =>
    split
    · next same =>
      subst same
      obtain ⟨v, found⟩ := Option.isSome_iff_exists.mp (by simpa using stored)
      simp [found]
    · rfl
  · next missing =>
    rw [Bool.not_eq_true, Dict.contains_eq_false] at missing
    rw [Dict.get?_set]
    by_cases same : k = "cookie-secret"
    · subst same
      simp [missing]
    · simp [same, Ne.symm same]

/-- What `withClient` leaves: the config's client, the stored one, or the registered one. -/
theorem withClient_cases {config data : Dict Value} {registered : String × String}
    {next : Dict Value} (ok : withClient config data registered = .ok next) :
    (∃ clientId clientSecret, config.get? "auth-oidc-client-id" = some clientId ∧
        config.get? "auth-oidc-client-secret" = some clientSecret ∧
        next.get? "client-id" = some clientId ∧ next.get? "client-secret" = some clientSecret) ∨
      (config.get? "auth-oidc-client-id" = none ∧ data.get? "client-id" ≠ none ∧ next = data) ∨
      (config.get? "auth-oidc-client-id" = none ∧ data.get? "client-id" = none ∧
        next.get? "client-id" = some (.str registered.1) ∧
        next.get? "client-secret" = some (.str registered.2)) := by
  unfold withClient at ok
  split at ok
  · next named =>
    cases hid : config.getItem "auth-oidc-client-id" with
    | error e => simp [hid, bind, Except.bind] at ok
    | ok clientId =>
      cases hsecret : config.getItem "auth-oidc-client-secret" with
      | error e => simp [hid, hsecret, bind, Except.bind] at ok
      | ok clientSecret =>
        simp only [hid, hsecret, bind, Except.bind, pure, Except.pure, Except.ok.injEq] at ok
        subst ok
        exact .inl ⟨clientId, clientSecret, Dict.getItem_eq_ok.mp hid,
          Dict.getItem_eq_ok.mp hsecret, by simp, by simp⟩
  · next unnamed =>
    rw [Bool.not_eq_true, Dict.contains_eq_false] at unnamed
    split at ok
    · next stored =>
      cases ok
      exact .inr (.inl ⟨unnamed, Dict.contains_iff.mp stored, rfl⟩)
    · next missing =>
      rw [Bool.not_eq_true, Dict.contains_eq_false] at missing
      cases ok
      exact .inr (.inr ⟨unnamed, missing, by simp, by simp⟩)

/-- `withClient` touches only the client id and secret. -/
theorem withClient_other {config data : Dict Value} {registered : String × String}
    {next : Dict Value} (ok : withClient config data registered = .ok next) {k : String}
    (notId : k ≠ "client-id") (notSecret : k ≠ "client-secret") : next.get? k = data.get? k := by
  unfold withClient at ok
  split at ok
  · cases hid : config.getItem "auth-oidc-client-id" <;>
      cases hsecret : config.getItem "auth-oidc-client-secret" <;>
      simp only [hid, hsecret, bind, Except.bind, pure, Except.pure, reduceCtorEq,
        Except.ok.injEq] at ok
    subst ok
    simp [Ne.symm notId, Ne.symm notSecret]
  · split at ok <;> cases ok
    · rfl
    · simp [Ne.symm notId, Ne.symm notSecret]


/-- The key of the record for a release and an issuer. -/
def recordKey (P : Platform) (releaseName issuer : String) : Key :=
  (.secrets, recordName P releaseName issuer)

variable {releaseName : String}

theorem reconcileOidcSecret_eq (issued : issuerOf service.config = .ok issuer) :
    reconcileOidcSecret P cfg releaseName service serviceDomain =
      (readRecordAt P (recordKey P releaseName issuer)).bind
        (updateRecord cfg service issuer serviceDomain (recordKey P releaseName issuer)) := by
  simp [reconcileOidcSecret, issued, recordKey]

/-- A call, stopped anywhere, has changed nothing, or has patched into the record a completed
record that differs from the one it read. -/
theorem reconcileOidcSecret_reaches (issued : issuerOf service.config = .ok issuer)
    {q : Prog (Value × Value × Value)}
    (h : Prog.Reaches P (reconcileOidcSecret P cfg releaseName service serviceDomain) c t q c') :
    c' = c ∨ ∃ existing random registered next m,
      readRecord P (c.get (recordKey P releaseName issuer)) = .ok existing ∧
      withClient service.config (withCookie existing random) registered = .ok next ∧
      next.beq existing = false ∧
      patchStringData P (c.get (recordKey P releaseName issuer)) next = some m ∧
      c' = c.set (recordKey P releaseName issuer) m := by
  rw [reconcileOidcSecret_eq issued] at h
  rcases Prog.reaches_bind_readOnly (readRecordAt_readOnly _) h with ⟨rfl, -⟩ |
    ⟨existing, t₁, t₂, -, read, rest⟩
  · exact .inl rfl
  obtain ⟨-, read⟩ := readRecordAt_returns read
  rcases updateRecord_reaches rest with same | ⟨random, registered, next, m, completed, changed,
    patched, rfl⟩
  · exact .inl same
  · exact .inr ⟨existing, random, registered, next, m, read, completed, changed, patched, rfl⟩

/-- A call registers a client only where neither the config nor the stored record has one. -/
theorem reconcileOidcSecret_registers (issued : issuerOf service.config = .ok issuer)
    {q : Prog (Value × Value × Value)} {registration : ClientRegistration}
    (h : Prog.Reaches P (reconcileOidcSecret P cfg releaseName service serviceDomain) c t q c')
    (made : .request (.registerClient registration) ∈ t) :
    service.config.get? "auth-oidc-client-id" = none ∧ ∃ existing,
      readRecord P (c.get (recordKey P releaseName issuer)) = .ok existing ∧
      existing.get? "client-id" = none := by
  rw [reconcileOidcSecret_eq issued] at h
  rcases Prog.reaches_bind_readOnly (readRecordAt_readOnly _) h with ⟨-, p', within⟩ |
    ⟨existing, t₁, t₂, rfl, read, rest⟩
  · exact (((readRecordAt_registers _).reaches within).1 _ made ⟨_, rfl⟩).elim
  · obtain ⟨-, readBack⟩ := readRecordAt_returns read
    rcases List.mem_append.mp made with early | late
    · exact (((readRecordAt_registers _).reaches read).1 _ early ⟨_, rfl⟩).elim
    · obtain ⟨unnamed, missing⟩ :=
        ((updateRecord_registers existing).reaches rest).1 _ late ⟨_, rfl⟩
      exact ⟨unnamed, existing, readBack, missing⟩

/-- A completed call returns the values of the completed record, which it wrote if it changed. -/
theorem reconcileOidcSecret_returns (issued : issuerOf service.config = .ok issuer)
    {creds : Value × Value × Value}
    (h : Prog.Reaches P (reconcileOidcSecret P cfg releaseName service serviceDomain) c t
      (pure creds) c') :
    ∃ existing random registered next,
      readRecord P (c.get (recordKey P releaseName issuer)) = .ok existing ∧
      withClient service.config (withCookie existing random) registered = .ok next ∧
      credentials next = .ok creds ∧
      (next.beq existing = true ∧ c' = c ∨ next.beq existing = false ∧
        ∃ m, patchStringData P (c.get (recordKey P releaseName issuer)) next = some m ∧
          c' = c.set (recordKey P releaseName issuer) m) := by
  rw [reconcileOidcSecret_eq issued] at h
  obtain ⟨existing, t₁, c₁, t₂, -, read, rest⟩ := Prog.reaches_bind_pure h
  obtain ⟨rfl, read⟩ := readRecordAt_returns read
  obtain ⟨random, registered, next, completed, returned, written⟩ := updateRecord_returns rest
  exact ⟨existing, random, registered, next, read, completed, returned, written⟩

/-- A call completes only for a config whose issuer is a string. -/
theorem reconcileOidcSecret_issued {creds : Value × Value × Value}
    (h : Prog.Reaches P (reconcileOidcSecret P cfg releaseName service serviceDomain) c t
      (pure creds) c') :
    ∃ issuer, issuerOf service.config = .ok issuer := by
  unfold reconcileOidcSecret at h
  simp only [Prog.bind_eq] at h
  obtain ⟨issuer, t₁, c₁, t₂, -, issued, -⟩ := Prog.reaches_bind_pure h
  exact ⟨issuer, (Prog.reaches_ofExcept_pure issued).1⟩

/-- A call fetches and patches the record of the release at an issuer, asks for randomness,
and registers a client. -/
theorem reconcileOidcSecret_always {ok : Request → Prop} (random : ok .urandom)
    (registers : ∀ registration, ok (.registerClient registration))
    (record : ∀ issuer, ok (.fetch (recordKey P releaseName issuer)) ∧
      ∀ next, ok (.createOrPatch (recordKey P releaseName issuer) next)) :
    (reconcileOidcSecret P cfg releaseName service serviceDomain).Always ok :=
  (Prog.always_ofExcept _ _).bind fun issuer =>
    (readRecordAt_always (record issuer).1).bind
      (updateRecord_always random registers (record issuer).2)

/-- A call writes only the record of the release at some issuer. -/
theorem reconcileOidcSecret_within :
    (reconcileOidcSecret P cfg releaseName service serviceDomain).Always
      (Request.Within fun k => ∃ issuer, k = recordKey P releaseName issuer) := by
  refine reconcileOidcSecret_always ?_ (fun _ => ?_) fun issuer => ⟨?_, fun _ => ⟨issuer, rfl⟩⟩ <;>
    trivial


/-- `_oauth2_proxy_alpha_config`: the service-specific part of the alpha config, and the
SHA-256 of the whole config's YAML. -/
def oauth2ProxyAlphaConfig (P : Platform) (cfg : Config) (service : Service)
    (clientId clientSecret : Value) : Except Error (AlphaConfig × String) := do
  let issuerURL ← service.config.getItem "auth-oidc-issuer"
  let requireEmail := service.config.getD "auth-oidc-require-email" (.bool false)
  let config : AlphaConfig :=
    { clientID := clientId
      clientSecret := clientSecret
      loginURLParameters := cfg.ingress.oidc.forwardedQueryParams
      issuerURL := issuerURL
      insecureAllowUnverifiedEmail :=
        if !requireEmail.truthy then .bool true
        else service.config.getD "auth-oidc-allow-unverified-email" (.bool true)
      emailClaim := if requireEmail.truthy then "email" else "sub" }
  pure (config, P.hexdigest (P.yamlDump config))

/-- The release `_reconcile_oidc_proxy` ensures. -/
def proxyRelease (cfg : Config) (service : Service) (serviceDomain releaseName : String)
    (cookieSecret : Value) (config : AlphaConfig) (checksum : String) : Release where
  chart := ⟨cfg.ingress.oidc.oauth2ProxyChartName, cfg.ingress.oidc.oauth2ProxyChartRepo,
    cfg.ingress.oidc.oauth2ProxyChartVersion⟩
  defaults := cfg.ingress.oidc.oauth2ProxyDefaultValues
  values :=
    { fullnameOverride := releaseName
      configData := config
      checksum := checksum
      cookieSecret := cookieSecret
      cookieExpire := service.config.getD "auth-oidc-cookie-expire" (.str "24h")
      whitelistDomain := serviceDomain }

/-- `_reconcile_oidc_proxy`. -/
def reconcileOidcProxy (P : Platform) (cfg : Config) (releaseName : String) (service : Service)
    (serviceDomain : String) : Prog Unit := do
  let (cookieSecret, clientId, clientSecret) ←
    reconcileOidcSecret P cfg releaseName service serviceDomain
  let (config, checksum) ←
    Prog.ofExcept (oauth2ProxyAlphaConfig P cfg service clientId clientSecret)
  Prog.send (.ensureRelease releaseName
    (proxyRelease cfg service serviceDomain releaseName cookieSecret config checksum))

/-- `_reconcile_oidc_proxy` makes the requests of the record call, then ensures the release. -/
theorem reconcileOidcProxy_always {ok : Request → Prop}
    (record : (reconcileOidcSecret P cfg releaseName service serviceDomain).Always ok)
    (ensured : ∀ release, ok (.ensureRelease releaseName release)) :
    (reconcileOidcProxy P cfg releaseName service serviceDomain).Always ok :=
  record.bind fun ⟨_, _, _⟩ =>
    (Prog.always_ofExcept _ _).bind fun ⟨_, _⟩ => Prog.always_send.mpr (ensured _)

/-- `_reconcile_oidc_proxy` writes only the record and the release. -/
theorem reconcileOidcProxy_within :
    (reconcileOidcProxy P cfg releaseName service serviceDomain).Always (Request.Within fun k =>
      k = (.releases, releaseName) ∨ ∃ issuer, k = recordKey P releaseName issuer) :=
  reconcileOidcProxy_always (reconcileOidcSecret_within.mono fun _ => Request.Within.mono
    fun _ => .inr) fun _ => .inl rfl

/-- The TLS secret an ingress of the service names: the certificate the service pushed, or, with
TLS enabled, the shared wildcard secret or else `tls-<name>` (which cert-manager may fill). -/
def tlsSecretName (cfg : Config) (service : Service) : Option String :=
  if service.config.contains "tls-cert" then some s!"tls-{service.name}"
  else if cfg.ingress.tls.enabled then
    some (if cfg.ingress.tls.secretName = "" then s!"tls-{service.name}"
      else cfg.ingress.tls.secretName)
  else none

/-- The ingress of the `_oidc` path, without authentication. -/
def oidcIngress (cfg : Config) (releaseName : String) (service : Service)
    (serviceDomain : String) : Ingress where
  className := cfg.ingress.className
  host := serviceDomain
  path := "/_oidc"
  serviceName := releaseName
  portName := "http"
  tls := some ((tlsSecretName cfg service).toList.map fun secretName =>
    ⟨[serviceDomain], secretName⟩)
  edits := [.configureDefaults, .updateAnnotations cfg.ingress.annotations]

/-- `_reconcile_oidc_ingress`. -/
def reconcileOidcIngress (cfg : Config) (releaseName : String) (service : Service)
    (serviceDomain : String) : Prog Unit :=
  Prog.send (.createOrReplace (.ingresses, releaseName)
    ⟨labels cfg (.exact service.name), Dict.empty,
      .ingress (oidcIngress cfg releaseName service serviceDomain)⟩)

/-- A completed `_reconcile_oidc_proxy` installed the release with the values the record call
returned. -/
theorem reconcileOidcProxy_returns
    (h : Prog.Reaches P (reconcileOidcProxy P cfg releaseName service serviceDomain) c t
      (pure ()) c') :
    ∃ t₁ c₁ cookieSecret clientId clientSecret config checksum,
      Prog.Reaches P (reconcileOidcSecret P cfg releaseName service serviceDomain) c t₁
        (pure (cookieSecret, clientId, clientSecret)) c₁ ∧
      oauth2ProxyAlphaConfig P cfg service clientId clientSecret = .ok (config, checksum) ∧
      c' = c₁.set (.releases, releaseName)
        (releaseManifest (proxyRelease cfg service serviceDomain releaseName cookieSecret config
          checksum)) := by
  unfold reconcileOidcProxy at h
  simp only [Prog.bind_eq] at h
  obtain ⟨⟨cookieSecret, clientId, clientSecret⟩, t₁, c₁, t₂, -, secret, rest⟩ :=
    Prog.reaches_bind_pure h
  obtain ⟨⟨config, checksum⟩, t₃, c₂, t₄, -, alpha, installed⟩ := Prog.reaches_bind_pure rest
  obtain ⟨configured, rfl⟩ := Prog.reaches_ofExcept_pure alpha
  rw [← Prog.bind_pure' (Prog.send _)] at installed
  obtain ⟨answer, x, c₃, t₅, applied, -, done⟩ := Prog.reaches_send_bind_pure installed
  obtain ⟨-, -, rfl⟩ := Prog.reaches_pure.mp done
  simp only [Request.apply, Prod.mk.injEq] at applied
  exact ⟨t₁, _, cookieSecret, clientId, clientSecret, config, checksum, secret,
    configured, applied.1.symm⟩

end Zenith
