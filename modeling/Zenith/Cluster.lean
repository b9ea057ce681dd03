import Zenith.Python
import Zenith.Store
import Mathlib.Data.Stream.Defs
import Mathlib.Data.Finset.Image

/-!
# The cluster, the registrations and the requests between them

The reconciler turns service registrations into objects of its target namespace: services,
endpoints, ingresses, secrets, and the Helm releases of the OIDC proxies.  Objects are kept by
kind and name, each with its labels, annotations and content.  A Helm release is one object
`(releases, name)`: it stands for everything Helm keeps and creates for the release, its
storage secrets `sh.helm.release.v1.<name>.v<revision>` and the chart's objects (the Service
and Deployment `<name>` among them), none of which the reconciler reads.  The reconciler talks to
the cluster, to Helm, to the operating system's random source and to OIDC identity providers only
through the requests of this file; `Request.perform` gives each request's effect and answer.

Ingresses are kept as built: their base fields and the edits applied to them in order, the
ingress modifier's controller-specific mutations included.  Any modifier is a function of that
record, so two ingresses with equal records are equal ingresses for every controller.
-/

namespace Zenith

/-- One address of a backend, as the registration source reports it. -/
structure Endpoint where
  address : String
  port : Int
  deriving DecidableEq, Repr

/-- A registered service: its name, its endpoints and its per-service directives. -/
structure Service where
  name : String
  endpoints : List Endpoint
  config : Dict Value

structure TLSConfig where
  enabled : Bool
  /-- The shared wildcard secret; the empty string when none is configured. -/
  secretName : String
  annotations : Dict String
  deriving Inhabited

structure ExternalAuthConfig where
  /-- The auth-request URL; the empty string when external auth is not configured. -/
  url : String
  signinUrl : Option String
  nextUrlParam : Option String
  requestHeaders : Dict String
  responseHeaders : List String
  paramHeaderPrefix : String
  deriving Inhabited

structure OIDCConfig where
  forwardedQueryParams : List String
  oauth2ProxyChartName : String
  oauth2ProxyChartRepo : String
  oauth2ProxyChartVersion : String
  oauth2ProxyDefaultValues : Dict String
  deriving Inhabited

structure IngressConfig where
  baseDomain : String
  className : String
  annotations : Dict String
  tls : TLSConfig
  externalAuth : ExternalAuthConfig
  oidc : OIDCConfig
  deriving Inhabited

/-- The settings of the sync component that the reconciler and the mirror read. -/
structure Config where
  createdByLabel : String
  serviceNameLabel : String
  targetNamespace : String
  selfNamespace : String
  clusterServicesDomain : String
  reconciliationRetries : Int
  tlsMirrorAnnotation : String
  ingress : IngressConfig
  /-- Not a setting: the model's bound on the retries when `reconciliation_retries` is at most 0,
  where the Python loop retries until an attempt succeeds. -/
  retryBound : Nat
  deriving Inhabited

/-- A label value in a selector: a fixed value, or easykube's `PRESENT`. -/
inductive LabelValue where
  | exact (value : String)
  | present
  deriving DecidableEq, Repr

/-- `ServiceReconciler._labels`: the ownership label pair. -/
def labels (cfg : Config) (name : LabelValue) : Dict LabelValue :=
  (Dict.empty.set cfg.createdByLabel (.exact "zenith-sync")).set cfg.serviceNameLabel name

/-- Whether an object's labels satisfy a label selector. -/
def selects (selector objectLabels : Dict LabelValue) : Bool :=
  selector.items.all fun item => match item.2 with
    | .present => objectLabels.contains item.1
    | .exact value => decide (objectLabels.get? item.1 = some (.exact value))

theorem labels_items (cfg : Config) (name : LabelValue) :
    (labels cfg name).items =
      if cfg.createdByLabel = cfg.serviceNameLabel then [(cfg.serviceNameLabel, name)]
      else [(cfg.createdByLabel, .exact "zenith-sync"), (cfg.serviceNameLabel, name)] := by
  by_cases same : cfg.createdByLabel = cfg.serviceNameLabel <;>
    simp [labels, Dict.set, Dict.empty, assign, same]

@[simp] theorem get?_labels (cfg : Config) (name : LabelValue) (k : String) :
    (labels cfg name).get? k =
      if cfg.serviceNameLabel = k then some name
      else if cfg.createdByLabel = k then some (.exact "zenith-sync") else none := by
  simp [labels]

/-- The selector for one name picks out exactly the objects labelled with that name. -/
theorem selects_labels (cfg : Config) (n : String) (objectLabels : Dict LabelValue) :
    selects (labels cfg (.exact n)) objectLabels = true ↔
      objectLabels.get? cfg.serviceNameLabel = some (.exact n) ∧
        (cfg.createdByLabel ≠ cfg.serviceNameLabel →
          objectLabels.get? cfg.createdByLabel = some (.exact "zenith-sync")) := by
  unfold selects
  rw [labels_items]
  by_cases same : cfg.createdByLabel = cfg.serviceNameLabel <;> simp [same, and_comm]

theorem selects_labels_labels (cfg : Config) (n m : String) :
    selects (labels cfg (.exact n)) (labels cfg (.exact m)) = true ↔ n = m := by
  rw [selects_labels]
  by_cases same : cfg.createdByLabel = cfg.serviceNameLabel <;> simp [same, eq_comm]

/-- An object labelled as a service's own carries the ownership labels the scan selects. -/
theorem selects_present_of_exact {cfg : Config} {n : String} {objectLabels : Dict LabelValue}
    (selected : selects (labels cfg (.exact n)) objectLabels = true) :
    selects (labels cfg .present) objectLabels = true := by
  rw [selects_labels] at selected
  unfold selects
  rw [labels_items]
  by_cases same : cfg.createdByLabel = cfg.serviceNameLabel <;>
    simp [same, Dict.contains_eq, selected.1, selected.2]

structure ServicePort where
  protocol : String
  port : Int
  targetPort : String

/-- One entry of an ingress's TLS section. -/
structure IngressTLS where
  hosts : List String
  secretName : String

/-- The edits applied to an ingress while it is built, in order: the ingress modifier's
mutations (`configure_*`) and the reconciler's own dictionary updates. -/
inductive IngressEdit where
  | configureDefaults
  | updateAnnotations (annotations : Dict String)
  | configureBackendProtocol (protocol : Value)
  | configureReadTimeout (seconds : Int)
  | setTLS (tls : List IngressTLS)
  | configureTLSClientCertificates (targetNamespace secretName : String)
  | configureAuthentication (url : String) (signinUrl : Option String)
      (nextUrlParam : Option String) (requestHeaders : Option (Dict String))
      (responseHeaders : List String) (responseCookies : Option (List String))

/-- An ingress: one rule for `host`, routing `path` to a port of a backend service. -/
structure Ingress where
  className : String
  host : String
  path : String
  serviceName : String
  portName : String
  tls : Option (List IngressTLS)
  edits : List IngressEdit

structure Secret where
  type : Option String
  data : Dict Value

structure Chart where
  name : String
  repo : String
  version : String

/-- The varying part of the oauth2-proxy alpha config; its injected headers, static upstream
and provider id are constants of `_oauth2_proxy_alpha_config`. -/
structure AlphaConfig where
  clientID : Value
  clientSecret : Value
  loginURLParameters : List String
  issuerURL : Value
  insecureAllowUnverifiedEmail : Value
  emailClaim : String

/-- The service-specific values `_reconcile_oidc_proxy` gives the oauth2-proxy release. -/
structure ProxyValues where
  fullnameOverride : String
  configData : AlphaConfig
  checksum : String
  cookieSecret : Value
  cookieExpire : Value
  whitelistDomain : String

structure Release where
  chart : Chart
  defaults : Dict String
  values : ProxyValues

inductive Body where
  | service (ports : List ServicePort)
  | endpoints (subsets : List Endpoint)
  | ingress (ingress : Ingress)
  | secret (secret : Secret)
  | release (release : Release)

structure Manifest where
  labels : Dict LabelValue
  annotations : Dict String
  body : Body

/-- The kinds of objects the reconciler touches; Helm releases are kept beside them. -/
inductive Kind where
  | services
  | endpoints
  | ingresses
  | secrets
  | releases
  deriving DecidableEq, Repr

abbrev Key := Kind × String

/-- The objects of the target namespace. -/
abbrev Cluster := Store Key Manifest

/-- Deterministic library functions the code calls: SHA-256 as hex, base64, YAML serialisation
of the alpha config, and Python's parsing of integer strings. -/
structure Platform where
  hexdigest : String → String
  hexdigest_length : ∀ s, (hexdigest s).length = 64
  b64encode : String → String
  b64decode : String → Option String
  b64decode_encode : ∀ s, b64decode (b64encode s) = some s
  yamlDump : AlphaConfig → String
  parseInt : String → Option Int

/-- A platform with trivial hashing and encoding, to run the model on small inputs. -/
def Platform.plain : Platform where
  hexdigest _ := "0000000000000000000000000000000000000000000000000000000000000000"
  hexdigest_length _ := rfl
  b64encode s := s
  b64decode s := some s
  b64decode_encode _ := rfl
  yamlDump _ := ""
  parseInt s := s.toInt?

/-- The dynamic client registration the reconciler asks an identity provider for. -/
structure ClientRegistration where
  issuer : String
  token : Option Value
  redirectUri : String

inductive Request where
  | fetch (key : Key)
  | list (kind : Kind) (selector : Dict LabelValue)
  | createOrReplace (key : Key) (manifest : Manifest)
  | createOrPatch (key : Key) (stringData : Dict Value)
  | delete (key : Key)
  | deleteAll (kind : Kind) (selector : Dict LabelValue)
  | ensureRelease (name : String) (release : Release)
  | uninstallRelease (name : String)
  | urandom
  | registerClient (registration : ClientRegistration)

inductive Response where
  | done
  | object (manifest : Option Manifest)
  | names (names : Finset String)
  | random (value : String)
  | client (clientId clientSecret : String)

/-- What the world outside the program does with one request: whether it fails, the random
value `os.urandom` yields, and the client id and secret a registration returns. -/
structure Answer where
  fails : Bool
  random : String
  client : String × String

/-- The answers to the requests of a run, in order. -/
abbrev Env := Stream' Answer

def Value.isStr : Value → Bool
  | .str _ => true
  | _ => false

/-- The base64 form in which the API server keeps a `stringData` value. -/
def encodeValue (P : Platform) : Value → Value
  | .str s => .str (P.b64encode s)
  | v => v

/-- The API server's merge of a `stringData` patch into a secret: every value must be a string;
each is stored base64-encoded under `data`, over what the secret already held. -/
def patchStringData (P : Platform) (existing : Option Manifest) (stringData : Dict Value) :
    Option Manifest :=
  if stringData.items.all (·.2.isStr) then
    let encoded := stringData.map (encodeValue P)
    some <| match existing with
      | some ⟨objectLabels, annotations, .secret s⟩ =>
        ⟨objectLabels, annotations, .secret { s with data := s.data.update encoded }⟩
      | _ => ⟨Dict.empty, Dict.empty, .secret ⟨none, encoded⟩⟩
  else none

/-- The names of the objects of a kind that a selector picks out. -/
def listNames (c : Cluster) (kind : Kind) (selector : Dict LabelValue) : Finset String :=
  (c.keys.filter fun key => key.1 = kind ∧
    ((c.get key).map fun m => selects selector m.labels) = some true).image Prod.snd

theorem mem_listNames {c : Cluster} {kind : Kind} {selector : Dict LabelValue} {name : String}
    {m : Manifest} (found : c.get (kind, name) = some m)
    (selected : selects selector m.labels = true) :
    name ∈ listNames c kind selector := by
  simp only [listNames, Finset.mem_image, Finset.mem_filter, Store.mem_keys]
  exact ⟨(kind, name), by simp [found, selected], rfl⟩

def releaseManifest (release : Release) : Manifest := ⟨Dict.empty, Dict.empty, .release release⟩

/-- A request's effect and answer when it goes through. -/
def Request.apply (P : Platform) (answer : Answer) (c : Cluster) :
    Request → Cluster × Except Error Response
  | fetch key => (c, .ok (.object (c.get key)))
  | list kind selector => (c, .ok (.names (listNames c kind selector)))
  | createOrReplace key manifest => (c.set key manifest, .ok .done)
  | createOrPatch key stringData =>
    match patchStringData P (c.get key) stringData with
    | some m => (c.set key m, .ok .done)
    | none => (c, .error .apiError)
  | delete key => (c.erase key, .ok .done)
  | deleteAll kind selector =>
    (c.filter fun key m => !(decide (key.1 = kind) && selects selector m.labels), .ok .done)
  | ensureRelease name release => (c.set (.releases, name) (releaseManifest release), .ok .done)
  | uninstallRelease name => (c.erase (.releases, name), .ok .done)
  | urandom => (c, .ok (.random answer.random))
  | registerClient _ => (c, .ok (.client answer.client.1 answer.client.2))

/-- Every request but `os.urandom` can fail. -/
def Request.mayFail : Request → Bool
  | urandom => false
  | _ => true

/-- A request against the cluster: a failed request changes nothing and raises. -/
def Request.perform (P : Platform) (answer : Answer) (c : Cluster) (r : Request) :
    Cluster × Except Error Response :=
  if answer.fails && r.mayFail then (c, .error .apiError) else r.apply P answer c

/-- The objects a request may change lie in `foot`. -/
def Request.Within (foot : Key → Prop) : Request → Prop
  | fetch _ | list _ _ | urandom | registerClient _ => True
  | createOrReplace key _ | createOrPatch key _ | delete key => foot key
  | deleteAll kind _ => ∀ name, foot (kind, name)
  | ensureRelease name _ | uninstallRelease name => foot (.releases, name)

/-- A request that never changes the cluster. -/
def Request.ReadOnly (r : Request) : Prop := r.Within fun _ => False

/-- A request leaves alone every object outside its footprint. -/
theorem Request.get_perform {P : Platform} {r : Request} {foot : Key → Prop} {k : Key}
    (within : r.Within foot) (outside : ¬ foot k) (answer : Answer) (c : Cluster) :
    (r.perform P answer c).1.get k = c.get k := by
  have other : ∀ key, foot key → k ≠ key := fun key inFoot same => outside (same ▸ inFoot)
  unfold perform
  split
  · rfl
  · cases r with
    | createOrPatch key stringData =>
      simp only [apply]
      split <;> simp [other key within]
    | deleteAll kind selector =>
      have : k.1 ≠ kind := by
        rintro rfl
        exact outside (within k.2)
      simp only [apply, Store.get_filter, this, decide_False, Bool.false_and, Bool.not_false]
      cases c.get k <;> rfl
    | ensureRelease name release => simp [apply, other _ within]
    | uninstallRelease name => simp [apply, other _ within]
    | createOrReplace key manifest => simp [apply, other key within]
    | delete key => simp [apply, other key within]
    | _ => rfl

theorem Request.Within.mono {r : Request} {foot foot' : Key → Prop}
    (wider : ∀ k, foot k → foot' k) (within : r.Within foot) : r.Within foot' := by
  cases r <;> simp_all [Within]

theorem Request.ReadOnly.within {r : Request} (readOnly : r.ReadOnly) (foot : Key → Prop) :
    r.Within foot := by
  cases r <;> simp_all [ReadOnly, Within]

end Zenith
