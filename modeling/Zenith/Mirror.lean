import Zenith.Reaches
import Mathlib.Data.String.Basic

/-!
# The TLS secret mirror

`TLSSecretMirror` copies the wildcard TLS secret from the sync component's own namespace into
the target namespace.  It handles the state the watch starts from and then every watch event in
turn, replacing the mirror with the latest source object or deleting it; it never reads the
mirror.  So once a run has handled its events, the mirror is a function of the latest source
state alone.
-/

namespace Zenith

namespace TLSSecretMirror

/-- A secret of the source namespace, as the watch reports it. -/
structure SourceSecret where
  objectNamespace : String
  name : String
  type : String
  data : Dict Value

/-- A watch event: its type (`ADDED`, `MODIFIED`, `DELETED`, ...) and the object. -/
structure WatchEvent where
  type : String
  object : SourceSecret

/-- The mirror `_update_mirror` writes for a source object. -/
def mirrorManifest (cfg : Config) (source : SourceSecret) : Manifest where
  labels := Dict.empty.set cfg.createdByLabel (.exact "zenith-sync")
  annotations :=
    Dict.empty.set cfg.tlsMirrorAnnotation s!"{source.objectNamespace}/{source.name}"
  body := .secret ⟨some source.type, source.data⟩

/-- `_update_mirror`. -/
def updateMirror (cfg : Config) (source : SourceSecret) : Prog Unit := do
  Prog.emit .info s!"Updating mirrored TLS secret '{cfg.ingress.tls.secretName}' in namespace '{cfg.targetNamespace}'"
  let _ ← Prog.request (.createOrReplace (.secrets, cfg.ingress.tls.secretName)
    (mirrorManifest cfg source))

/-- `_delete_mirror`. -/
def deleteMirror (cfg : Config) : Prog Unit := do
  Prog.emit .info s!"Deleting mirrored TLS secret '{cfg.ingress.tls.secretName}' in namespace '{cfg.targetNamespace}'"
  let _ ← Prog.request (.delete (.secrets, cfg.ingress.tls.secretName))

/-- The source state a watch event leaves behind. -/
def stateAfter (event : WatchEvent) : Option SourceSecret :=
  if event.type ≠ "DELETED" then some event.object else none

/-- The body of `async for event in events` in `run`. -/
def handleEvent (cfg : Config) (event : WatchEvent) : Prog Unit :=
  if event.type ≠ "DELETED" then updateMirror cfg event.object else deleteMirror cfg

/-- `async for event in events`. -/
def handleEvents (cfg : Config) : List WatchEvent → Prog Unit
  | [] => pure ()
  | event :: events => do
    handleEvent cfg event
    handleEvents cfg events

/-- The mirror of the state the watch starts from. -/
def mirrorInitial (cfg : Config) : Option SourceSecret → Prog Unit
  | some source => updateMirror cfg source
  | none => deleteMirror cfg

/-- `TLSSecretMirror.run`, from the initial state and the events the watch reports.  When
mirroring is not required the Python method sleeps forever, touching nothing. -/
def run (cfg : Config) (initial : Option SourceSecret) (events : List WatchEvent) : Prog Unit :=
  if cfg.ingress.tls.enabled && !cfg.ingress.tls.secretName.isEmpty then do
    Prog.emit .info s!"Mirroring TLS secret [secret: {cfg.ingress.tls.secretName}, from: {cfg.selfNamespace}, to: {cfg.targetNamespace}]"
    mirrorInitial cfg initial
    handleEvents cfg events
  else
    Prog.emit .info "Mirroring of wildcard TLS secret is not required"

/-- The latest source state observed: the last event's, or the initial state. -/
def latest (initial : Option SourceSecret) (events : List WatchEvent) : Option SourceSecret :=
  match events.getLast? with
  | some event => stateAfter event
  | none => initial

theorem latest_cons (initial : Option SourceSecret) (event : WatchEvent)
    (events : List WatchEvent) :
    latest initial (event :: events) = latest (stateAfter event) events := by
  unfold latest
  rw [List.getLast?_cons]
  cases events.getLast? <;> rfl

variable (cfg : Config)

/-- The cluster with the mirror of a source state in place: the source's mirror, or none. -/
def mirrorOf (state : Option SourceSecret) (c : Cluster) : Cluster :=
  match state with
  | some source => c.set (.secrets, cfg.ingress.tls.secretName) (mirrorManifest cfg source)
  | none => c.erase (.secrets, cfg.ingress.tls.secretName)

@[simp] theorem get_mirrorOf (state : Option SourceSecret) (c : Cluster) (k : Key) :
    (mirrorOf cfg state c).get k =
      if k = (.secrets, cfg.ingress.tls.secretName) then state.map (mirrorManifest cfg)
      else c.get k := by
  cases state <;> simp [mirrorOf]

theorem mirrorOf_mirrorOf (state earlier : Option SourceSecret) (c : Cluster) :
    mirrorOf cfg state (mirrorOf cfg earlier c) = mirrorOf cfg state c := by
  ext k : 1
  simp only [get_mirrorOf]
  split <;> rfl

variable {P : Platform} {cfg} {c c' : Cluster} {t : List Event}

theorem updateMirror_returns {source : SourceSecret}
    (h : Prog.Reaches P (updateMirror cfg source) c t (pure ()) c') :
    c' = mirrorOf cfg (some source) c := by
  simp only [updateMirror, Prog.bind_eq, Prog.emit, Prog.log_bind, Prog.pure_bind'] at h
  obtain ⟨_, -, h⟩ := Prog.reaches_log_pure h
  obtain ⟨answer, x, c₁, _, applied, -, h⟩ := Prog.reaches_request_bind_pure h
  obtain ⟨-, -, rfl⟩ := Prog.reaches_pure.mp h
  simp only [Request.apply, Prod.mk.injEq] at applied
  exact applied.1.symm

theorem deleteMirror_returns (h : Prog.Reaches P (deleteMirror cfg) c t (pure ()) c') :
    c' = mirrorOf cfg none c := by
  simp only [deleteMirror, Prog.bind_eq, Prog.emit, Prog.log_bind, Prog.pure_bind'] at h
  obtain ⟨_, -, h⟩ := Prog.reaches_log_pure h
  obtain ⟨answer, x, c₁, _, applied, -, h⟩ := Prog.reaches_request_bind_pure h
  obtain ⟨-, -, rfl⟩ := Prog.reaches_pure.mp h
  simp only [Request.apply, Prod.mk.injEq] at applied
  exact applied.1.symm

theorem mirrorInitial_returns {initial : Option SourceSecret}
    (h : Prog.Reaches P (mirrorInitial cfg initial) c t (pure ()) c') :
    c' = mirrorOf cfg initial c := by
  cases initial with
  | some source => exact updateMirror_returns h
  | none => exact deleteMirror_returns h

theorem handleEvent_returns {event : WatchEvent}
    (h : Prog.Reaches P (handleEvent cfg event) c t (pure ()) c') :
    c' = mirrorOf cfg (stateAfter event) c := by
  unfold handleEvent at h
  unfold stateAfter
  split
  · exact updateMirror_returns (by simpa [*] using h)
  · exact deleteMirror_returns (by simpa [*] using h)

/-- Handling events from a mirror of `state` ends with the mirror of the latest state. -/
theorem handleEvents_returns (events : List WatchEvent) (state : Option SourceSecret)
    {c' : Cluster} {t : List Event}
    (h : Prog.Reaches P (handleEvents cfg events) (mirrorOf cfg state c) t (pure ()) c') :
    c' = mirrorOf cfg (latest state events) c := by
  induction events generalizing state t with
  | nil =>
    obtain ⟨-, -, rfl⟩ := Prog.reaches_pure.mp h
    rfl
  | cons event events ih =>
    obtain ⟨_, _, c₁, _, -, first, rest⟩ := Prog.reaches_bind_pure h
    rw [handleEvent_returns first, mirrorOf_mirrorOf] at rest
    rw [ih _ rest, latest_cons]

theorem run_returns (mirroring : cfg.ingress.tls.enabled = true ∧ cfg.ingress.tls.secretName ≠ "")
    {initial : Option SourceSecret} {events : List WatchEvent}
    (h : Prog.Reaches P (run cfg initial events) c t (pure ()) c') :
    c' = mirrorOf cfg (latest initial events) c := by
  have named : cfg.ingress.tls.secretName.isEmpty = false :=
    Bool.eq_false_iff.mpr fun empty => mirroring.2 ((String.isEmpty_iff _).mp empty)
  have required : (cfg.ingress.tls.enabled && !cfg.ingress.tls.secretName.isEmpty) = true := by
    simp [mirroring.1, named]
  simp only [run, required, if_true, Prog.bind_eq, Prog.emit, Prog.log_bind,
    Prog.pure_bind'] at h
  obtain ⟨_, -, h⟩ := Prog.reaches_log_pure h
  obtain ⟨_, _, c₁, _, -, first, rest⟩ := Prog.reaches_bind_pure h
  rw [mirrorInitial_returns first] at rest
  exact handleEvents_returns events initial rest

/-- **The mirror tracks its source.**  Once a run has handled its events, the target secret exists
iff the latest source state is present, and then holds that source's type and data, the
created-by label and the annotation `<namespace>/<name>`; nothing else has changed. -/
theorem mirror_tracks_latest (P : Platform) (cfg : Config)
    (enabled : cfg.ingress.tls.enabled = true) (named : cfg.ingress.tls.secretName ≠ "")
    (initial : Option SourceSecret)
    (events : List WatchEvent) (env : Env) (c : Cluster)
    (done : ((run cfg initial events).run P env c).result = .ok ()) :
    (latest initial events = none →
      ((run cfg initial events).run P env c).cluster.get (.secrets, cfg.ingress.tls.secretName) =
        none) ∧
    (∀ source, latest initial events = some source →
      ((run cfg initial events).run P env c).cluster.get (.secrets, cfg.ingress.tls.secretName) =
        some ⟨Dict.empty.set cfg.createdByLabel (.exact "zenith-sync"),
          Dict.empty.set cfg.tlsMirrorAnnotation s!"{source.objectNamespace}/{source.name}",
          .secret ⟨some source.type, source.data⟩⟩) ∧
    ∀ k, k ≠ (.secrets, cfg.ingress.tls.secretName) →
      ((run cfg initial events).run P env c).cluster.get k = c.get k := by
  have h := Prog.reaches_run (P := P) (run cfg initial events) env c
  rw [done, run_returns ⟨enabled, named⟩ h] at *
  exact ⟨fun absent => by simp [absent], fun source present => by simp [present, mirrorManifest],
    fun k other => by simp [other]⟩

/-- The source is deleted and re-created with another type: the mirror is the re-created
secret's. -/
theorem mirror_tracks_latest_recreated :
    let cfg : Config := { (default : Config) with
      tlsMirrorAnnotation := "zenith.stackhpc.com/mirrors"
      ingress := { (default : IngressConfig) with
        tls := { enabled := true, secretName := "wildcard-tls", annotations := Dict.empty } } }
    let source : SourceSecret := ⟨"zenith", "wildcard-tls", "kubernetes.io/tls", Dict.empty⟩
    let events := [⟨"DELETED", source⟩, ⟨"ADDED", { source with type := "Opaque" }⟩]
    let env := Stream'.const ⟨false, "", ("", "")⟩
    ((run cfg (some source) events).run Platform.plain env Store.empty).result = .ok () ∧
      latest (some source) events = some { source with type := "Opaque" } ∧
      ((latest (some source) events = none →
        ((run cfg (some source) events).run Platform.plain env Store.empty).cluster.get
          (.secrets, cfg.ingress.tls.secretName) = none) ∧
      (∀ current, latest (some source) events = some current →
        ((run cfg (some source) events).run Platform.plain env Store.empty).cluster.get
          (.secrets, cfg.ingress.tls.secretName) =
          some ⟨Dict.empty.set cfg.createdByLabel (.exact "zenith-sync"),
            Dict.empty.set cfg.tlsMirrorAnnotation s!"{current.objectNamespace}/{current.name}",
            .secret ⟨some current.type, current.data⟩⟩) ∧
      ∀ k, k ≠ (.secrets, cfg.ingress.tls.secretName) →
        ((run cfg (some source) events).run Platform.plain env Store.empty).cluster.get k =
          (Store.empty : Cluster).get k) :=
  ⟨rfl, rfl, mirror_tracks_latest _ _ rfl (by decide) _ _ _ _ rfl⟩

end TLSSecretMirror

end Zenith
