import Zenith.Footprint

/-!
# The reconciler's run

`ServiceReconciler.run` scans the Service objects that carry the ownership labels, gathers one
`_try_reconcile_service` per registration of the subscription's snapshot and one
`_try_remove_service` per scanned name without a registration, and then handles the events of the
subscription one at a time.  `ReconcilerRun` is a run that has handled its events with every
try-operation completed; `RunPrefix` is a run stopped anywhere.

What a run leaves is stated name by name, against what the run did last for the name (`LastOp`).
A completed reconcile leaves the objects of `Reconciled`.  A completed removal leaves no object
labelled as the name's own and no oauth2-proxy release, but keeps the OIDC records, which carry no
labels.  A name the run does not work on keeps what an earlier removal, stopped after it deleted
the Service, left behind: the scan finds orphans by their Service alone.
-/

namespace Zenith

/-- The kind of an event of the service source. -/
inductive EventKind where
  | created
  | updated
  | deleted
  deriving DecidableEq, Repr

/-- An event of the service source. -/
structure ServiceEvent where
  kind : EventKind
  service : Service

/-- The log line that opens `run`, and the scan of the Service objects that carry the ownership
labels. -/
def scanServices (cfg : Config) : Prog (Finset String) := do
  Prog.emit .info s!"Reconciling services [namespace: {cfg.targetNamespace}]"
  Prog.list .services (labels cfg .present)

/-- `existing_services.difference(s.name for s in initial_services)`. -/
def orphanNames (existing : Finset String) (initial : List Service) : Finset String :=
  existing.filter (· ∉ initial.map Service.name)

/-- The body of the event loop. -/
def handleEvent (P : Platform) (cfg : Config) (event : ServiceEvent) : Prog Unit :=
  if event.kind = .deleted then tryRemoveService cfg event.service.name
  else tryReconcileService P cfg event.service

/-- The event loop of `run`, over the events the subscription has delivered. -/
def eventLoop (P : Platform) (cfg : Config) : List ServiceEvent → Prog Unit
  | [] => pure ()
  | event :: events => do
    handleEvent P cfg event
    eventLoop P cfg events

/-- Whether a trace logs that a try-operation for `name` gave up. -/
def gaveUp (cfg : Config) (name : String) : List Event → Bool
  | [] => false
  | .log entry :: t => (["reconcile", "remove"].any fun verb =>
      entry.message == giveUpMessage verb name cfg.reconciliationRetries) || gaveUp cfg name t
  | .request _ :: t => gaveUp cfg name t

/-- The event loop handling `events` in turn from `c` to `c'`, each handling returning without
giving up. -/
inductive HandlesEvents (P : Platform) (cfg : Config) : List ServiceEvent → Cluster → Cluster → Prop
  | nil (c : Cluster) : HandlesEvents P cfg [] c c
  | cons {event : ServiceEvent} {events : List ServiceEvent} {c c₁ c' : Cluster} {t : List Event}
      (handled : Prog.Reaches P (handleEvent P cfg event) c t (pure ()) c₁)
      (completed : gaveUp cfg event.service.name t = false)
      (rest : HandlesEvents P cfg events c₁ c') : HandlesEvents P cfg (event :: events) c c'

/-- A run from `c` that has handled all of `events` at `c'`: the scan, a schedule that finished
the startup tasks (orphans in any order), each task returning alone without giving up, and the
event loop handling every event without giving up. -/
inductive ReconcilerRun (P : Platform) (cfg : Config) (initial : List Service)
    (events : List ServiceEvent) (c c' : Cluster) : Prop
  | mk {c₁ : Cluster} {existing : Finset String} {t : List Event}
      (services : List (Service × Env)) (orphans : List (String × Env)) (schedule : List Nat)
      (scanned : Prog.Reaches P (scanServices cfg) c t (pure existing) c₁)
      (registered : services.map Prod.fst = initial)
      (orphaned : (orphans.map Prod.fst).Nodup ∧
        (orphans.map Prod.fst).toFinset = orphanNames existing initial)
      (done : (gather P schedule (startupTasks P cfg services orphans) c₁).1.all Task.finished)
      (completed : ∀ job ∈ startupJobs P cfg services orphans,
        (job.2.prog.run P job.2.env c₁).result = .ok () ∧
          gaveUp cfg job.1 (job.2.prog.run P job.2.env c₁).trace = false)
      (handled : HandlesEvents P cfg events
        (gather P schedule (startupTasks P cfg services orphans) c₁).2 c')

/-- A run of `ServiceReconciler.run` from `c` that has got as far as `c'`: the scan, a schedule
of the startup gather, and the event loop stopped after any of its steps.  Neither the gather's
tasks nor any try-operation need have completed. -/
inductive RunPrefix (P : Platform) (cfg : Config) (initial : List Service)
    (events : List ServiceEvent) (c c' : Cluster) : Prop
  | mk {c₁ : Cluster} {existing : Finset String} {t t' : List Event} {q : Prog Unit}
      (services : List (Service × Env)) (orphans : List (String × Env)) (schedule : List Nat)
      (scanned : Prog.Reaches P (scanServices cfg) c t (pure existing) c₁)
      (registered : services.map Prod.fst = initial)
      (orphaned : (orphans.map Prod.fst).toFinset = orphanNames existing initial)
      (looped : Prog.Reaches P (eventLoop P cfg events)
        (gather P schedule (startupTasks P cfg services orphans) c₁).2 t' q c')

/-- The clusters that earlier runs of this code can leave: from a cluster in which no object
carries the ownership labels, any sequence of reconciles and removes, each of which may stop
after any of its steps. -/
inductive Reachable (P : Platform) (cfg : Config) : Cluster → Prop
  | start {c : Cluster}
      (unlabelled : ∀ k m name, c.get k = some m →
        selects (labels cfg (.exact name)) m.labels = false) :
      Reachable P cfg c
  | reconcile {c c' : Cluster} {t : List Event} {q : Prog Unit} (service : Service)
      (before : Reachable P cfg c)
      (stopped : Prog.Reaches P (reconcileService P cfg service) c t q c') :
      Reachable P cfg c'
  | remove {c c' : Cluster} {t : List Event} {q : Prog Unit} (name : String)
      (before : Reachable P cfg c) (stopped : Prog.Reaches P (removeService cfg name) c t q c') :
      Reachable P cfg c'

/-- What the run did last for a name.  This and the three functions after it are read off the
spec (the snapshot updated by the events), not off the source. -/
inductive LastOp where
  | reconciled (service : Service)
  | removed
  | untouched

/-- After the startup gather: each registration of the snapshot reconciled, each orphan removed. -/
def startupOp (initial : List Service) (orphans : Finset String) (name : String) : LastOp :=
  match initial.find? (·.name == name) with
  | some service => .reconciled service
  | none => if name ∈ orphans then .removed else .untouched

/-- After an event: its name removed, or reconciled with the event's registration. -/
def eventOp (last : String → LastOp) (event : ServiceEvent) (name : String) : LastOp :=
  if event.service.name = name then
    if event.kind = .deleted then .removed else .reconciled event.service
  else last name

/-- After the startup gather and the events. -/
def lastOp (initial : List Service) (orphans : Finset String) (events : List ServiceEvent) :
    String → LastOp :=
  events.foldl eventOp (startupOp initial orphans)

/-- What a completed `_remove_service` leaves: no object of the kinds it deletes labelled as the
name's own, and no oauth2-proxy release. -/
structure Removed (cfg : Config) (name : String) (c : Cluster) : Prop where
  labelled : ∀ k m, c.get k = some m → k.1 ≠ .releases →
    selects (labels cfg (.exact name)) m.labels = false
  release : c.get (.releases, s!"oidc-{name}") = none

/-- What the last operation for a name leaves on its footprint. -/
def LastOp.Holds (P : Platform) (cfg : Config) : LastOp → String → Cluster → Prop
  | .reconciled service, name, c => service.name = name ∧ Reconciled P cfg service c
  | .removed, name, c => Removed cfg name c
  | .untouched, _, _ => True

variable {P : Platform} {cfg : Config} {c c' : Cluster} {t : List Event}

theorem giveUp_not_mem {name : String} {t : List Event} (completed : gaveUp cfg name t = false)
    {verb : String} (known : verb = "reconcile" ∨ verb = "remove") (level : Level) :
    Event.log ⟨level, giveUpMessage verb name cfg.reconciliationRetries⟩ ∉ t := by
  induction t with
  | nil => exact List.not_mem_nil _
  | cons event t ih =>
    cases event with
    | request r =>
      simp only [gaveUp] at completed
      simpa using ih completed
    | log entry =>
      simp only [gaveUp, Bool.or_eq_false_iff] at completed
      refine List.not_mem_cons_of_ne_of_not_mem (fun same => ?_) (ih completed.2)
      cases same
      rcases known with rfl | rfl <;> simp at completed

/-- How a turn of the retry loop returns: its attempt completed; or the loop logged its give-up
line; or the loop reached its next turn, which returned. -/
theorem tryOperation_reaches_pure {operation : Prog Unit} {retries : Int} {verb name : String}
    {fuel attempt : Nat}
    (h : Prog.Reaches P
      (tryOperation (Prog.emit .exception) retries verb name operation fuel attempt)
      c t (pure ()) c') :
    Prog.Reaches P operation c t (pure ()) c' ∨
      Event.log ⟨.exception, giveUpMessage verb name retries⟩ ∈ t ∨
      ∃ fuel' t₁ c₁ t₂, fuel = fuel' + 1 ∧ t = t₁ ++ t₂ ∧
        Prog.Reaches P
          (tryOperation (Prog.emit .exception) retries verb name operation fuel attempt) c t₁
          (tryOperation (Prog.emit .exception) retries verb name operation fuel' (attempt + 1)) c₁ ∧
        Prog.Reaches P
          (tryOperation (Prog.emit .exception) retries verb name operation fuel' (attempt + 1))
          c₁ t₂ (pure ()) c' := by
  rw [tryOperation.eq_def, Prog.tryCatch_eq'] at h
  rcases Prog.reaches_tryCatch_pure h with returned | ⟨e, t₁, c₁, t₂, rfl, raised, handled⟩
  · exact .inl returned
  split at handled
  · obtain ⟨t', rfl, -⟩ := Prog.reaches_log_pure handled
    exact .inr (.inl (List.mem_append_right _ (List.mem_cons_self _ _)))
  · next notLast =>
    simp only [Prog.bind_eq, Prog.emit, Prog.log_bind, Prog.pure_bind'] at handled
    obtain ⟨t', rfl, retried⟩ := Prog.reaches_log_pure handled
    cases fuel with
    | zero => cases (Prog.reaches_raise.mp retried).2.1
    | succ fuel =>
      refine .inr (.inr ⟨fuel, t₁ ++ [.log ⟨.exception,
        s!"Failed to {verb} {name} on attempt {attempt} - retrying"⟩], c₁, t', rfl, by simp, ?_,
        retried⟩)
      rw [tryOperation.eq_def, Prog.tryCatch_eq']
      apply (raised.tryCatch _).trans
      simp only [Prog.tryCatch, if_neg notLast, Prog.bind_eq, Prog.emit, Prog.log_bind,
        Prog.pure_bind']
      exact .log (.refl _ _)

/-- A retry loop that returned without logging its give-up line ended with a completed attempt,
from a cluster the loop had reached. -/
theorem tryOperation_completes {operation : Prog Unit} {retries : Int} {verb name : String}
    (fuel : Nat) : ∀ {attempt : Nat} {c c' : Cluster} {t : List Event},
      Prog.Reaches P (tryOperation (Prog.emit .exception) retries verb name operation fuel attempt)
        c t (pure ()) c' →
      Event.log ⟨.exception, giveUpMessage verb name retries⟩ ∉ t →
      ∃ c₀ t₀ t₁ q, Prog.Reaches P
          (tryOperation (Prog.emit .exception) retries verb name operation fuel attempt) c t₁ q c₀ ∧
        Prog.Reaches P operation c₀ t₀ (pure ()) c' := by
  induction fuel with
  | zero =>
    intro attempt c c' t h kept
    rcases tryOperation_reaches_pure h with returned | gaveUp | ⟨_, _, _, _, impossible, -⟩
    · exact ⟨c, t, [], _, .refl _ _, returned⟩
    · exact absurd gaveUp kept
    · cases impossible
  | succ fuel ih =>
    intro attempt c c' t h kept
    rcases tryOperation_reaches_pure h with returned | gaveUp |
      ⟨_, t₁, c₁, t₂, same, rfl, next, retried⟩
    · exact ⟨c, _, [], _, .refl _ _, returned⟩
    · exact absurd gaveUp kept
    · cases same
      obtain ⟨c₀, t₀, t₃, q, within, done⟩ :=
        ih retried fun mem => kept (List.mem_append_right _ mem)
      exact ⟨c₀, t₀, t₁ ++ t₃, q, next.trans within, done⟩

theorem tryReconcileService_completes {service : Service}
    (h : Prog.Reaches P (tryReconcileService P cfg service) c t (pure ()) c')
    (completed : gaveUp cfg service.name t = false) :
    ∃ c₀ t₀ t₁ q, Prog.Reaches P (tryReconcileService P cfg service) c t₁ q c₀ ∧
      Prog.Reaches P (reconcileService P cfg service) c₀ t₀ (pure ()) c' :=
  tryOperation_completes _ h (giveUp_not_mem completed (.inl rfl) _)

theorem tryRemoveService_completes {name : String}
    (h : Prog.Reaches P (tryRemoveService cfg name) c t (pure ()) c')
    (completed : gaveUp cfg name t = false) :
    ∃ c₀ t₀ t₁ q, Prog.Reaches P (tryRemoveService cfg name) c t₁ q c₀ ∧
      Prog.Reaches P (removeService cfg name) c₀ t₀ (pure ()) c' :=
  tryOperation_completes _ h (giveUp_not_mem completed (.inr rfl) _)

theorem scanServices_returns {existing : Finset String}
    (h : Prog.Reaches P (scanServices cfg) c t (pure existing) c') :
    c' = c ∧ existing = listNames c .services (labels cfg .present) := by
  simp only [scanServices, Prog.bind_eq, Prog.emit, Prog.log_bind, Prog.pure_bind'] at h
  obtain ⟨_, -, h⟩ := Prog.reaches_log_pure h
  rw [← Prog.bind_pure' (Prog.list _ _)] at h
  obtain ⟨_, _, _, names, _, applied, decoded, -, h⟩ := Prog.reaches_ask_bind_pure h
  simp only [Request.apply, Prod.mk.injEq, Except.ok.injEq] at applied
  obtain ⟨rfl, rfl⟩ := applied
  obtain ⟨-, same, rfl⟩ := Prog.reaches_pure.mp h
  cases same
  exact ⟨rfl, (Option.some.inj decoded).symm⟩

/-- A completed `_remove_service` deleted every object labelled as the name's own and the
oauth2-proxy release. -/
theorem removeService_returns {name : String}
    (h : Prog.Reaches P (removeService cfg name) c t (pure ()) c') : Removed cfg name c' := by
  simp only [removeService, Prog.bind_eq, Prog.emit, Prog.log_bind, Prog.pure_bind'] at h
  obtain ⟨_, -, h⟩ := Prog.reaches_log_pure h
  obtain ⟨a₁, x₁, c₁, t₁, applied₁, -, h⟩ := Prog.reaches_send_bind_pure h
  obtain ⟨a₂, x₂, c₂, t₂, applied₂, -, h⟩ := Prog.reaches_send_bind_pure h
  obtain ⟨a₃, x₃, c₃, t₃, applied₃, -, h⟩ := Prog.reaches_send_bind_pure h
  obtain ⟨a₄, x₄, c₄, t₄, applied₄, -, h⟩ := Prog.reaches_send_bind_pure h
  obtain ⟨a₅, x₅, applied₅, -⟩ := Prog.reaches_send_pure h
  obtain rfl := congrArg Prod.fst applied₅
  obtain rfl := congrArg Prod.fst applied₄
  obtain rfl := congrArg Prod.fst applied₃
  obtain rfl := congrArg Prod.fst applied₂
  obtain rfl := congrArg Prod.fst applied₁
  refine ⟨fun ⟨kind, n⟩ m found notRelease => ?_, by simp [Request.apply]⟩
  have other : ((kind, n) : Key) ≠ (.releases, s!"oidc-{name}") :=
    fun same => notRelease (congrArg Prod.fst same)
  simp only [Request.apply, Store.get_erase, Store.get_filter, if_neg other,
    Option.filter_eq_some, Option.mem_filter_iff] at found
  obtain ⟨⟨⟨⟨-, ingresses⟩, endpoints⟩, services⟩, secrets⟩ := found
  cases kind
  · simpa using services
  · simpa using endpoints
  · simpa using ingresses
  · simpa using secrets
  · exact absurd rfl notRelease

theorem Reconciled.frame {service : Service} (reconciled : Reconciled P cfg service c)
    (same : ∀ k, Footprint P service.name k → c'.get k = c.get k) :
    Reconciled P cfg service c' := by
  obtain ⟨services, endpoints, ⟨ingress, built, stored⟩, tls, oidc, noOidc⟩ := reconciled
  refine ⟨(same _ Footprint.service).trans services, (same _ Footprint.endpoints).trans endpoints,
    ⟨ingress, built, (same _ Footprint.ingress).trans stored⟩,
    tls.frame fun k inFoot => same k ?_, fun uses => (oidc uses).frame fun k inFoot => same k ?_,
    fun uses => ?_⟩
  · rcases inFoot with rfl | rfl
    exacts [Footprint.tlsSecret, Footprint.clientCaSecret]
  · rcases inFoot with rfl | rfl | ⟨issuer, rfl⟩
    exacts [Footprint.oidcIngress, Footprint.release, Footprint.record issuer]
  · exact ⟨(same _ Footprint.oidcIngress).trans (noOidc uses).1,
      (same _ Footprint.release).trans (noOidc uses).2⟩

/-- A removal's result survives where the footprint is kept and labelled objects stay in their
owners' footprints. -/
theorem Removed.frame {name : String} (removed : Removed cfg name c)
    (same : ∀ k, Footprint P name k → c'.get k = c.get k) (labelled : LabelsOwned P cfg c') :
    Removed cfg name c' := by
  refine ⟨fun k m found notRelease => ?_, (same _ Footprint.release).trans removed.release⟩
  by_cases inFoot : Footprint P name k
  · exact removed.labelled k m ((same k inFoot).symm.trans found) notRelease
  · exact Bool.eq_false_iff.mpr fun selected => inFoot (labelled k m name found selected)

theorem LastOp.Holds.frame {op : LastOp} {name : String} (holds : op.Holds P cfg name c)
    (same : ∀ k, Footprint P name k → c'.get k = c.get k) (labelled : LabelsOwned P cfg c') :
    op.Holds P cfg name c' := by
  cases op with
  | reconciled service => exact ⟨holds.1, holds.2.frame (holds.1 ▸ same)⟩
  | removed => exact Removed.frame holds same labelled
  | untouched => trivial

/-- An operation for another, apart name leaves a name's result as it was. -/
theorem LastOp.Holds.reaches {α : Type} {op : LastOp} {name other : String} {p q : Prog α}
    (holds : op.Holds P cfg name c) (owned : p.Always (Request.Owned P cfg other))
    (h : Prog.Reaches P p c t q c') (labelled : LabelsOwned P cfg c) (apart : Apart name other) :
    op.Holds P cfg name c' :=
  holds.frame (fun _ inFoot => Request.Owned.reaches_frame owned h labelled (apart.disjoint inFoot))
    (labelled.reaches owned h)

theorem Reachable.labelsOwned (reachable : Reachable P cfg c) : LabelsOwned P cfg c := by
  induction reachable with
  | start unlabelled =>
    intro k m name found selected
    rw [unlabelled k m name found] at selected
    cases selected
  | reconcile service _ stopped ih => exact ih.reaches reconcileService_owned stopped
  | remove name _ stopped ih => exact ih.reaches (removeService_owned name) stopped

theorem handleEvent_owned (event : ServiceEvent) :
    (handleEvent P cfg event).Always (Request.Owned P cfg event.service.name) := by
  unfold handleEvent
  split
  · exact tryOperation_always (removeService_owned _) _ _ _ _ _
  · exact tryOperation_always reconcileService_owned _ _ _ _ _

/-- A handling that returned without giving up leaves what the event asks for. -/
theorem handleEvent_holds {event : ServiceEvent} (last : String → LastOp)
    (h : Prog.Reaches P (handleEvent P cfg event) c t (pure ()) c')
    (completed : gaveUp cfg event.service.name t = false) :
    (eventOp last event event.service.name).Holds P cfg event.service.name c' := by
  unfold handleEvent at h
  unfold eventOp
  split at h
  · next deleted =>
    obtain ⟨_, _, _, _, -, done⟩ := tryRemoveService_completes h completed
    rw [if_pos rfl, if_pos deleted]
    exact removeService_returns done
  · next kept =>
    obtain ⟨_, _, _, _, -, done⟩ := tryReconcileService_completes h completed
    rw [if_pos rfl, if_neg kept]
    exact ⟨rfl, reconcileService_returns done⟩

/-- **The event loop, name by name.**  Handled in turn, the events leave every name's result as
the last operation for it says, provided the names are pairwise apart. -/
theorem HandlesEvents.holds {named : String → Prop}
    (apart : ∀ n m, named n → named m → n ≠ m → Apart n m) {events : List ServiceEvent}
    (h : HandlesEvents P cfg events c c') (eventsNamed : ∀ event ∈ events, named event.service.name)
    (labelled : LabelsOwned P cfg c) {last : String → LastOp}
    (holds : ∀ n, named n → (last n).Holds P cfg n c) :
    ∀ n, named n → (events.foldl eventOp last n).Holds P cfg n c' := by
  induction h generalizing last with
  | nil => exact holds
  | @cons event events c c₁ c' t handled completed rest ih =>
    have eventNamed := eventsNamed event (List.mem_cons_self _ _)
    refine ih (fun e mem => eventsNamed e (List.mem_cons_of_mem _ mem))
      (labelled.reaches (handleEvent_owned event) handled) fun n isNamed => ?_
    by_cases same : event.service.name = n
    · subst same
      exact handleEvent_holds last handled completed
    · rw [eventOp, if_neg same]
      exact (holds n isNamed).reaches (handleEvent_owned event) handled labelled
        (apart n _ isNamed eventNamed (Ne.symm same))

/-- Events handled in turn, each without giving up, are a run of the event loop. -/
theorem HandlesEvents.reaches {events : List ServiceEvent} (h : HandlesEvents P cfg events c c') :
    ∃ t, Prog.Reaches P (eventLoop P cfg events) c t (pure ()) c' := by
  induction h with
  | nil c => exact ⟨[], .refl _ _⟩
  | cons handled _ _ ih =>
    obtain ⟨t, rest⟩ := ih
    exact ⟨_, (handled.bind _).trans rest⟩

/-- Every request of the event loop lies in the footprint of one of the events' names. -/
theorem eventLoop_local (P : Platform) (cfg : Config) (events : List ServiceEvent) :
    (eventLoop P cfg events).Always (Request.Local P (LabelsOwned P cfg)
      fun k => ∃ event ∈ events, Footprint P event.service.name k) := by
  induction events with
  | nil => trivial
  | cons event events ih =>
    refine Prog.Always.bind ((handleEvent_owned event).mono fun _ owned =>
      owned.isLocal.widen fun k inFoot => ⟨event, List.mem_cons_self _ _, inFoot⟩) fun _ => ?_
    exact ih.mono fun _ isLocal => isLocal.widen fun k ⟨other, mem, inFoot⟩ =>
      ⟨other, List.mem_cons_of_mem _ mem, inFoot⟩

/-- After the startup gather, each registration of the snapshot is reconciled and each orphan
removed. -/
theorem startup_holds {services : List (Service × Env)} {orphans : List (String × Env)}
    {schedule : List Nat} (apart : (startupNames services orphans).Pairwise Apart)
    (labelled : LabelsOwned P cfg c)
    (done : (gather P schedule (startupTasks P cfg services orphans) c).1.all Task.finished)
    (completed : ∀ job ∈ startupJobs P cfg services orphans,
      (job.2.prog.run P job.2.env c).result = .ok () ∧
        gaveUp cfg job.1 (job.2.prog.run P job.2.env c).trace = false) (n : String) :
    (startupOp (services.map Prod.fst) (orphans.map Prod.fst).toFinset n).Holds P cfg n
      (gather P schedule (startupTasks P cfg services orphans) c).2 := by
  have apartJobs : ((startupJobs P cfg services orphans).map Prod.fst).Pairwise Apart :=
    startupJobs_names services orphans ▸ apart
  have alone : ∀ job ∈ startupJobs P cfg services orphans, ∀ k, Footprint P job.1 k →
      (gather P schedule (startupTasks P cfg services orphans) c).2.get k =
        (job.2.prog.run P job.2.env c).cluster.get k := fun _ member _ inFoot =>
    gather_owned_get startupJobs_owned apartJobs labelled done member inFoot
  unfold startupOp
  split
  · next service found =>
    obtain ⟨⟨s, env⟩, inServices, rfl⟩ := List.mem_map.mp (List.mem_of_find?_eq_some found)
    obtain rfl : s.name = n := by simpa using List.find?_some found
    have job : (s.name, (⟨tryReconcileService P cfg s, env⟩ : Task)) ∈
        startupJobs P cfg services orphans :=
      List.mem_append_left _ (List.mem_map.mpr ⟨(s, env), inServices, rfl⟩)
    obtain ⟨ok, kept⟩ := completed _ job
    obtain ⟨_, _, _, _, -, finished⟩ := tryReconcileService_completes (Prog.reaches_run_ok ok) kept
    exact ⟨rfl, (reconcileService_returns finished).frame (alone _ job)⟩
  · split
    · next orphan =>
      obtain ⟨⟨name, env⟩, inOrphans, rfl⟩ := List.mem_map.mp (List.mem_toFinset.mp orphan)
      have job : (name, (⟨tryRemoveService cfg name, env⟩ : Task)) ∈
          startupJobs P cfg services orphans :=
        List.mem_append_right _ (List.mem_map.mpr ⟨(name, env), inOrphans, rfl⟩)
      obtain ⟨ok, kept⟩ := completed _ job
      obtain ⟨_, _, _, _, -, finished⟩ := tryRemoveService_completes (Prog.reaches_run_ok ok) kept
      exact (removeService_returns finished).frame (alone _ job)
        (gather_owned_keep startupJobs_owned apartJobs labelled schedule)
    · trivial

/-- Any schedule of the startup gather, finished or not, and whatever the names, keeps every
labelled object in its owner's footprint and every object outside the tasks' footprints. -/
theorem startup_gather_frame (services : List (Service × Env)) (orphans : List (String × Env))
    (labelled : LabelsOwned P cfg c) (schedule : List Nat) :
    LabelsOwned P cfg (gather P schedule (startupTasks P cfg services orphans) c).2 ∧
      ∀ k, (∀ n ∈ startupNames services orphans, ¬ Footprint P n k) →
        (gather P schedule (startupTasks P cfg services orphans) c).2.get k = c.get k := by
  have owned : ∀ job ∈ startupJobs P cfg services orphans,
      job.2.prog.Always (Request.Owned P cfg job.1) := startupJobs_owned
  obtain ⟨keep, frame⟩ := gather_frame (jobs_local owned) labelled schedule
  refine ⟨keep, fun k outside => frame k fun i ⟨job, found, inFoot⟩ =>
    outside job.1 ?_ inFoot⟩
  rw [← startupJobs_names services orphans]
  exact List.mem_map_of_mem _ (List.getElem?_mem found)


/-- The names a run works on: the snapshot's registrations, the orphans its scan finds, and the
services of the events. -/
def runNames (cfg : Config) (c : Cluster) (initial : List Service) (events : List ServiceEvent) :
    Finset String :=
  (initial.map Service.name).toFinset ∪ orphanNames (listNames c .services (labels cfg .present))
    initial ∪ (events.map (·.service.name)).toFinset

theorem not_mem_orphanNames {existing : Finset String} {initial : List Service} {name : String}
    (registered : name ∈ initial.map Service.name) : name ∉ orphanNames existing initial :=
  fun orphan => (Finset.mem_filter.mp orphan).2 registered

/-- The events leave a name's last operation as it was unless one of them is for that name. -/
theorem foldl_eventOp_of_not_mem {n : String} :
    ∀ {events : List ServiceEvent} {last : String → LastOp},
      n ∉ events.map (·.service.name) → events.foldl eventOp last n = last n
  | [], _, _ => rfl
  | event :: events, last, absent => by
    rw [List.map_cons, List.mem_cons, not_or] at absent
    rw [List.foldl_cons, foldl_eventOp_of_not_mem absent.2, eventOp, if_neg (Ne.symm absent.1)]

/-- A name some event is for has a last operation. -/
theorem foldl_eventOp_touched {n : String} :
    ∀ {events : List ServiceEvent} {last : String → LastOp},
      n ∈ events.map (·.service.name) → events.foldl eventOp last n ≠ .untouched
  | [], _, named => absurd named (List.not_mem_nil _)
  | event :: events, last, named => by
    rw [List.foldl_cons]
    by_cases later : n ∈ events.map (·.service.name)
    · exact foldl_eventOp_touched later
    · have same : event.service.name = n := ((List.mem_cons.mp named).resolve_right later).symm
      rw [foldl_eventOp_of_not_mem later, eventOp, if_pos same]
      split <;> nofun

/-- Exactly the names a run works on have a last operation. -/
theorem lastOp_eq_untouched {initial : List Service} {orphans : Finset String}
    {events : List ServiceEvent} {n : String} :
    lastOp initial orphans events n = .untouched ↔
      n ∉ (initial.map Service.name).toFinset ∪ orphans ∪
        (events.map (·.service.name)).toFinset := by
  simp only [Finset.mem_union, List.mem_toFinset, not_or]
  by_cases named : n ∈ events.map (·.service.name)
  · exact iff_of_false (foldl_eventOp_touched named) fun absent => absent.2 named
  rw [lastOp, foldl_eventOp_of_not_mem named]
  unfold startupOp
  split
  · next service found =>
    refine iff_of_false nofun fun absent => absent.1.1 (List.mem_map.mpr
      ⟨service, List.mem_of_find?_eq_some found, ?_⟩)
    simpa using List.find?_some found
  · next notFound =>
    have unregistered : n ∉ initial.map Service.name := fun registered => by
      obtain ⟨s, mem, rfl⟩ := List.mem_map.mp registered
      simpa using List.find?_eq_none.mp notFound s mem
    split
    · exact iff_of_false nofun fun absent => absent.1.2 ‹_›
    · exact iff_of_true rfl ⟨⟨unregistered, ‹_›⟩, named⟩

/-- The startup tasks work on names of the run. -/
theorem mem_runNames_of_startup {services : List (Service × Env)} {orphans : List (String × Env)}
    {initial : List Service} {events : List ServiceEvent}
    (registered : services.map Prod.fst = initial)
    (orphaned : (orphans.map Prod.fst).toFinset =
      orphanNames (listNames c .services (labels cfg .present)) initial)
    {n : String} (named : n ∈ startupNames services orphans) :
    n ∈ runNames cfg c initial events := by
  simp only [startupNames, List.mem_append] at named
  simp only [runNames, Finset.mem_union, List.mem_toFinset]
  rcases named with registration | orphan
  · rw [← registered, List.map_map]
    exact .inl (.inl registration)
  · exact .inl (.inr (orphaned ▸ List.mem_toFinset.mpr orphan))

/-- **A run, name by name.**  From a cluster earlier runs can leave, a run over pairwise apart
names in which every try-operation completed leaves each name's result as the last operation for
it says. -/
theorem reconcilerRun_holds {initial : List Service} {events : List ServiceEvent}
    (reachable : Reachable P cfg c) (distinct : (initial.map Service.name).Nodup)
    (apart : ∀ n ∈ runNames cfg c initial events, ∀ m ∈ runNames cfg c initial events, n ≠ m →
      Apart n m)
    (run : ReconcilerRun P cfg initial events c c') :
    ∀ n ∈ runNames cfg c initial events,
      (lastOp initial (orphanNames (listNames c .services (labels cfg .present)) initial) events
        n).Holds P cfg n c' := by
  obtain @⟨c₁, existing, t, services, orphans, schedule, scanned, registered, orphaned, done,
    completed, handled⟩ := run
  obtain ⟨same, rfl⟩ := scanServices_returns scanned
  subst c₁
  have labelled := reachable.labelsOwned
  have names : startupNames services orphans =
      initial.map Service.name ++ orphans.map Prod.fst := by
    rw [← registered, startupNames, List.map_map]
    rfl
  have startApart : (startupNames services orphans).Pairwise Apart := by
    have named : ∀ n ∈ startupNames services orphans, n ∈ runNames cfg c initial events :=
      fun _ member => mem_runNames_of_startup registered orphaned.2 member
    refine List.Pairwise.imp_of_mem (fun ha hb ne => apart _ (named _ ha) _ (named _ hb) ne) ?_
    rw [names]
    refine List.nodup_append.mpr ⟨distinct, orphaned.1, fun n registered orphan => ?_⟩
    rw [← List.mem_toFinset, orphaned.2] at orphan
    exact not_mem_orphanNames registered orphan
  have started := startup_holds startApart labelled done completed
  rw [registered, orphaned.2] at started
  exact HandlesEvents.holds
    (fun n m (hn : n ∈ runNames cfg c initial events) hm => apart n hn m hm) handled
    (fun event mem => Finset.mem_union_right _ (List.mem_toFinset.mpr (List.mem_map_of_mem _ mem)))
    (gather_owned_keep startupJobs_owned (startupJobs_names services orphans ▸ startApart)
      labelled schedule)
    fun n _ => started n

/-- A completed run is a run stopped at its end. -/
theorem ReconcilerRun.runPrefix {initial : List Service} {events : List ServiceEvent}
    (run : ReconcilerRun P cfg initial events c c') : RunPrefix P cfg initial events c c' := by
  obtain ⟨services, orphans, schedule, scanned, registered, orphaned, -, -, handled⟩ := run
  obtain ⟨t, looped⟩ := handled.reaches
  exact .mk services orphans schedule scanned registered orphaned.2 looped

/-- A run stopped anywhere, under any interleaving of the gather, keeps every labelled object in
its owner's footprint and leaves as it was every object outside its names' footprints. -/
theorem RunPrefix.frame {initial : List Service} {events : List ServiceEvent}
    (labelled : LabelsOwned P cfg c) (run : RunPrefix P cfg initial events c c') :
    LabelsOwned P cfg c' ∧
      ∀ k, (∀ n ∈ runNames cfg c initial events, ¬ Footprint P n k) → c'.get k = c.get k := by
  obtain @⟨c₁, existing, t, t', q, services, orphans, schedule, scanned, registered, orphaned,
    looped⟩ := run
  obtain ⟨same, rfl⟩ := scanServices_returns scanned
  subst c₁
  obtain ⟨gathered, untouched⟩ := startup_gather_frame services orphans labelled schedule
  have loopLocal := eventLoop_local P cfg events
  refine ⟨loopLocal.reaches_keep looped gathered, fun k outside => ?_⟩
  refine (loopLocal.reaches_frame looped gathered fun ⟨event, mem, inFoot⟩ =>
    outside _ ?_ inFoot).trans
      (untouched k fun n named => outside n (mem_runNames_of_startup registered orphaned named))
  exact Finset.mem_union_right _ (List.mem_toFinset.mpr (List.mem_map_of_mem _ mem))

/-- **Convergence, as far as it holds.**  A completed run over apart names reconciles each name
registered at the end.  A name not registered has no Service labelled as its own: removed, it has
nothing labelled and no release; untouched, its footprint outside the run's names is as it was. -/
theorem reconcilerRun_converges {initial : List Service} {events : List ServiceEvent}
    (reachable : Reachable P cfg c) (distinct : (initial.map Service.name).Nodup)
    (apart : ∀ n ∈ runNames cfg c initial events, ∀ m ∈ runNames cfg c initial events, n ≠ m →
      Apart n m)
    (run : ReconcilerRun P cfg initial events c c') :
    (∀ n service, lastOp initial (orphanNames (listNames c .services (labels cfg .present)) initial)
        events n = .reconciled service → service.name = n ∧ Reconciled P cfg service c') ∧
      ∀ n, (∀ service, lastOp initial (orphanNames (listNames c .services (labels cfg .present))
          initial) events n ≠ .reconciled service) →
        (∀ k m, c'.get k = some m → k.1 = .services →
          selects (labels cfg (.exact n)) m.labels = false) ∧
        (lastOp initial (orphanNames (listNames c .services (labels cfg .present)) initial) events
          n = .removed → Removed cfg n c') ∧
        (lastOp initial (orphanNames (listNames c .services (labels cfg .present)) initial) events
          n = .untouched → ∀ k, Footprint P n k →
            (∀ m ∈ runNames cfg c initial events, ¬ Footprint P m k) → c'.get k = c.get k) := by
  have holds := reconcilerRun_holds reachable distinct apart run
  obtain ⟨owned, frame⟩ := run.runPrefix.frame reachable.labelsOwned
  have touched : ∀ n, lastOp initial (orphanNames (listNames c .services (labels cfg .present))
      initial) events n ≠ .untouched → n ∈ runNames cfg c initial events := fun n op => by
    by_contra outside
    exact op (lastOp_eq_untouched.mpr outside)
  refine ⟨fun n service last => by simpa only [last] using holds n (touched n (by simp [last])),
    fun n unregistered => ?_⟩
  cases op : lastOp initial (orphanNames (listNames c .services (labels cfg .present)) initial)
    events n with
  | reconciled service => exact absurd op (unregistered service)
  | removed =>
    have removed : Removed cfg n c' := by simpa only [op] using holds n (touched n (by simp [op]))
    exact ⟨fun k m found service => removed.labelled k m found (by rw [service]; decide),
      fun _ => removed, nofun⟩
  | untouched =>
    -- an unworked name's Service was not there to scan, so it is not there now
    refine ⟨fun k m found service => ?_, nofun, fun _ k _ outside => frame k outside⟩
    refine Bool.eq_false_iff.mpr fun selected => lastOp_eq_untouched.mp op ?_
    obtain rfl := Footprint.service_key (owned k m n found selected) service
    have before : c.get (.services, n) = some m :=
      (frame (.services, n) fun _ named inFoot => lastOp_eq_untouched.mp op
        ((Prod.mk.inj (Footprint.service_key inFoot rfl)).2 ▸ named)).symm.trans found
    simp only [orphanNames, Finset.mem_union, Finset.mem_filter, List.mem_toFinset]
    by_cases registered : n ∈ initial.map Service.name
    exacts [.inl (.inl registered),
      .inl (.inr ⟨mem_listNames before (selects_present_of_exact selected), registered⟩)]

set_option maxRecDepth 4000 in
/-- A service that uses OIDC, reconciled at startup and then deleted.  The removal deletes its
labelled objects and its release, but the OIDC record `oidc-web-<hash>`, which
`_reconcile_oidc_secret` writes without labels, remains. -/
theorem reconcilerRun_keeps_record :
    let cfg : Config := { (default : Config) with reconciliationRetries := 2 }
    let env : Env := Stream'.const ⟨false, "cookie", ("client", "secret")⟩
    let web : Service := ⟨"web", [],
      (Dict.empty.set "auth-type" (.str "oidc")).set "auth-oidc-issuer" (.str "https://idp")⟩
    let started := gather Platform.plain (List.replicate 20 0)
      (startupTasks Platform.plain cfg [(web, env)] []) Store.empty
    let c' := ((handleEvent Platform.plain cfg ⟨.deleted, web⟩).run Platform.plain env
      started.2).cluster
    let last := lastOp [web] (orphanNames (listNames Store.empty .services (labels cfg .present))
      [web]) [⟨.deleted, web⟩]
    Reachable Platform.plain cfg Store.empty ∧ ([web].map Service.name).Nodup ∧
      (∀ n ∈ runNames cfg Store.empty [web] [⟨.deleted, web⟩],
        ∀ m ∈ runNames cfg Store.empty [web] [⟨.deleted, web⟩], n ≠ m → Apart n m) ∧
      ReconcilerRun Platform.plain cfg [web] [⟨.deleted, web⟩] Store.empty c' ∧
      ((∀ n service, last n = .reconciled service →
          service.name = n ∧ Reconciled Platform.plain cfg service c') ∧
        ∀ n, (∀ service, last n ≠ .reconciled service) →
          (∀ k m, c'.get k = some m → k.1 = .services →
            selects (labels cfg (.exact n)) m.labels = false) ∧
          (last n = .removed → Removed cfg n c') ∧
          (last n = .untouched → ∀ k, Footprint Platform.plain n k →
            (∀ m ∈ runNames cfg Store.empty [web] [⟨.deleted, web⟩],
              ¬ Footprint Platform.plain m k) → c'.get k = (Store.empty : Cluster).get k)) ∧
      last "web" = .removed ∧
      (c'.get (recordKey Platform.plain "oidc-web" "https://idp")).isSome = true := by
  dsimp only
  have reachable : Reachable Platform.plain { (default : Config) with reconciliationRetries := 2 }
      Store.empty := .start fun _ _ _ found => by cases found
  refine ⟨reachable, by decide, by decide, ?run,
    reconcilerRun_converges reachable (by decide) (by decide) ?run, rfl, rfl⟩
  case run =>
  exact .mk [(⟨"web", [], (Dict.empty.set "auth-type" (Value.str "oidc")).set "auth-oidc-issuer"
      (Value.str "https://idp")⟩, Stream'.const ⟨false, "cookie", ("client", "secret")⟩)] []
    (List.replicate 20 0)
    (@Prog.reaches_run_ok _ _ _ (Stream'.const ⟨false, "cookie", ("client", "secret")⟩) _ _ rfl)
    rfl (by decide) (by decide)
    (by simp only [startupJobs, List.map_cons, List.map_nil, List.append_nil,
      List.forall_mem_cons]; exact ⟨⟨rfl, rfl⟩, fun _ member => nomatch member⟩)
    (.cons (@Prog.reaches_run_ok _ _ _
      (Stream'.const ⟨false, "cookie", ("client", "secret")⟩) _ _ rfl) rfl (.nil _))

set_option maxRecDepth 4000 in
/-- The OIDC service `web` reconciled, then a removal stopped when its secrets delete failed, then
a run with no registration and no event: the scan finds no Service labelled `web`, so the run
leaves the release `oidc-web` in place. -/
theorem reconcilerRun_keeps_interrupted :
    let cfg : Config := { (default : Config) with reconciliationRetries := 2 }
    let web : Service := ⟨"web", [],
      (Dict.empty.set "auth-type" (.str "oidc")).set "auth-oidc-issuer" (.str "https://idp")⟩
    let reconciled := ((reconcileService Platform.plain cfg web).run Platform.plain
      (Stream'.const ⟨false, "cookie", ("client", "secret")⟩) Store.empty).cluster
    let c := ((removeService cfg "web").run Platform.plain (fun i => ⟨i == 3, "", ("", "")⟩)
      reconciled).cluster
    Reachable Platform.plain cfg c ∧ ReconcilerRun Platform.plain cfg [] [] c c ∧
      lastOp [] (orphanNames (listNames c .services (labels cfg .present)) []) [] "web" =
        .untouched ∧
      (c.get (.releases, "oidc-web")).isSome = true := by
  dsimp only
  refine ⟨.remove "web" (.reconcile _ (.start fun _ _ _ found => by cases found)
    (Prog.reaches_run _ _ _)) (Prog.reaches_run _ _ _), ?_, rfl, rfl⟩
  exact .mk [] [] [] (@Prog.reaches_run_ok _ _ _ (Stream'.const ⟨false, "", ("", "")⟩) _ _ rfl)
    rfl ⟨List.nodup_nil, by decide⟩ rfl (fun _ member => nomatch member) (.nil _)

end Zenith
