import Mathlib.Data.String.Basic
import Zenith.Reconcile
import Zenith.Gather

/-!
# Name isolation

The operations for a service, `_reconcile_service` and `_remove_service` with their retry loops,
touch only the objects of its footprint: the Service, Endpoints and ingress of its name, the
`_oidc` ingress and the oauth2-proxy release `oidc-<name>`, the secrets `tls-<name>` and
`tls-client-ca-<name>`, and the OIDC records `oidc-<name>-<hash>`.  Removal deletes by the
service's labels, so it stays in the footprint only while every object labelled as a service's
own lies in that service's footprint (`LabelsOwned`), which every operation keeps.

Footprints of distinct names can overlap: the ingress `oidc-a` of a service named `oidc-a` is the
`_oidc` ingress of a service named `a`, and `tls-client-ca-a` is the TLS secret of a service named
`client-ca-a`.  For names clear of these collisions (`Apart`) the footprints are disjoint, so the
startup gather ends in the same cluster for every interleaving of its tasks.
-/

namespace Zenith

/-- The objects the operations for the service named `name` may touch. -/
def Footprint (P : Platform) (name : String) (k : Key) : Prop :=
  k = (.services, name) ∨ k = (.endpoints, name) ∨ k = (.ingresses, name) ∨
    k = (.ingresses, s!"oidc-{name}") ∨ k = (.secrets, s!"tls-{name}") ∨
    k = (.secrets, s!"tls-client-ca-{name}") ∨ k = (.releases, s!"oidc-{name}") ∨
    ∃ issuer, k = recordKey P s!"oidc-{name}" issuer

/-- Every object labelled as a service's own lies in that service's footprint. -/
def LabelsOwned (P : Platform) (cfg : Config) (c : Cluster) : Prop :=
  ∀ k m name, c.get k = some m → selects (labels cfg (.exact name)) m.labels = true →
    Footprint P name k

/-- A request of the operations for the service named `name`: on objects of its footprint,
writing objects labelled as its own, and deleting by its own labels. -/
def Request.Owned (P : Platform) (cfg : Config) (name : String) : Request → Prop
  | .fetch key | .createOrPatch key _ | .delete key => Footprint P name key
  | .createOrReplace key m => Footprint P name key ∧ m.labels = labels cfg (.exact name)
  | .deleteAll _ selector => selector = labels cfg (.exact name)
  | .ensureRelease release _ | .uninstallRelease release => Footprint P name (.releases, release)
  | .urandom | .registerClient _ => True
  | .list _ _ => False

theorem selects_labels_empty (cfg : Config) (name : String) :
    selects (labels cfg (.exact name)) Dict.empty = false := by
  rw [Bool.eq_false_iff, ne_eq, selects_labels]
  simp [Dict.get?, Dict.empty, lookup]

variable {P : Platform} {cfg : Config} {name : String}

theorem LabelsOwned.set {c : Cluster} {key : Key} {m : Manifest} (owned : LabelsOwned P cfg c)
    (labelled : ∀ n, selects (labels cfg (.exact n)) m.labels = true → Footprint P n key) :
    LabelsOwned P cfg (c.set key m) := by
  intro k m' n found selected
  by_cases same : k = key
  · subst same
    simp only [Store.get_set, if_true, Option.some_inj] at found
    exact labelled n (found ▸ selected)
  · rw [Store.get_set, if_neg same] at found
    exact owned k m' n found selected

theorem LabelsOwned.erase {c : Cluster} {key : Key} (owned : LabelsOwned P cfg c) :
    LabelsOwned P cfg (c.erase key) := by
  intro k m n found selected
  by_cases same : k = key
  · simp [same] at found
  · rw [Store.get_erase, if_neg same] at found
    exact owned k m n found selected

theorem LabelsOwned.filter {c : Cluster} {keep : Key → Manifest → Bool}
    (owned : LabelsOwned P cfg c) : LabelsOwned P cfg (c.filter keep) := by
  intro k m n found selected
  rw [Store.get_filter] at found
  exact owned k m n (Option.filter_eq_some.mp found).1 selected

/-- A patched secret keeps the labels of the object it patched, or has none. -/
theorem patchStringData_labels {found : Option Manifest} {stringData : Dict Value} {m : Manifest}
    (patched : patchStringData P found stringData = some m) :
    m.labels = Dict.empty ∨ ∃ old, found = some old ∧ m.labels = old.labels := by
  unfold patchStringData at patched
  split at patched
  · rw [Option.some_inj] at patched
    subst patched
    split
    · exact .inr ⟨_, rfl, rfl⟩
    · exact .inl rfl
  · cases patched

/-- An owned request changes nothing outside the footprint while every labelled object is owned:
deleting by the service's labels reaches only objects of its own footprint. -/
theorem Request.Owned.frame {r : Request} (owned : r.Owned P cfg name) (answer : Answer)
    {c : Cluster} (labelled : LabelsOwned P cfg c) {k : Key} (outside : ¬ Footprint P name k) :
    (r.perform P answer c).1.get k = c.get k := by
  cases r with
  | deleteAll kind selector =>
    subst owned
    unfold perform
    split
    · rfl
    · simp only [apply, Store.get_filter]
      cases found : c.get k with
      | none => rfl
      | some m =>
        have unselected : selects (labels cfg (.exact name)) m.labels = false :=
          Bool.eq_false_iff.mpr fun selected => outside (labelled k m name found selected)
        simp [unselected]
  | list => exact owned.elim
  | createOrReplace key m =>
    exact get_perform (show Within (Footprint P name) (.createOrReplace key m) from owned.1)
      outside answer c
  | _ =>
    refine get_perform ?_ outside answer c
    first | exact owned | trivial

/-- What an owned request answers, and leaves on the footprint, depends only on the footprint. -/
theorem Request.Owned.agree {r : Request} (owned : r.Owned P cfg name) (answer : Answer)
    {c d : Cluster} (same : ∀ k, Footprint P name k → c.get k = d.get k) :
    (r.perform P answer c).2 = (r.perform P answer d).2 ∧
      ∀ k, Footprint P name k →
        (r.perform P answer c).1.get k = (r.perform P answer d).1.get k := by
  unfold perform
  split
  · exact ⟨rfl, same⟩
  · cases r with
    | fetch key => exact ⟨by simp [apply, same key owned], same⟩
    | list => exact owned.elim
    | createOrPatch key stringData =>
      simp only [apply, same key owned]
      split
      · exact ⟨rfl, fun k inFoot => by simp [same k inFoot]⟩
      · exact ⟨rfl, same⟩
    | urandom => exact ⟨rfl, same⟩
    | registerClient => exact ⟨rfl, same⟩
    | _ => exact ⟨rfl, fun k inFoot => by simp [apply, same k inFoot]⟩

/-- An owned request keeps every labelled object in its owner's footprint. -/
theorem Request.Owned.keep {r : Request} (owned : r.Owned P cfg name) (answer : Answer)
    {c : Cluster} (labelled : LabelsOwned P cfg c) :
    LabelsOwned P cfg (r.perform P answer c).1 := by
  unfold perform
  split
  · exact labelled
  · cases r with
    | createOrReplace key m =>
      refine labelled.set fun n selected => ?_
      rw [owned.2, selects_labels_labels] at selected
      exact selected ▸ owned.1
    | createOrPatch key stringData =>
      simp only [apply]
      split
      · next m patched =>
        refine labelled.set fun n selected => ?_
        rcases patchStringData_labels patched with empty | ⟨old, found, same⟩
        · rw [empty, selects_labels_empty] at selected
          cases selected
        · exact labelled key old n found (same ▸ selected)
      · exact labelled
    | delete key => exact labelled.erase
    | deleteAll kind selector => exact labelled.filter
    | ensureRelease release manifest =>
      refine labelled.set fun n selected => ?_
      rw [releaseManifest, selects_labels_empty] at selected
      cases selected
    | uninstallRelease release => exact labelled.erase
    | list => exact owned.elim
    | _ => exact labelled

/-- The requests of a service's operations are local to its footprint, as long as every labelled
object lies in its owner's footprint. -/
theorem Request.Owned.isLocal {r : Request} (owned : r.Owned P cfg name) :
    r.Local P (LabelsOwned P cfg) (Footprint P name) :=
  ⟨fun answer _ labelled _ outside => owned.frame answer labelled outside,
    fun answer _ _ _ _ same => owned.agree answer same,
    fun answer _ labelled => owned.keep answer labelled⟩

/-- A run of a service's operations keeps every labelled object in its owner's footprint. -/
theorem LabelsOwned.reaches {α : Type} {p q : Prog α} {c c' : Cluster} {t : List Event}
    (owned : p.Always (Request.Owned P cfg name)) (h : Prog.Reaches P p c t q c')
    (start : LabelsOwned P cfg c) : LabelsOwned P cfg c' :=
  (owned.mono fun _ => Request.Owned.isLocal).reaches_keep h start

/-- A run of a service's operations leaves every object outside its footprint as it was. -/
theorem Request.Owned.reaches_frame {α : Type} {p q : Prog α} {c c' : Cluster} {t : List Event}
    (owned : p.Always (Request.Owned P cfg name)) (h : Prog.Reaches P p c t q c')
    (start : LabelsOwned P cfg c) {k : Key} (outside : ¬ Footprint P name k) :
    c'.get k = c.get k :=
  (owned.mono fun _ => Request.Owned.isLocal).reaches_frame h start outside

theorem LabelsOwned.empty (P : Platform) (cfg : Config) : LabelsOwned P cfg Store.empty :=
  fun _ _ _ found => by cases found

namespace Footprint

variable {P : Platform} {name : String}

theorem service : Footprint P name (.services, name) := .inl rfl
theorem endpoints : Footprint P name (.endpoints, name) := .inr (.inl rfl)
theorem ingress : Footprint P name (.ingresses, name) := .inr (.inr (.inl rfl))
theorem oidcIngress : Footprint P name (.ingresses, s!"oidc-{name}") :=
  .inr (.inr (.inr (.inl rfl)))
theorem tlsSecret : Footprint P name (.secrets, s!"tls-{name}") :=
  .inr (.inr (.inr (.inr (.inl rfl))))
theorem clientCaSecret : Footprint P name (.secrets, s!"tls-client-ca-{name}") :=
  .inr (.inr (.inr (.inr (.inr (.inl rfl)))))
theorem release : Footprint P name (.releases, s!"oidc-{name}") :=
  .inr (.inr (.inr (.inr (.inr (.inr (.inl rfl))))))
theorem record (issuer : String) : Footprint P name (recordKey P s!"oidc-{name}" issuer) :=
  .inr (.inr (.inr (.inr (.inr (.inr (.inr ⟨issuer, rfl⟩))))))

end Footprint

section Owned

variable {P : Platform} {cfg : Config} {service : Service} {serviceDomain : String}

theorem reconcileOidcSecret_owned :
    (reconcileOidcSecret P cfg (oidcReleaseName service) service serviceDomain).Always
      (Request.Owned P cfg service.name) := by
  refine reconcileOidcSecret_always ?_ (fun _ => ?_) fun issuer => ⟨?_, fun _ => ?_⟩
  all_goals first | trivial | exact Footprint.record issuer

theorem writeTlsCert_owned :
    (writeTlsCert cfg service).Always (Request.Owned P cfg service.name) := by
  unfold writeTlsCert
  split
  · exact (Prog.always_ofExcept _ _).bind fun _ => (Prog.always_ofExcept _ _).bind fun _ =>
      Prog.always_send.mpr ⟨Footprint.tlsSecret, rfl⟩
  · trivial

theorem writeTlsClientCa_owned :
    (writeTlsClientCa cfg service).Always (Request.Owned P cfg service.name) := by
  unfold writeTlsClientCa
  split
  · exact (Prog.always_ofExcept _ _).bind fun _ =>
      Prog.always_send.mpr ⟨Footprint.clientCaSecret, rfl⟩
  · trivial

theorem applyOidcProxy_owned :
    (applyOidcProxy P cfg service serviceDomain).Always (Request.Owned P cfg service.name) := by
  unfold applyOidcProxy
  split
  · exact (reconcileOidcProxy_always reconcileOidcSecret_owned fun _ => Footprint.release).bind
      fun _ => Prog.always_send.mpr ⟨Footprint.oidcIngress, rfl⟩
  · exact (Prog.always_send.mpr Footprint.oidcIngress).bind fun _ =>
      Prog.always_send.mpr Footprint.release

theorem applyTls_owned (ingress : Ingress) :
    (applyTls cfg service serviceDomain ingress).Always (Request.Owned P cfg service.name) :=
  writeTlsCert_owned.bind fun _ => writeTlsClientCa_owned.bind fun _ => trivial

theorem applyAuth_owned (ingress : Ingress) :
    (applyAuth P cfg service serviceDomain ingress).Always (Request.Owned P cfg service.name) :=
  applyOidcProxy_owned.bind fun _ => (Prog.always_ofExcept _ _).bind fun _ => trivial

theorem reconcileService_owned :
    (reconcileService P cfg service).Always (Request.Owned P cfg service.name) := by
  simp only [reconcileService, Prog.bind_eq, Prog.emit, Prog.log_bind, Prog.pure_bind',
    Prog.always_log]
  exact Prog.Always.bind (Prog.always_send.mpr ⟨Footprint.service, rfl⟩) fun _ =>
    Prog.Always.bind (Prog.always_send.mpr ⟨Footprint.endpoints, rfl⟩) fun _ =>
      ((applyReadTimeout_requests P service _).mono fun _ => False.elim).bind fun _ =>
        (applyTls_owned _).bind fun _ => (applyAuth_owned _).bind fun _ =>
          Prog.always_send.mpr ⟨Footprint.ingress, rfl⟩

theorem removeService_owned (name : String) :
    (removeService cfg name).Always (Request.Owned P cfg name) := by
  simp only [removeService, Prog.bind_eq, Prog.emit, Prog.log_bind, Prog.pure_bind',
    Prog.always_log]
  exact Prog.Always.bind (Prog.always_send.mpr rfl) fun _ =>
    Prog.Always.bind (Prog.always_send.mpr rfl) fun _ =>
      Prog.Always.bind (Prog.always_send.mpr rfl) fun _ =>
        Prog.Always.bind (Prog.always_send.mpr rfl) fun _ =>
          Prog.always_send.mpr Footprint.release

/-- The retry loop makes only the requests of the operation it retries. -/
theorem tryOperation_always {ok : Request → Prop} {operation : Prog Unit}
    (always : operation.Always ok) (retries : Int) (verb name : String) (fuel attempt : Nat) :
    (tryOperation (Prog.emit .exception) retries verb name operation fuel attempt).Always ok := by
  induction fuel generalizing attempt with
  | zero =>
    rw [tryOperation, Prog.tryCatch_eq']
    exact always.tryCatch fun _ => by split <;> simp [Prog.emit]
  | succ fuel ih =>
    rw [tryOperation, Prog.tryCatch_eq']
    exact always.tryCatch fun _ => by split <;> simp [Prog.emit, ih]

end Owned

/-- Two names clear of each other's derived names: footprints meet only where `oidc-<m>` is `n` or
`tls-<n>` is `tls-client-ca-<m>`, since a record name's hash part has exactly eight characters. -/
def Apart (n m : String) : Prop :=
  n ≠ m ∧ n ≠ s!"oidc-{m}" ∧ m ≠ s!"oidc-{n}" ∧ n ≠ s!"client-ca-{m}" ∧ m ≠ s!"client-ca-{n}"

instance (n m : String) : Decidable (Apart n m) := by
  unfold Apart
  infer_instance

theorem prefixed_inj (p : String) {n m : String} : p ++ n = p ++ m ↔ n = m := by
  simp [String.ext_iff, String.data_append]

section Names

variable {P : Platform} {n m : String}

@[simp] theorem tls_eq_clientCa : "tls-" ++ n = "tls-client-ca-" ++ m ↔ n = "client-ca-" ++ m := by
  rw [show "tls-client-ca-" ++ m = "tls-" ++ ("client-ca-" ++ m) by
    rw [← String.append_assoc]; rfl, prefixed_inj]

theorem take_hexdigest_length (P : Platform) (issuer : String) :
    ((P.hexdigest issuer).take 8).data.length = 8 := by
  rw [String.data_take, List.length_take, ← String.length, P.hexdigest_length]
  rfl

/-- Record names of two releases `oidc-<n>` and `oidc-<m>` differ unless `n = m`. -/
theorem recordName_inj {issuer issuer' : String}
    (same : recordName P ("oidc-" ++ n) issuer = recordName P ("oidc-" ++ m) issuer') : n = m := by
  simp only [recordName, toString, String.append_empty, String.ext_iff, String.data_append,
    List.append_assoc, List.append_cancel_left_eq] at same
  exact String.ext (List.append_inj' same
    (by simp only [List.length_append, take_hexdigest_length])).1

theorem Apart.symm (apart : Apart n m) : Apart m n :=
  ⟨apart.1.symm, apart.2.2.1, apart.2.1, apart.2.2.2.2, apart.2.2.2.1⟩

/-- The footprints of apart names are disjoint. -/
theorem Apart.disjoint (apart : Apart n m) {k : Key} (inN : Footprint P n k) :
    ¬ Footprint P m k := by
  obtain ⟨ne, ne₁, ne₂, ne₃, ne₄⟩ := apart
  simp only [toString, String.append_empty] at ne₁ ne₂ ne₃ ne₄
  rcases inN with rfl | rfl | rfl | rfl | rfl | rfl | rfl | ⟨issuer, rfl⟩ <;>
    simp [Footprint, recordKey, toString, prefixed_inj, ne, ne₁, Ne.symm ne₂, ne₃, Ne.symm ne₄,
      Ne.symm ne]
  · exact fun same => ne₄ (tls_eq_clientCa.mp same.symm)
  · exact ⟨(tls_ne_record _).symm, (clientCa_ne_record _).symm,
      fun _ same => ne (recordName_inj same)⟩

/-- The secrets of a footprint are named `tls-...` or `oidc-...`. -/
theorem Footprint.secret_prefix {s : String} (inN : Footprint P n (.secrets, s)) :
    (∃ rest, s = "tls-" ++ rest) ∨ ∃ rest, s = "oidc-" ++ rest := by
  simp only [Footprint, recordKey, recordName, toString, String.append_empty, Prod.mk.injEq,
    reduceCtorEq, false_and, true_and, false_or] at inN
  rcases inN with same | same | ⟨issuer, same⟩ <;> rw [same]
  · exact .inl ⟨n, rfl⟩
  · exact .inl ⟨"client-ca-" ++ n, by rw [← String.append_assoc]; rfl⟩
  · exact .inr ⟨n ++ "-" ++ (P.hexdigest issuer).take 8, by
      simp only [String.empty_append, String.append_assoc]⟩

/-- The only Service of a footprint is the one of its name. -/
theorem Footprint.service_key {k : Key} (inFoot : Footprint P n k) (service : k.1 = .services) :
    k = (.services, n) := by
  obtain ⟨kind, s⟩ := k
  obtain rfl : kind = .services := service
  simpa [Footprint, recordKey] using inFoot

end Names

/-- The coroutines `ServiceReconciler.run` gathers at startup, each with the name it works on
and the answers its requests will get: a `_try_reconcile_service` per initial service, then a
`_try_remove_service` per name that has objects but no registration. -/
def startupJobs (P : Platform) (cfg : Config) (services : List (Service × Env))
    (orphans : List (String × Env)) : List (String × Task) :=
  services.map (fun (service, env) => (service.name, ⟨tryReconcileService P cfg service, env⟩)) ++
    orphans.map fun (name, env) => (name, ⟨tryRemoveService cfg name, env⟩)

/-- The tasks of the startup gather. -/
def startupTasks (P : Platform) (cfg : Config) (services : List (Service × Env))
    (orphans : List (String × Env)) : List Task :=
  (startupJobs P cfg services orphans).map Prod.snd

/-- The names the startup tasks work on. -/
def startupNames (services : List (Service × Env)) (orphans : List (String × Env)) :
    List String :=
  services.map (·.1.name) ++ orphans.map (·.1)

section Gather

variable {P : Platform} {cfg : Config} {jobs : List (String × Task)} {c : Cluster}

theorem startupJobs_owned {services : List (Service × Env)} {orphans : List (String × Env)} :
    ∀ job ∈ startupJobs P cfg services orphans, job.2.prog.Always (Request.Owned P cfg job.1) := by
  simp only [startupJobs, List.mem_append, List.mem_map]
  rintro job (⟨⟨service, env⟩, -, rfl⟩ | ⟨⟨name, env⟩, -, rfl⟩)
  · exact tryOperation_always reconcileService_owned _ _ _ _ _
  · exact tryOperation_always (removeService_owned name) _ _ _ _ _

theorem startupJobs_names (services : List (Service × Env)) (orphans : List (String × Env)) :
    (startupJobs P cfg services orphans).map Prod.fst = startupNames services orphans := by
  simp [startupJobs, startupNames, Function.comp_def]

/-- The footprint of the task at `i`: that of its name. -/
def jobFoot (P : Platform) (jobs : List (String × Task)) (i : Nat) (k : Key) : Prop :=
  ∃ job ∈ jobs[i]?, Footprint P job.1 k

theorem jobFoot_of_getElem? {i : Nat} {job : String × Task} (found : jobs[i]? = some job) :
    jobFoot P jobs i = Footprint P job.1 := by
  funext k
  simp [jobFoot, found]

theorem apart_of_getElem? (apart : (jobs.map Prod.fst).Pairwise Apart) {i j : Nat}
    {a b : String × Task} (lt : i < j) (foundA : jobs[i]? = some a) (foundB : jobs[j]? = some b) :
    Apart a.1 b.1 := by
  obtain ⟨hi, rfl⟩ := List.getElem?_eq_some_iff.mp foundA
  obtain ⟨hj, rfl⟩ := List.getElem?_eq_some_iff.mp foundB
  have := List.pairwise_iff_getElem.mp apart i j (by simpa using hi) (by simpa using hj) lt
  rwa [List.getElem_map, List.getElem_map] at this

theorem jobs_local (owned : ∀ job ∈ jobs, job.2.prog.Always (Request.Owned P cfg job.1)) :
    ∀ i (task : Task), (jobs.map Prod.snd)[i]? = some task →
      task.prog.Always (Request.Local P (LabelsOwned P cfg) (jobFoot P jobs i)) := by
  intro i task found
  rw [List.getElem?_map, Option.map_eq_some'] at found
  obtain ⟨job, found, rfl⟩ := found
  rw [jobFoot_of_getElem? found]
  exact (owned job (List.getElem?_mem found)).mono fun _ => Request.Owned.isLocal

theorem jobs_apart (apart : (jobs.map Prod.fst).Pairwise Apart) :
    ∀ i j, i ≠ j → ∀ k, jobFoot P jobs i k → ¬ jobFoot P jobs j k := by
  rintro i j ne k ⟨a, foundA, inA⟩ ⟨b, foundB, inB⟩
  rcases Nat.lt_or_gt_of_ne ne with lt | gt
  · exact (apart_of_getElem? apart lt foundA foundB).disjoint inA inB
  · exact (apart_of_getElem? apart gt foundB foundA).disjoint inB inA

section Owned

variable (owned : ∀ job ∈ jobs, job.2.prog.Always (Request.Owned P cfg job.1))
  (apart : (jobs.map Prod.fst).Pairwise Apart) (labelled : LabelsOwned P cfg c)
include owned apart labelled

/-- Tasks whose requests are owned by pairwise apart names, started where every labelled object
lies in its owner's footprint, keep that so along any schedule. -/
theorem gather_owned_keep (schedule : List Nat) :
    LabelsOwned P cfg (gather P schedule (jobs.map Prod.snd) c).2 :=
  gather_keep (jobs_local owned) (jobs_apart apart) labelled schedule

/-- After a complete schedule, each task's footprint holds what its run alone leaves there. -/
theorem gather_owned_get {schedule : List Nat}
    (done : (gather P schedule (jobs.map Prod.snd) c).1.all Task.finished = true)
    {job : String × Task} (member : job ∈ jobs) {k : Key} (inFoot : Footprint P job.1 k) :
    (gather P schedule (jobs.map Prod.snd) c).2.get k =
      (job.2.prog.run P job.2.env c).cluster.get k := by
  obtain ⟨i, found⟩ := List.mem_iff_getElem?.mp member
  have present : (jobs.map Prod.snd)[i]? = some job.2 := by
    rw [List.getElem?_map, found]
    rfl
  exact gather_complete_get (jobs_local owned) (jobs_apart apart) labelled done present
    (by rwa [jobFoot_of_getElem? found])

/-- Every complete schedule ends in the same cluster. -/
theorem gather_owned_eq {schedule schedule' : List Nat}
    (done : (gather P schedule (jobs.map Prod.snd) c).1.all Task.finished = true)
    (done' : (gather P schedule' (jobs.map Prod.snd) c).1.all Task.finished = true) :
    (gather P schedule (jobs.map Prod.snd) c).2 = (gather P schedule' (jobs.map Prod.snd) c).2 :=
  gather_complete_eq (jobs_local owned) (jobs_apart apart) labelled done done'

end Owned

/-- **Name isolation.**  Every request of a startup task stays in its name's footprint, apart
footprints are disjoint, and footprint secrets are named `tls-...` or `oidc-...`.  For pairwise
apart names every schedule keeps labelled objects owned, and every complete one ends alike. -/
theorem startup_gather_isolated {services : List (Service × Env)}
    {orphans : List (String × Env)} {schedule schedule' : List Nat}
    (apart : (startupNames services orphans).Pairwise Apart) (labelled : LabelsOwned P cfg c)
    (done : (gather P schedule (startupTasks P cfg services orphans) c).1.all Task.finished = true)
    (done' :
      (gather P schedule' (startupTasks P cfg services orphans) c).1.all Task.finished = true) :
    (∀ job ∈ startupJobs P cfg services orphans, job.2.prog.Always (Request.Owned P cfg job.1)) ∧
    (∀ n m, Apart n m → ∀ k, Footprint P n k → ¬ Footprint P m k) ∧
    (∀ n s, Footprint P n (.secrets, s) →
      (∃ rest, s = "tls-" ++ rest) ∨ ∃ rest, s = "oidc-" ++ rest) ∧
    (∀ schedule'',
      LabelsOwned P cfg (gather P schedule'' (startupTasks P cfg services orphans) c).2) ∧
    (gather P schedule (startupTasks P cfg services orphans) c).2 =
      (gather P schedule' (startupTasks P cfg services orphans) c).2 :=
  ⟨startupJobs_owned, fun _ _ apart _ => apart.disjoint, fun _ _ => Footprint.secret_prefix,
    gather_owned_keep startupJobs_owned (startupJobs_names services orphans ▸ apart) labelled,
    gather_owned_eq startupJobs_owned (startupJobs_names services orphans ▸ apart) labelled done
      done'⟩

set_option maxRecDepth 4000 in
/-- Two services and an orphan, run one after the other in either order. -/
theorem startup_gather_isolated_sequential :
    let cfg : Config := { (default : Config) with reconciliationRetries := 2 }
    let env : Env := Stream'.const ⟨false, "", ("", "")⟩
    let services : List (Service × Env) :=
      [(⟨"web", [], Dict.empty⟩, env), (⟨"api", [], Dict.empty⟩, env)]
    let orphans := [("old", env)]
    let forward := List.replicate 8 0 ++ List.replicate 8 1 ++ List.replicate 8 2
    let backward := List.replicate 8 2 ++ List.replicate 8 1 ++ List.replicate 8 0
    let tasks := startupTasks Platform.plain cfg services orphans
    (startupNames services orphans).Pairwise Apart ∧ LabelsOwned Platform.plain cfg Store.empty ∧
      (gather Platform.plain forward tasks Store.empty).1.all Task.finished = true ∧
      (gather Platform.plain backward tasks Store.empty).1.all Task.finished = true ∧
      (∀ job ∈ startupJobs Platform.plain cfg services orphans,
        job.2.prog.Always (Request.Owned Platform.plain cfg job.1)) ∧
      (∀ n m, Apart n m → ∀ k, Footprint Platform.plain n k → ¬ Footprint Platform.plain m k) ∧
      (∀ n s, Footprint Platform.plain n (.secrets, s) →
        (∃ rest, s = "tls-" ++ rest) ∨ ∃ rest, s = "oidc-" ++ rest) ∧
      (∀ schedule,
        LabelsOwned Platform.plain cfg (gather Platform.plain schedule tasks Store.empty).2) ∧
      (gather Platform.plain forward tasks Store.empty).2 =
        (gather Platform.plain backward tasks Store.empty).2 :=
  ⟨by decide, LabelsOwned.empty _ _, rfl, rfl,
    startup_gather_isolated (by decide) (LabelsOwned.empty _ _) rfl rfl⟩

set_option maxRecDepth 4000 in
/-- A service named `oidc-a` and a service named `a`: the ingress `oidc-a` is the first's own
ingress and the second's `_oidc` ingress, which a service without OIDC deletes.  Whether it
survives the startup gather depends on the order of the two reconciles. -/
theorem startup_gather_order_matters :
    let cfg : Config := { (default : Config) with reconciliationRetries := 2 }
    let env : Env := Stream'.const ⟨false, "", ("", "")⟩
    let tasks := startupTasks Platform.plain cfg
      [(⟨"oidc-a", [], Dict.empty⟩, env), (⟨"a", [], Dict.empty⟩, env)] []
    let first := gather Platform.plain (List.replicate 8 0 ++ List.replicate 8 1) tasks Store.empty
    let second := gather Platform.plain (List.replicate 8 1 ++ List.replicate 8 0) tasks Store.empty
    first.1.all Task.finished = true ∧ second.1.all Task.finished = true ∧
      first.2.get (.ingresses, "oidc-a") = none ∧
      (second.2.get (.ingresses, "oidc-a")).isSome = true :=
  ⟨rfl, rfl, rfl, rfl⟩

end Gather

end Zenith
