import Zenith.Mirror
import Zenith.Safety

/-!
# The TLS mirror beside the reconciler

The sync component runs two control loops at once, `TLSSecretMirror.run` and
`ServiceReconciler.run`, on the same target namespace.  The mirror writes and deletes only its
wildcard secret, which it labels as created by the sync component but as no service's own.  So
while the two label keys differ, it keeps every labelled object in its owner's footprint, which
is all the reconciler's operations assume; and while the secret's name starts with neither
`tls-` nor `oidc-`, no footprint of the reconciler contains it.  Then the two do not interfere:
every complete interleaving of the mirror's run with the startup tasks leaves the mirror's secret
as the mirror alone leaves it, and every other object as the startup tasks awaited in turn leave
it (`mirror_startup_independent`).
-/

namespace Zenith

namespace TLSSecretMirror

variable {P : Platform} {cfg : Config}

/-- The mirror is labelled as no service's own, while the two label keys differ. -/
theorem selects_mirrorManifest (distinct : cfg.serviceNameLabel ≠ cfg.createdByLabel) (n : String)
    (source : SourceSecret) :
    selects (labels cfg (.exact n)) (mirrorManifest cfg source).labels = false := by
  rw [Bool.eq_false_iff, ne_eq, selects_labels]
  simp [mirrorManifest, distinct, Ne.symm distinct]

/-- Replacing one object by a manifest fixed in advance is local to that object. -/
theorem createOrReplace_local {inv : Cluster → Prop} {key : Key} {m : Manifest}
    (keeps : ∀ c, inv c → inv (c.set key m)) :
    (Request.createOrReplace key m).Local P inv (· = key) where
  frame answer c _ k outside :=
    Request.get_perform (show Request.Within (· = key) (.createOrReplace key m) from rfl) outside
      answer c
  agree answer c d _ _ same := by
    unfold Request.perform
    split
    · exact ⟨rfl, same⟩
    · exact ⟨rfl, fun k inFoot => by simp [Request.apply, inFoot]⟩
  keep answer c start := by
    unfold Request.perform
    split
    · exact start
    · exact keeps c start

/-- Deleting one object is local to that object. -/
theorem delete_local {inv : Cluster → Prop} {key : Key}
    (keeps : ∀ c, inv c → inv (c.erase key)) :
    (Request.delete key).Local P inv (· = key) where
  frame answer c _ k outside :=
    Request.get_perform (show Request.Within (· = key) (.delete key) from rfl) outside answer c
  agree answer c d _ _ same := by
    unfold Request.perform
    split
    · exact ⟨rfl, same⟩
    · exact ⟨rfl, fun k inFoot => by simp [Request.apply, inFoot]⟩
  keep answer c start := by
    unfold Request.perform
    split
    · exact start
    · exact keeps c start

theorem deleteMirror_local :
    (deleteMirror cfg).Always
      (Request.Local P (LabelsOwned P cfg) (· = (.secrets, cfg.ingress.tls.secretName))) := by
  simp only [deleteMirror, Prog.bind_eq, Prog.emit, Prog.log_bind, Prog.pure_bind',
    Prog.always_log, Prog.always_request_bind]
  exact ⟨delete_local fun _ labelled => labelled.erase, fun _ => trivial⟩

section Local

variable (distinct : cfg.serviceNameLabel ≠ cfg.createdByLabel)
include distinct

theorem updateMirror_local (source : SourceSecret) :
    (updateMirror cfg source).Always
      (Request.Local P (LabelsOwned P cfg) (· = (.secrets, cfg.ingress.tls.secretName))) := by
  simp only [updateMirror, Prog.bind_eq, Prog.emit, Prog.log_bind, Prog.pure_bind',
    Prog.always_log, Prog.always_request_bind]
  refine ⟨createOrReplace_local fun c labelled => labelled.set fun n selected => ?_,
    fun _ => trivial⟩
  rw [selects_mirrorManifest distinct] at selected
  cases selected

/-- Every request of the mirror's run replaces or deletes its secret, keeping every labelled
object in its owner's footprint. -/
theorem run_local (initial : Option SourceSecret) (events : List WatchEvent) :
    (run cfg initial events).Always
      (Request.Local P (LabelsOwned P cfg) (· = (.secrets, cfg.ingress.tls.secretName))) := by
  have handled : ∀ events : List WatchEvent, (handleEvents cfg events).Always
      (Request.Local P (LabelsOwned P cfg) (· = (.secrets, cfg.ingress.tls.secretName))) := by
    intro events
    induction events with
    | nil => trivial
    | cons event events ih =>
      refine Prog.Always.bind ?_ fun _ => ih
      unfold handleEvent
      split
      · exact updateMirror_local distinct _
      · exact deleteMirror_local
  unfold run
  split
  · refine Prog.Always.bind (by simp [Prog.emit]) fun _ =>
      Prog.Always.bind ?_ fun _ => handled events
    cases initial with
    | some source => exact updateMirror_local distinct source
    | none => exact deleteMirror_local
  · simp [Prog.emit]

end Local

end TLSSecretMirror

/-- Modelled from the spec: the mirror runs beside the reconciler, so the coroutine of its run,
with the answers its requests get, interleaves with the startup tasks. -/
def mirrorAndStartup (P : Platform) (cfg : Config) (initial : Option TLSSecretMirror.SourceSecret)
    (watched : List TLSSecretMirror.WatchEvent) (mirrorEnv : Env) (services : List (Service × Env))
    (orphans : List (String × Env)) : List Task :=
  ⟨TLSSecretMirror.run cfg initial watched, mirrorEnv⟩ :: startupTasks P cfg services orphans

/-- The footprint of each task beside the mirror: the mirror's secret, then the startup tasks'. -/
def mirrorFoot (P : Platform) (cfg : Config) (jobs : List (String × Task)) : Nat → Key → Prop
  | 0, k => k = (.secrets, cfg.ingress.tls.secretName)
  | i + 1, k => jobFoot P jobs i k

variable {P : Platform} {cfg : Config} {c : Cluster}

/-- Each task beside the mirror reads and writes only its own footprint. -/
theorem mirrorAndStartup_local (distinct : cfg.serviceNameLabel ≠ cfg.createdByLabel)
    (initial : Option TLSSecretMirror.SourceSecret) (watched : List TLSSecretMirror.WatchEvent)
    (mirrorEnv : Env) (services : List (Service × Env)) (orphans : List (String × Env)) :
    ∀ i (task : Task),
      (mirrorAndStartup P cfg initial watched mirrorEnv services orphans)[i]? = some task →
      task.prog.Always (Request.Local P (LabelsOwned P cfg)
        (mirrorFoot P cfg (startupJobs P cfg services orphans) i))
  | 0, task, found => by
    obtain rfl := Option.some.inj (List.getElem?_cons_zero.symm.trans found)
    exact TLSSecretMirror.run_local distinct initial watched
  | i + 1, task, found =>
    jobs_local startupJobs_owned i task
      (by rwa [mirrorAndStartup, List.getElem?_cons_succ] at found)

/-- No job's footprint holds a secret whose name starts with neither `tls-` nor `oidc-`. -/
theorem not_jobFoot_secret {jobs : List (String × Task)} {s : String}
    (notTls : ¬ ∃ rest, s = "tls-" ++ rest) (notOidc : ¬ ∃ rest, s = "oidc-" ++ rest) (i : Nat) :
    ¬ jobFoot P jobs i (.secrets, s) :=
  fun ⟨_, _, inFoot⟩ => Footprint.not_secret notTls notOidc inFoot

/-- Beside pairwise disjoint job footprints, the mirror's secret, named with neither prefix,
keeps the footprints pairwise disjoint. -/
theorem mirrorFoot_apart {jobs : List (String × Task)}
    (notTls : ¬ ∃ rest, cfg.ingress.tls.secretName = "tls-" ++ rest)
    (notOidc : ¬ ∃ rest, cfg.ingress.tls.secretName = "oidc-" ++ rest)
    (jobsApart : ∀ i j, i ≠ j → ∀ k, jobFoot P jobs i k → ¬ jobFoot P jobs j k) :
    ∀ i j, i ≠ j → ∀ k, mirrorFoot P cfg jobs i k → ¬ mirrorFoot P cfg jobs j k
  | 0, 0, ne, _, _ => absurd rfl ne
  | 0, j + 1, _, _, rfl => not_jobFoot_secret notTls notOidc j
  | i + 1, 0, _, _, inFoot => fun same => not_jobFoot_secret notTls notOidc i (same ▸ inFoot)
  | i + 1, j + 1, ne, k, inFoot => jobsApart i j (by omega) k inFoot

/-- **The mirror and the reconciler do not interfere.**  Every complete interleaving of the mirror's
run with the startup tasks over apart names leaves the mirror's secret as the mirror alone leaves
it, and every other object as the startup tasks awaited in turn leave it. -/
theorem mirror_startup_independent {initial : Option TLSSecretMirror.SourceSecret}
    {watched : List TLSSecretMirror.WatchEvent} {mirrorEnv : Env} {services : List (Service × Env)}
    {orphans : List (String × Env)} {schedule : List Nat}
    (distinct : cfg.serviceNameLabel ≠ cfg.createdByLabel)
    (notTls : ¬ ∃ rest, cfg.ingress.tls.secretName = "tls-" ++ rest)
    (notOidc : ¬ ∃ rest, cfg.ingress.tls.secretName = "oidc-" ++ rest)
    (apart : (startupNames services orphans).Pairwise Apart) (labelled : LabelsOwned P cfg c)
    (done : (gather P schedule (mirrorAndStartup P cfg initial watched mirrorEnv services orphans)
      c).1.all Task.finished = true) :
    (gather P schedule (mirrorAndStartup P cfg initial watched mirrorEnv services orphans) c).2.get
        (.secrets, cfg.ingress.tls.secretName) =
      ((TLSSecretMirror.run cfg initial watched).run P mirrorEnv c).cluster.get
        (.secrets, cfg.ingress.tls.secretName) ∧
    ∀ k, k ≠ (.secrets, cfg.ingress.tls.secretName) →
      (gather P schedule (mirrorAndStartup P cfg initial watched mirrorEnv services orphans)
        c).2.get k = (sequential P (startupTasks P cfg services orphans) c).get k := by
  have jobsApart : ∀ i j, i ≠ j → ∀ k, jobFoot P (startupJobs P cfg services orphans) i k →
      ¬ jobFoot P (startupJobs P cfg services orphans) j k :=
    jobs_apart (startupJobs_names services orphans ▸ apart)
  have isLocal :=
    mirrorAndStartup_local (P := P) distinct initial watched mirrorEnv services orphans
  have mirrorApart := mirrorFoot_apart notTls notOidc jobsApart
  refine ⟨gather_complete_get isLocal mirrorApart labelled done List.getElem?_cons_zero rfl,
    fun k other => ?_⟩
  by_cases inJob : ∃ i, jobFoot P (startupJobs P cfg services orphans) i k
  · obtain ⟨i, inFoot⟩ := inJob
    have ⟨job, found, _⟩ := inFoot
    have present : (startupTasks P cfg services orphans)[i]? = some job.2 := by
      rw [startupTasks, List.getElem?_map, Option.mem_def.mp found, Option.map_some']
    exact (gather_complete_get isLocal mirrorApart labelled done (i := i + 1)
      (by rwa [mirrorAndStartup, List.getElem?_cons_succ]) inFoot).trans
      (sequential_get (jobs_local startupJobs_owned) jobsApart labelled present inFoot).symm
  · -- outside every footprint, both leave the object as it was
    have outside : ∀ i, ¬ mirrorFoot P cfg (startupJobs P cfg services orphans) i k
      | 0, same => other same
      | i + 1, inFoot => inJob ⟨i, inFoot⟩
    exact ((gather_frame isLocal labelled schedule).2 k outside).trans
      ((sequential_frame (jobs_local startupJobs_owned) labelled).2 k fun i _ _ inFoot =>
        inJob ⟨i, inFoot⟩).symm

set_option maxRecDepth 4000 in
/-- The mirror copying the wildcard secret while `web` is reconciled, their steps alternating. -/
theorem mirror_startup_independent_alternating :
    let cfg : Config := { (default : Config) with
      createdByLabel := "zenith.stackhpc.com/created-by"
      serviceNameLabel := "zenith.stackhpc.com/service-name"
      reconciliationRetries := 2
      ingress := { (default : IngressConfig) with
        tls := { enabled := true, secretName := "wildcard-tls", annotations := Dict.empty } } }
    let env : Env := Stream'.const ⟨false, "", ("", "")⟩
    let source : TLSSecretMirror.SourceSecret :=
      ⟨"zenith", "wildcard-tls", "kubernetes.io/tls", Dict.empty⟩
    let services : List (Service × Env) := [(⟨"web", [], Dict.empty⟩, env)]
    let tasks := mirrorAndStartup Platform.plain cfg (some source) [] env services []
    let schedule := [0, 1, 0, 1, 0, 1, 0, 1] ++ List.replicate 8 1
    cfg.serviceNameLabel ≠ cfg.createdByLabel ∧
      (¬ ∃ rest, cfg.ingress.tls.secretName = "tls-" ++ rest) ∧
      (¬ ∃ rest, cfg.ingress.tls.secretName = "oidc-" ++ rest) ∧
      (startupNames services []).Pairwise Apart ∧ LabelsOwned Platform.plain cfg Store.empty ∧
      (gather Platform.plain schedule tasks Store.empty).1.all Task.finished = true ∧
      (gather Platform.plain schedule tasks Store.empty).2.get
          (.secrets, cfg.ingress.tls.secretName) =
        ((TLSSecretMirror.run cfg (some source) []).run Platform.plain env Store.empty).cluster.get
          (.secrets, cfg.ingress.tls.secretName) ∧
      ∀ k, k ≠ (.secrets, cfg.ingress.tls.secretName) →
        (gather Platform.plain schedule tasks Store.empty).2.get k =
          (sequential Platform.plain (startupTasks Platform.plain cfg services []) Store.empty).get
            k := by
  dsimp only
  have notTls : ¬ ∃ rest, "wildcard-tls" = "tls-" ++ rest := fun ⟨rest, same⟩ => by
    simpa using congrArg (fun s : String => s.data.head?) same
  have notOidc : ¬ ∃ rest, "wildcard-tls" = "oidc-" ++ rest := fun ⟨rest, same⟩ => by
    simpa using congrArg (fun s : String => s.data.head?) same
  exact ⟨by decide, notTls, notOidc, by decide, LabelsOwned.empty _ _, rfl,
    mirror_startup_independent (by decide) notTls notOidc (by decide) (LabelsOwned.empty _ _) rfl⟩

end Zenith
