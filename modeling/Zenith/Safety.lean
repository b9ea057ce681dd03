import Zenith.Sync

/-!
# A run as a whole

Facts about `ServiceReconciler.run` as a whole, beyond what it leaves for each name.  For pairwise
apart names the startup gather is serialisable, and operations for apart names commute.  Whatever
the names, a run stopped anywhere changes only the objects the model holds in its names'
footprints; a Helm release is one object here, standing for the release's storage secrets and the
chart's objects.  A registration whose ingress cannot be built is never reconciled.
-/

namespace Zenith

variable {P : Platform} {cfg : Config} {c c' : Cluster}

/-- **The startup gather is serialisable.**  For pairwise apart names, every complete interleaving
of the startup tasks ends where the tasks leave the cluster awaited one after another: the
reconciles of the snapshot, then the removals of the orphans. -/
theorem startup_gather_serial {services : List (Service × Env)} {orphans : List (String × Env)}
    {schedule : List Nat} (apart : (startupNames services orphans).Pairwise Apart)
    (labelled : LabelsOwned P cfg c)
    (done :
      (gather P schedule (startupTasks P cfg services orphans) c).1.all Task.finished = true) :
    (gather P schedule (startupTasks P cfg services orphans) c).2 =
      sequential P (startupTasks P cfg services orphans) c :=
  gather_complete_sequential (jobs_local startupJobs_owned)
    (jobs_apart (startupJobs_names services orphans ▸ apart)) labelled done

set_option maxRecDepth 4000 in
/-- Two services and an orphan, gathered in the reverse of the list's order. -/
theorem startup_gather_serial_backward :
    let cfg : Config := { (default : Config) with reconciliationRetries := 2 }
    let env : Env := Stream'.const ⟨false, "", ("", "")⟩
    let services : List (Service × Env) :=
      [(⟨"web", [], Dict.empty⟩, env), (⟨"api", [], Dict.empty⟩, env)]
    let orphans := [("old", env)]
    let backward := List.replicate 8 2 ++ List.replicate 8 1 ++ List.replicate 8 0
    let tasks := startupTasks Platform.plain cfg services orphans
    (startupNames services orphans).Pairwise Apart ∧ LabelsOwned Platform.plain cfg Store.empty ∧
      (gather Platform.plain backward tasks Store.empty).1.all Task.finished = true ∧
      (gather Platform.plain backward tasks Store.empty).2 =
        sequential Platform.plain tasks Store.empty :=
  ⟨by decide, LabelsOwned.empty _ _, rfl,
    startup_gather_serial (by decide) (LabelsOwned.empty _ _) rfl⟩

theorem tryReconcileService_owned (P : Platform) (cfg : Config) (service : Service) :
    (tryReconcileService P cfg service).Always (Request.Owned P cfg service.name) :=
  tryOperation_always reconcileService_owned _ _ _ _ _

theorem tryRemoveService_owned (P : Platform) (cfg : Config) (name : String) :
    (tryRemoveService cfg name).Always (Request.Owned P cfg name) :=
  tryOperation_always (removeService_owned name) _ _ _ _ _

/-- **Operations for apart names commute.**  Two programs whose requests are owned by apart names,
such as a try-reconcile and a try-remove, leave the same cluster run in either order, and each
returns what it returns alone. -/
theorem owned_commute {n m : String} (apart : Apart n m) {p q : Prog Unit}
    (ownedP : p.Always (Request.Owned P cfg n)) (ownedQ : q.Always (Request.Owned P cfg m))
    (labelled : LabelsOwned P cfg c) (env env' : Env) :
    (q.run P env' (p.run P env c).cluster).cluster =
        (p.run P env (q.run P env' c).cluster).cluster ∧
      (p.run P env (q.run P env' c).cluster).result = (p.run P env c).result ∧
      (q.run P env' (p.run P env c).cluster).result = (q.run P env' c).result := by
  have localP := ownedP.mono fun _ owned => owned.isLocal
  have localQ := ownedQ.mono fun _ owned => owned.isLocal
  -- each leaves the other's footprint as it was, so each sees there what it would see first
  have afterQ := localP.run_agree env (localQ.run_keep env' labelled) labelled
    fun k inN => localQ.run_frame env' labelled (apart.disjoint inN)
  have afterP := localQ.run_agree env' (localP.run_keep env labelled) labelled
    fun k inM => localP.run_frame env labelled (apart.symm.disjoint inM)
  refine ⟨Store.ext fun k => ?_, afterQ.1, afterP.1⟩
  by_cases inN : Footprint P n k
  · rw [localQ.run_frame env' (localP.run_keep env labelled) (apart.disjoint inN), afterQ.2 k inN]
  · by_cases inM : Footprint P m k
    · rw [afterP.2 k inM, localP.run_frame env (localQ.run_keep env' labelled) inN]
    · rw [localQ.run_frame env' (localP.run_keep env labelled) inM,
        localP.run_frame env labelled inN, localP.run_frame env (localQ.run_keep env' labelled) inN,
        localQ.run_frame env' labelled inM]

/-- A reconcile of `web` and a removal of `api`, in either order. -/
theorem owned_commute_web_api :
    let cfg : Config := { (default : Config) with reconciliationRetries := 2 }
    let env : Env := Stream'.const ⟨false, "", ("", "")⟩
    let p := tryReconcileService Platform.plain cfg ⟨"web", [⟨"10.0.0.1", 8080⟩], Dict.empty⟩
    let q := tryRemoveService cfg "api"
    Apart "web" "api" ∧ p.Always (Request.Owned Platform.plain cfg "web") ∧
      q.Always (Request.Owned Platform.plain cfg "api") ∧
      LabelsOwned Platform.plain cfg Store.empty ∧
      (q.run Platform.plain env (p.run Platform.plain env Store.empty).cluster).cluster =
          (p.run Platform.plain env (q.run Platform.plain env Store.empty).cluster).cluster ∧
        (p.run Platform.plain env (q.run Platform.plain env Store.empty).cluster).result =
          (p.run Platform.plain env Store.empty).result ∧
        (q.run Platform.plain env (p.run Platform.plain env Store.empty).cluster).result =
          (q.run Platform.plain env Store.empty).result := by
  dsimp only
  have labelled := LabelsOwned.empty Platform.plain
    { (default : Config) with reconciliationRetries := 2 }
  have ownedP := tryReconcileService_owned Platform.plain
    { (default : Config) with reconciliationRetries := 2 } ⟨"web", [⟨"10.0.0.1", 8080⟩], Dict.empty⟩
  exact ⟨by decide, ownedP, tryRemoveService_owned _ _ _, labelled,
    owned_commute (by decide) ownedP (tryRemoveService_owned _ _ _) labelled _ _⟩

/-- No name's footprint holds a secret whose name starts with neither `tls-` nor `oidc-`. -/
theorem Footprint.not_secret {n s : String} (notTls : ¬ ∃ rest, s = "tls-" ++ rest)
    (notOidc : ¬ ∃ rest, s = "oidc-" ++ rest) : ¬ Footprint P n (.secrets, s) := fun inFoot => by
  rcases Footprint.secret_prefix inFoot with prefixed | prefixed
  exacts [notTls prefixed, notOidc prefixed]

/-- **A registration whose ingress cannot be built is never reconciled.**  No run of
`_reconcile_service` completes, and with a budget of at least one retry every run of
`_try_reconcile_service` returns having logged its give-up line. -/
theorem reconcileService_unbuildable {service : Service} {e : Error}
    (failed : serviceIngress P cfg service = .error e) :
    (∀ c t c', ¬ Prog.Reaches P (reconcileService P cfg service) c t (pure ()) c') ∧
    (1 ≤ cfg.reconciliationRetries → ∀ env c,
      ((tryReconcileService P cfg service).run P env c).result = .ok () ∧
        gaveUp cfg service.name ((tryReconcileService P cfg service).run P env c).trace = true) :=
    by
  have never : ∀ c t c', ¬ Prog.Reaches P (reconcileService P cfg service) c t (pure ()) c' :=
    fun _ _ _ h => by
      obtain ⟨ingress, built, -⟩ := (reconcileService_returns h).ingresses
      rw [failed] at built
      cases built
  refine ⟨never, fun budget env c => ?_⟩
  have returned := tryOperation_run_ok P _ "reconcile" service.name (reconcileService P cfg service)
    (retryFuel cfg) 1 env c (by simpa using budget) (by rw [retryFuel]; omega)
  refine ⟨returned, ?_⟩
  cases completed : gaveUp cfg service.name ((tryReconcileService P cfg service).run P env c).trace
  · obtain ⟨_, _, _, _, -, done⟩ :=
      tryReconcileService_completes (Prog.reaches_run_ok returned) completed
    exact absurd done (never _ _ _)
  · rfl

/-- A registration whose `read-timeout` is a mapping, with two retries. -/
theorem reconcileService_unbuildable_mapping :
    let cfg : Config := { (default : Config) with reconciliationRetries := 2 }
    let web : Service := ⟨"web", [], Dict.empty.set "read-timeout" (.dict [("seconds", "30")])⟩
    serviceIngress Platform.plain cfg web = .error .typeError ∧
      (∀ c t c',
        ¬ Prog.Reaches Platform.plain (reconcileService Platform.plain cfg web) c t (pure ()) c') ∧
      (1 ≤ cfg.reconciliationRetries → ∀ env c,
        ((tryReconcileService Platform.plain cfg web).run Platform.plain env c).result = .ok () ∧
          gaveUp cfg web.name
            ((tryReconcileService Platform.plain cfg web).run Platform.plain env c).trace = true) :=
  ⟨rfl, reconcileService_unbuildable rfl⟩

end Zenith
