import Zenith.Sync

/-!
# Retrying a removal

`_remove_service` deletes, by the name's labels, its ingresses, endpoints, services and secrets,
and then uninstalls the release `oidc-<name>`.  Each of these takes away only what a complete
removal takes away anyway (`removal`), so a removal stopped part-way, by a failed request or a
crash, leaves a cluster from which a complete removal ends where it would have ended from the
start.  The retries of `_try_remove_service` are therefore harmless: whatever its failed attempts
did, a try-removal that returns without giving up leaves exactly what one clean `_remove_service`
leaves.
-/

namespace Zenith

/-- What a completed `_remove_service` leaves of a cluster: every object but a Helm release that
carries the name's labels deleted, and the release `oidc-<name>` uninstalled. -/
def removal (cfg : Config) (name : String) (c : Cluster) : Cluster :=
  (c.filter fun key m =>
    decide (key.1 = .releases) || !selects (labels cfg (.exact name)) m.labels).erase
    (.releases, s!"oidc-{name}")

variable {P : Platform} {cfg : Config} {name : String}

/-- Deleting by the name's labels first changes nothing a removal leaves. -/
theorem removal_filter {kind : Kind} (notRelease : kind ≠ .releases) (c : Cluster) :
    removal cfg name (c.filter fun key m =>
      !(decide (key.1 = kind) && selects (labels cfg (.exact name)) m.labels)) =
      removal cfg name c := by
  refine Store.ext fun k => ?_
  simp only [removal, Store.get_erase, Store.get_filter]
  split
  · rfl
  · cases c.get k with
    | none => rfl
    | some m =>
      by_cases selected : selects (labels cfg (.exact name)) m.labels
      · by_cases kindMatch : k.1 = kind
        · simp [Option.filter, selected, kindMatch, notRelease]
        · simp [Option.filter, selected, kindMatch]
      · simp [Option.filter, selected]

/-- Uninstalling the release first changes nothing a removal leaves. -/
theorem removal_erase (c : Cluster) :
    removal cfg name (c.erase (.releases, s!"oidc-{name}")) = removal cfg name c := by
  refine Store.ext fun k => ?_
  simp only [removal, Store.get_erase, Store.get_filter]
  split <;> simp_all

/-- Where a removal has completed, a removal changes nothing. -/
theorem removal_of_removed {c : Cluster} (removed : Removed cfg name c) :
    removal cfg name c = c := by
  refine Store.ext fun k => ?_
  simp only [removal, Store.get_erase, Store.get_filter]
  split
  · next same => rw [same, removed.release]
  · cases found : c.get k with
    | none => rfl
    | some m =>
      by_cases release : k.1 = .releases
      · simp [Option.filter, release]
      · simp [Option.filter, release, removed.labelled k m found release]

/-- A request that leaves what a removal leaves when it goes through does so when it fails too. -/
theorem perform_removal {r : Request}
    (applied : ∀ answer c, removal cfg name (r.apply P answer c).1 = removal cfg name c)
    (answer : Answer) (c : Cluster) :
    removal cfg name (r.perform P answer c).1 = removal cfg name c := by
  unfold Request.perform
  split
  · rfl
  · exact applied answer c

/-- Every request of `_remove_service` leaves what a removal leaves as it was. -/
theorem removeService_conserves :
    (removeService cfg name).Always fun r =>
      ∀ answer c, removal cfg name (r.perform P answer c).1 = removal cfg name c := by
  have deletes : ∀ kind, kind ≠ .releases → ∀ answer c, removal cfg name
      ((Request.deleteAll kind (labels cfg (.exact name))).perform P answer c).1 =
        removal cfg name c :=
    fun kind notRelease => perform_removal fun _ c => removal_filter notRelease c
  simp only [removeService, Prog.bind_eq, Prog.emit, Prog.log_bind, Prog.pure_bind',
    Prog.always_log]
  exact Prog.Always.bind (Prog.always_send.mpr (deletes _ (by decide))) fun _ =>
    Prog.Always.bind (Prog.always_send.mpr (deletes _ (by decide))) fun _ =>
      Prog.Always.bind (Prog.always_send.mpr (deletes _ (by decide))) fun _ =>
        Prog.Always.bind (Prog.always_send.mpr (deletes _ (by decide))) fun _ =>
          Prog.always_send.mpr (perform_removal fun _ c => removal_erase c)

/-- A completed `_remove_service` leaves exactly `removal`. -/
theorem removeService_removal {c c' : Cluster} {t : List Event}
    (h : Prog.Reaches P (removeService cfg name) c t (pure ()) c') : c' = removal cfg name c :=
  calc c' = removal cfg name c' := (removal_of_removed (removeService_returns h)).symm
    _ = removal cfg name c := removeService_conserves.reaches_conserves h

/-- **Retrying a removal is harmless.**  A completed `_remove_service` leaves `removal`; the retry
loop, stopped anywhere, leaves a cluster a removal takes where it would from the start; and a
try-removal that returns without giving up leaves what one clean removal leaves. -/
theorem tryRemoveService_removal (P : Platform) (cfg : Config) (name : String) :
    (∀ c t c', Prog.Reaches P (removeService cfg name) c t (pure ()) c' →
      c' = removal cfg name c) ∧
    (∀ c t q c', Prog.Reaches P (tryRemoveService cfg name) c t q c' →
      removal cfg name c' = removal cfg name c) ∧
    ∀ c t c', Prog.Reaches P (tryRemoveService cfg name) c t (pure ()) c' →
      gaveUp cfg name t = false → c' = removal cfg name c := by
  have loop : (tryRemoveService cfg name).Always fun r =>
      ∀ answer c, removal cfg name (r.perform P answer c).1 = removal cfg name c :=
    tryOperation_always removeService_conserves _ _ _ _ _
  refine ⟨fun _ _ _ => removeService_removal, fun _ _ _ _ h => loop.reaches_conserves h,
    fun c t c' h completed => ?_⟩
  obtain ⟨c₀, t₀, t₁, q, attempts, done⟩ := tryRemoveService_completes h completed
  calc c' = removal cfg name c₀ := removeService_removal done
    _ = removal cfg name c := loop.reaches_conserves attempts

set_option maxRecDepth 4000 in
/-- The reconciled service `web` removed by a try-removal whose first attempt fails at its third
delete, after deleting the ingress and the endpoints, and whose second attempt completes. -/
theorem tryRemoveService_removal_retried :
    let cfg : Config := { (default : Config) with reconciliationRetries := 2 }
    let ok : Answer := ⟨false, "", ("", "")⟩
    let c := ((reconcileService Platform.plain cfg ⟨"web", [⟨"10.0.0.1", 8080⟩], Dict.empty⟩).run
      Platform.plain (Stream'.const ok) Store.empty).cluster
    let answers : Env := Stream'.cons ok (Stream'.cons ok
      (Stream'.cons ⟨true, "", ("", "")⟩ (Stream'.const ok)))
    let o := (tryRemoveService cfg "web").run Platform.plain answers c
    Prog.Reaches Platform.plain (tryRemoveService cfg "web") c o.trace (pure ()) o.cluster ∧
      gaveUp cfg "web" o.trace = false ∧ o.cluster = removal cfg "web" c := by
  dsimp only
  refine ⟨?run, by decide, (tryRemoveService_removal Platform.plain _ "web").2.2 _ _ _ ?run
    (by decide)⟩
  case run => exact Prog.reaches_run_ok rfl

end Zenith
