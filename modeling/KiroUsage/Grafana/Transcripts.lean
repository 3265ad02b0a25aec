import KiroUsage.Grafana.CustomResourceHandler

/-! What each step of the provisioning says and hears when it succeeds. A step
that fails has only worked on the workspace: the account, its token and the
response are not its business. -/
namespace KiroGrafanaProvisioner

open Text Execution
open KiroIngest (Json)

/-- The events of the steps that work with a token. -/
def IsWork : ProvisioningEvent → Prop
  | .call (.send _) _ | .call (.getObject ..) _ | .call .elapsed _ | .call (.delay _) _ => True
  | _ => False

/-- Any work on the workspace, also an incomplete one. -/
def works : Language ProvisioningEvent := only IsWork

theorem works_of_le {language : Language ProvisioningEvent} (h : language ≤ works) :
    language * works ≤ works :=
  mul_le_only h (le_refl _)

/-- The request was answered with one of these status codes. -/
def answered (request : GrafanaRequest) (statusCodes : List Nat) : Language ProvisioningEvent :=
  {events | ∃ reply : GrafanaResponse, reply.statusCode ∈ statusCodes ∧
    events = [.call (.send request) (.ok reply)]}

theorem answered_le_only {allowed : ProvisioningEvent → Prop} (request : GrafanaRequest)
    (statusCodes : List Nat) (h : ∀ reply, allowed (.call (.send request) (.ok reply))) :
    answered request statusCodes ≤ only allowed := by
  rintro _ ⟨reply, _, rfl⟩ event hm
  rw [List.mem_singleton.mp hm]
  exact h reply

theorem answered_le_works (request : GrafanaRequest) (statusCodes : List Nat) :
    answered request statusCodes ≤ works :=
  answered_le_only request statusCodes fun _ => trivial

variable (endpoint token : Str) (properties : ProvisioningProperties)

def createFolder : GrafanaRequest :=
  grafanaRequest endpoint token .post foldersPath (some (folderPayload folderUid folderTitle))

def getFolder : GrafanaRequest := grafanaRequest endpoint token .get (folderPath folderUid) none

def getPluginSettings : GrafanaRequest := grafanaRequest endpoint token .get pluginSettingsPath none

def installPlugin : GrafanaRequest :=
  grafanaRequest endpoint token .post pluginInstallPath (some (.object []))

def getDataSource : GrafanaRequest :=
  grafanaRequest endpoint token .get (dataSourcePath athenaDataSourceUid) none

def putDataSource : GrafanaRequest :=
  grafanaRequest properties.workspaceEndpoint token .put (dataSourcePath athenaDataSourceUid)
    (some properties.dataSource)

def postDataSource : GrafanaRequest :=
  grafanaRequest properties.workspaceEndpoint token .post dataSourcesPath (some properties.dataSource)

def getHealth : GrafanaRequest := grafanaRequest endpoint token .get healthPath none

def postDashboard (dashboard : Json) : GrafanaRequest :=
  grafanaRequest endpoint token .post dashboardsPath (some (dashboardPayload dashboard folderUid))

/-- The folder was created, or it was there and has been read. -/
def folderReady : Language ProvisioningEvent :=
  answered (createFolder endpoint token) [200] +
    answered (createFolder endpoint token) [409, 412] * answered (getFolder endpoint token) [200]

/-- The plugin was there, or it has been installed. -/
def pluginReady : Language ProvisioningEvent :=
  answered (getPluginSettings endpoint token) [200] +
    answered (getPluginSettings endpoint token) [404] *
      answered (installPlugin endpoint token) [200, 409]

/-- The data source has been stored, as a new one or in the place of another. -/
def dataSourceStored : Language ProvisioningEvent :=
  let endpoint := properties.workspaceEndpoint
  answered (getDataSource endpoint token) [200] * answered (putDataSource token properties) [200] +
    answered (getDataSource endpoint token) [404] * answered (postDataSource token properties) [200]

/-- A poll that found the plugin unregistered, and the wait after it. -/
def polled : Language ProvisioningEvent :=
  {events | ∃ reply : GrafanaResponse, ∃ seconds, reply.statusCode = 404 ∧
    seconds < registrationTimeout ∧
    events = [.call (.send (getHealth endpoint token)) (.ok reply), .call .elapsed (.ok seconds),
      .call (.delay 10) (.ok ())]}

namespace Host

variable {World : Type} (host : Host World)

/-- The health check was answered with the status OK. -/
def healthy : Language ProvisioningEvent :=
  {events | ∃ reply : GrafanaResponse, reply.statusCode = 200 ∧
    host.verifyHealth reply.body = .ok () ∧
    events = [.call (.send (getHealth endpoint token)) (.ok reply)]}

/-- Any number of polls, and then the health check succeeded. -/
def verified : Language ProvisioningEvent :=
  KStar.kstar (polled endpoint token) * host.healthy endpoint token

/-- The asset is a dashboard with the expected uid, and it has been stored. -/
def dashboardStored (dashboardJson expectedUid : Str) : Language ProvisioningEvent :=
  {events | ∃ dashboard, host.renderDashboard dashboardJson expectedUid = .ok dashboard ∧
    events ∈ answered (postDashboard endpoint token dashboard) [200]}

end Host

namespace Host

variable {World : Type} (host : Host World)

/-- Both assets were read and stored as dashboards. -/
def dashboardsStored : Language ProvisioningEvent :=
  ⨆ fleet, ⨆ userDrilldown,
    heard (.getObject properties.fleetDashboardAssetBucket properties.fleetDashboardAssetKey) fleet *
    heard (.getObject properties.userDrilldownDashboardAssetBucket
      properties.userDrilldownDashboardAssetKey) userDrilldown *
    host.dashboardStored properties.workspaceEndpoint token fleet properties.fleetDashboardUid *
    host.dashboardStored properties.workspaceEndpoint token userDrilldown
      properties.userDrilldownDashboardUid

/-- All that is configured with a token. -/
def configured : Language ProvisioningEvent :=
  let endpoint := properties.workspaceEndpoint
  folderReady endpoint token * pluginReady endpoint token * dataSourceStored token properties *
    host.verified endpoint token * host.dashboardsStored token properties

end Host

section Steps

variable {endpoint token : Str} {properties : ProvisioningProperties} {World : Type}
  {host : Host World}

/-- A call that is answered with an expected status code. -/
theorem grafanaCallAsync_tells (method : HttpMethod) (path : Str) (payload : Option Json)
    (statusCodes : List Nat) :
    Tells host.answers 1 (host.grafanaCallAsync endpoint token method path payload statusCodes)
      (fun reply => {events | reply.statusCode ∈ statusCodes ∧ events =
        [.call (.send (grafanaRequest endpoint token method path payload)) (.ok reply)]}) works := by
  let request := Request.send (grafanaRequest endpoint token method path payload)
  refine Tells.bind _ ((Tells.exchange request).weaken (fun _ => le_refl _)
    (refused_le_only request fun _ => trivial)) fun reply => ?_
  split_ifs with hExpected
  · refine Tells.done reply ?_
    rintro _ rfl
    exact ⟨List.contains_iff_mem.mp hExpected, rfl⟩
  · exact Tells.throwing _ (heard_le_only _ _ trivial)

/-- The same, where the reply does not matter. -/
theorem grafanaCallAsync_answered (method : HttpMethod) (path : Str) (payload : Option Json)
    (statusCodes : List Nat) :
    Tells host.answers 1
      (do let _ ← host.grafanaCallAsync endpoint token method path payload statusCodes; pure ())
      (fun _ => answered (grafanaRequest endpoint token method path payload) statusCodes) works := by
  refine Tells.bind _ (grafanaCallAsync_tells method path payload statusCodes) fun reply => ?_
  refine Tells.done () ?_
  rintro _ ⟨hStatus, rfl⟩
  exact ⟨reply, hStatus, rfl⟩

/-- After some work, a step that goes on with the work. -/
theorem tells_continues {Value : Type} {before : Language ProvisioningEvent}
    {program : Provisioning World Value} {returned : Value → Language ProvisioningEvent}
    (h : Tells host.answers 1 program returned works) (hBefore : before ≤ works) :
    Tells host.answers before program (fun value => before * returned value) works :=
  (h.frame before).weaken (fun _ => le_refl _) (works_of_le hBefore)

/-- After some work, one more request of it. -/
theorem tells_asks {before : Language ProvisioningEvent} (request : Request)
    (h : ∀ error, IsWork (.call request (.error error))) (hBefore : before ≤ works) :
    Tells host.answers before (host.exchange request) (fun reply => before * heard request reply)
      works :=
  tells_continues ((Tells.exchange request).weaken (fun _ => le_refl _) (refused_le_only request h)) hBefore

theorem ensureFolderAsync_tells :
    Tells host.answers 1 (host.ensureFolderAsync endpoint token)
      (fun _ => folderReady endpoint token) works := by
  refine Tells.bind _ (grafanaCallAsync_tells .post foldersPath _ [200, 409, 412]) fun reply => ?_
  by_cases hPresent : reply.statusCode = 409 ∨ reply.statusCode = 412
  · rw [if_pos hPresent]
    refine (tells_continues (grafanaCallAsync_answered .get (folderPath folderUid) none [200])
      ?_).weaken (fun _ => ?_) (le_refl _)
    · exact fun _ ⟨hStatus, hEvents⟩ => answered_le_works _ _ ⟨reply, hStatus, hEvents⟩
    · refine le_trans (mul_le_mul' ?_ (le_refl _)) le_add_self
      rintro _ ⟨_, rfl⟩
      exact ⟨reply, by simpa using hPresent, rfl⟩
  · rw [if_neg hPresent]
    refine Tells.done () ?_
    rintro _ ⟨hStatus, rfl⟩
    refine Or.inl ⟨reply, ?_, rfl⟩
    simp only [List.mem_cons, List.not_mem_nil, or_false] at hStatus
    exact List.mem_singleton.mpr (hStatus.resolve_right hPresent)

theorem grafanaResourceExistsAsync_tells (path : Str) :
    Tells host.answers 1 (host.grafanaResourceExistsAsync endpoint token path)
      (fun present => answered (grafanaRequest endpoint token .get path none)
        [if present then 200 else 404]) works := by
  refine Tells.bind _ (grafanaCallAsync_tells .get path none [200, 404]) fun reply => ?_
  refine Tells.done _ ?_
  rintro _ ⟨hStatus, rfl⟩
  refine ⟨reply, ?_, rfl⟩
  simp only [List.mem_cons, List.not_mem_nil, or_false] at hStatus
  rcases hStatus with hStatus | hStatus
  · simp [hStatus]
  · simp [hStatus]

theorem ensureAthenaPluginAsync_tells :
    Tells host.answers 1 (host.ensureAthenaPluginAsync endpoint token)
      (fun _ => pluginReady endpoint token) works := by
  refine Tells.bind _ (grafanaResourceExistsAsync_tells pluginSettingsPath) fun present => ?_
  cases present with
  | true => exact Tells.done () le_self_add
  | false =>
      exact (tells_continues (grafanaCallAsync_answered .post pluginInstallPath (some (.object []))
        [200, 409]) (answered_le_works _ _)).weaken (fun _ => le_add_self) (le_refl _)

theorem upsertAthenaDataSourceAsync_tells :
    Tells host.answers 1 (host.upsertAthenaDataSourceAsync properties token)
      (fun _ => dataSourceStored token properties) works := by
  refine Tells.bind _
    (grafanaResourceExistsAsync_tells (dataSourcePath athenaDataSourceUid)) fun present => ?_
  cases present with
  | true =>
      exact (tells_continues (grafanaCallAsync_answered .put (dataSourcePath athenaDataSourceUid) _
        [200]) (answered_le_works _ _)).weaken (fun _ => le_self_add) (le_refl _)
  | false =>
      exact (tells_continues (grafanaCallAsync_answered .post dataSourcesPath _ [200])
        (answered_le_works _ _)).weaken (fun _ => le_add_self) (le_refl _)

theorem polled_le_works : polled endpoint token ≤ works := by
  rintro _ ⟨reply, seconds, _, _, rfl⟩ event hm
  simp only [List.mem_cons, List.not_mem_nil, or_false] at hm
  rcases hm with rfl | rfl | rfl
  · trivial
  · trivial
  · trivial

/-- The end of the health check, after a reply that is not a 404. -/
theorem verifyHealth_tells (reply : GrafanaResponse) (hRegistered : reply.statusCode ≠ 404) :
    Tells host.answers {events | reply.statusCode ∈ [200, 404] ∧ events =
        [.call (.send (grafanaRequest endpoint token .get healthPath none)) (.ok reply)]}
      (Async.ofExcept (host.verifyHealth reply.body)) (fun _ => host.healthy endpoint token) works := by
  refine Tells.ofExcept (fun _ hHealthy => ?_) fun _ _ => ?_
  · rintro _ ⟨hStatus, rfl⟩
    simp only [List.mem_cons, List.not_mem_nil, or_false] at hStatus
    exact ⟨reply, hStatus.resolve_right hRegistered, hHealthy, rfl⟩
  · exact fun _ ⟨hStatus, hEvents⟩ => answered_le_works _ _ ⟨reply, hStatus, hEvents⟩

/-- However often the plugin is found unregistered. -/
theorem pollHealth_tells (delays : Nat) :
    Tells host.answers 1 (host.pollHealth endpoint token delays)
      (fun _ => host.verified endpoint token) works := by
  have hOnce : host.healthy endpoint token ≤ host.verified endpoint token := by
    refine le_trans (one_mul _).ge (mul_le_mul' ?_ (le_refl _))
    rintro _ rfl
    exact Language.nil_mem_kstar _
  have hSent (reply : GrafanaResponse) : {events | reply.statusCode ∈ [200, 404] ∧ events =
      [.call (.send (grafanaRequest endpoint token .get healthPath none)) (.ok reply)]} ≤ works :=
    fun _ ⟨hStatus, hEvents⟩ => answered_le_works _ _ ⟨reply, hStatus, hEvents⟩
  induction delays with
  | zero =>
      refine Tells.bind _ (grafanaCallAsync_tells .get healthPath none [200, 404]) fun reply => ?_
      split_ifs with hMissing
      · exact Tells.throwing _ (hSent reply)
      · exact (verifyHealth_tells reply hMissing).weaken (fun _ => hOnce) (le_refl _)
  | succ delays ih =>
      refine Tells.bind _ (grafanaCallAsync_tells .get healthPath none [200, 404]) fun reply => ?_
      split_ifs with hMissing
      · have hWaiting (seconds : Nat) := mul_le_only (hSent reply)
          (heard_le_only Request.elapsed seconds trivial)
        refine Tells.bind _ (tells_asks .elapsed (fun _ => trivial) (hSent reply)) fun seconds => ?_
        by_cases hTimeout : seconds ≥ registrationTimeout
        · rw [if_pos hTimeout]
          exact Tells.throwing _ (hWaiting seconds)
        rw [if_neg hTimeout]
        refine Tells.bind (fun _ => polled endpoint token)
          ((tells_asks (.delay 10) (fun _ => trivial) (hWaiting seconds)).weaken ?_ (le_refl _)) fun _ => ?_
        · rintro _ _ ⟨_, ⟨_, ⟨_, rfl⟩, _, rfl, rfl⟩, _, rfl, rfl⟩
          exact ⟨reply, seconds, hMissing, Nat.lt_of_not_le hTimeout, rfl⟩
        · refine (tells_continues ih polled_le_works).weaken (fun _ => ?_) (le_refl _)
          rw [Host.verified, ← mul_assoc]
          exact mul_le_mul' mul_kstar_le_kstar (le_refl _)
      · exact (verifyHealth_tells reply hMissing).weaken (fun _ => hOnce) (le_refl _)

theorem upsertDashboardAsync_tells (dashboardJson expectedUid : Str) :
    Tells host.answers 1 (host.upsertDashboardAsync endpoint token dashboardJson expectedUid)
      (fun _ => host.dashboardStored endpoint token dashboardJson expectedUid) works := by
  refine Tells.bind
    (fun dashboard =>
      {events | events = [] ∧ host.renderDashboard dashboardJson expectedUid = .ok dashboard})
    (Tells.ofExcept ?_ fun _ _ => one_le_only) fun dashboard => ?_
  · rintro dashboard hDashboard _ rfl
    exact ⟨rfl, hDashboard⟩
  · refine (tells_continues (grafanaCallAsync_answered .post dashboardsPath _ [200]) ?_).weaken ?_
      (le_refl _)
    · rintro _ ⟨rfl, _⟩
      exact one_le_only rfl
    · rintro _ events hm
      obtain ⟨_, ⟨rfl, hDashboard⟩, stored, hStored, rfl⟩ := Language.mem_mul.mp hm
      exact ⟨dashboard, hDashboard, hStored⟩

variable (endpoint token properties host)

theorem folderReady_le_works : folderReady endpoint token ≤ works :=
  add_le (answered_le_works _ _) (mul_le_only (answered_le_works _ _) (answered_le_works _ _))

theorem pluginReady_le_works : pluginReady endpoint token ≤ works :=
  add_le (answered_le_works _ _) (mul_le_only (answered_le_works _ _) (answered_le_works _ _))

theorem dataSourceStored_le_works : dataSourceStored token properties ≤ works :=
  add_le (mul_le_only (answered_le_works _ _) (answered_le_works _ _))
    (mul_le_only (answered_le_works _ _) (answered_le_works _ _))

theorem verified_le_only {allowed : ProvisioningEvent → Prop}
    (hHealth : ∀ result, allowed (.call (.send (getHealth endpoint token)) result))
    (hElapsed : ∀ result, allowed (.call .elapsed result))
    (hDelay : ∀ result, allowed (.call (.delay 10) result)) :
    host.verified endpoint token ≤ only allowed := by
  refine mul_le_only (kstar_le_of_mul_le_left one_le_only (mul_le_only (le_refl _) ?_)) ?_
  · rintro _ ⟨reply, seconds, _, _, rfl⟩ event hm
    simp only [List.mem_cons, List.not_mem_nil, or_false] at hm
    rcases hm with rfl | rfl | rfl
    · exact hHealth _
    · exact hElapsed _
    · exact hDelay _
  · rintro _ ⟨reply, _, _, rfl⟩ event hm
    rw [List.mem_singleton.mp hm]
    exact hHealth _

theorem verified_le_works : host.verified endpoint token ≤ works :=
  verified_le_only endpoint token host (fun _ => trivial) (fun _ => trivial) fun _ => trivial

theorem dashboardStored_le_works (dashboardJson expectedUid : Str) :
    host.dashboardStored endpoint token dashboardJson expectedUid ≤ works :=
  fun _ ⟨_, _, hm⟩ => answered_le_works _ _ hm

theorem configured_le_works : host.configured token properties ≤ works := by
  let endpoint := properties.workspaceEndpoint
  have hVerified := mul_le_only (mul_le_only (mul_le_only (folderReady_le_works endpoint token)
    (pluginReady_le_works endpoint token)) (dataSourceStored_le_works token properties))
    (verified_le_works endpoint token host)
  refine mul_le_only hVerified (iSup_le fun fleet => iSup_le fun userDrilldown => ?_)
  exact mul_le_only (mul_le_only (mul_le_only (heard_le_only _ _ trivial) (heard_le_only _ _ trivial))
    (dashboardStored_le_works _ _ _ _ _)) (dashboardStored_le_works _ _ _ _ _)

theorem configureAsync_tells :
    Tells host.answers 1 (host.configureAsync properties token)
      (fun _ => host.configured token properties) works := by
  let endpoint := properties.workspaceEndpoint
  have hFolder := folderReady_le_works endpoint token
  have hPlugin := mul_le_only hFolder (pluginReady_le_works endpoint token)
  have hDataSource := mul_le_only hPlugin (dataSourceStored_le_works token properties)
  have hVerified := mul_le_only hDataSource (verified_le_works endpoint token host)
  let fleetAsset := Request.getObject properties.fleetDashboardAssetBucket
    properties.fleetDashboardAssetKey
  let userDrilldownAsset := Request.getObject properties.userDrilldownDashboardAssetBucket
    properties.userDrilldownDashboardAssetKey
  have hFleet (fleet : Str) := mul_le_only hVerified
    (heard_le_only fleetAsset fleet trivial)
  have hAssets (fleet userDrilldown : Str) := mul_le_only (hFleet fleet)
    (heard_le_only userDrilldownAsset userDrilldown trivial)
  have hStored (fleet userDrilldown : Str) := mul_le_only (hAssets fleet userDrilldown)
    (dashboardStored_le_works endpoint token host fleet properties.fleetDashboardUid)
  unfold Host.configureAsync
  refine Tells.bind _ ensureFolderAsync_tells fun _ => ?_
  refine Tells.bind _ (tells_continues ensureAthenaPluginAsync_tells hFolder) fun _ => ?_
  refine Tells.bind _ (tells_continues upsertAthenaDataSourceAsync_tells hPlugin) fun _ => ?_
  refine Tells.bind _ (tells_continues (pollHealth_tells _) hDataSource) fun _ => ?_
  refine Tells.bind _ (tells_asks fleetAsset (fun _ => trivial) hVerified) fun fleet => ?_
  refine Tells.bind _ (tells_asks userDrilldownAsset (fun _ => trivial) (hFleet fleet))
    fun userDrilldown => ?_
  refine Tells.bind _ (tells_continues (upsertDashboardAsync_tells fleet
    properties.fleetDashboardUid) (hAssets fleet userDrilldown)) fun _ => ?_
  refine Tells.bind _ (tells_continues (upsertDashboardAsync_tells userDrilldown
    properties.userDrilldownDashboardUid) (hStored fleet userDrilldown)) fun _ => ?_
  refine Tells.done _ (le_trans (le_of_eq ?_) (mul_le_mul' (le_refl _)
    (le_iSup_of_le fleet (le_iSup_of_le userDrilldown (le_refl _)))))
  simp only [mul_assoc]
  rfl

end Steps

end KiroGrafanaProvisioner
