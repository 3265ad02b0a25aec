import KiroUsage.Semantics.Simulation
import KiroUsage.Grafana.Credentials

/-! Where the key of a token goes. An invocation is run twice, with services that differ
in the keys they issue and accept; what can be seen of it is the same both times. -/
namespace KiroGrafanaProvisioner

open Text Execution
open KiroIngest (Json)

/-- An event without the key of a token. The key is in the reply that issues it, and
bears the requests of the workspace. -/
def redact : ProvisioningEvent → ProvisioningEvent
  | .call (.send request) result => .call (.send { request with token := [] }) result
  | .call (.createWorkspaceServiceAccountToken workspaceId serviceAccountId name secondsToLive) result =>
    .call (.createWorkspaceServiceAccountToken workspaceId serviceAccountId name secondsToLive)
      (result.map fun token => { token with key := [] })
  | event => event

/-- The requests that carry a key there or back. -/
def bearsKey : Request → Bool
  | .send _ => true
  | .createWorkspaceServiceAccountToken .. => true
  | _ => false

/-- Services that issue and accept other keys, and are alike otherwise. -/
structure AlikeButKeys {World : Type} (services services' : Services Request Reply World Exn)
    (keys : Str → Str → Prop) (worlds : World → World → Prop) : Prop where
  issue : ∀ workspaceId serviceAccountId name secondsToLive w w', worlds w w' →
    let request : Request :=
      .createWorkspaceServiceAccountToken workspaceId serviceAccountId name secondsToLive
    Alike (fun (token token' : ServiceAccountToken) => token.id = token'.id ∧ keys token.key token'.key)
        (services request w).1 (services' request w').1 ∧
      worlds (services request w).2 (services' request w').2
  accept : ∀ (request : GrafanaRequest) key key' w w', keys key key' → worlds w w' →
    let sent : Request := .send { request with token := key }
    let sent' : Request := .send { request with token := key' }
    (services sent w).1 = (services' sent' w').1 ∧ worlds (services sent w).2 (services' sent' w').2
  other : ∀ request, bearsKey request = false → ∀ w w', worlds w w' →
    (services request w).1 = (services' request w').1 ∧
      worlds (services request w).2 (services' request w').2

/-- Two transcripts of which the same can be seen. -/
def SeenAlike {World : Type} (worlds : World → World → Prop)
    (transcript transcript' : Transcript Request Reply World Exn LogLine) : Prop :=
  worlds transcript.world transcript'.world ∧
    transcript.events.map redact = transcript'.events.map redact

/-- Two programs that cannot be told apart by what is seen of them. -/
abbrev Indistinct {World Value : Type} (worlds : World → World → Prop)
    (program program' : Provisioning World Value) : Prop :=
  Simulates Plan.healthy Plan.healthy (SeenAlike worlds) Eq program program'

section Programs

variable {World Value : Type} {worlds : World → World → Prop}

theorem indistinct_ofExcept (result : Except Exn Value) :
    Indistinct worlds (Async.ofExcept result) (Async.ofExcept result) :=
  Simulates.ofExcept (Alike.refl fun _ _ => rfl)

theorem indistinct_note (line : LogLine) :
    Indistinct worlds (Async.note line) (Async.note line : Provisioning World Unit) := by
  refine Simulates.modify rfl fun transcript transcript' hSeen => ⟨hSeen.1, ?_⟩
  rw [List.map_append, List.map_append, hSeen.2]

theorem indistinct_tryDeletion {deletion deletion' : Provisioning World Unit}
    (hDeletion : Indistinct worlds deletion deletion') (line : Exn → LogLine) :
    Indistinct worlds (Host.tryDeletion deletion line) (Host.tryDeletion deletion' line) := by
  apply Simulates.catching
  · exact Simulates.bind hDeletion fun _ _ _ => Simulates.done rfl
  · exact fun error => Simulates.bind (indistinct_note _) fun _ _ _ => Simulates.done rfl

end Programs

namespace AlikeButKeys

variable {World Value : Type} {host : Host World} {services' : Services Request Reply World Exn}
  {keys : Str → Str → Prop} {worlds : World → World → Prop}
  (h : AlikeButKeys host.services services' keys worlds)

include h

theorem answers {request : Request} (hOther : bearsKey request = false) {w w' : World}
    (hWorlds : worlds w w') :
    (host.answers request w).1 = (Host.answers { host with services := services' } request w').1 ∧
      worlds (host.answers request w).2
        (Host.answers { host with services := services' } request w').2 := by
  cases request with
  | respond responseUrl response => exact ⟨rfl, hWorlds⟩
  | send _ => cases hOther
  | createWorkspaceServiceAccountToken => cases hOther
  | _ => exact h.other _ rfl w w' hWorlds

theorem exchange {request : Request} (hOther : bearsKey request = false) :
    Indistinct worlds (host.exchange request)
      (Host.exchange { host with services := services' } request) := by
  apply Simulates.call fun _ => rfl
  · intro transcript transcript' hSeen
    rw [(h.answers hOther hSeen.1).1]
    exact Alike.refl fun _ _ => rfl
  · intro transcript transcript' hSeen
    obtain ⟨hAnswer, hAfter⟩ := h.answers hOther hSeen.1
    refine ⟨hAfter, ?_⟩
    rw [List.map_append, List.map_append, hSeen.2, hAnswer]

omit h in
/-- Replies that differ in the key they issue look the same. -/
theorem redact_issued {workspaceId serviceAccountId name : Str} {secondsToLive : Nat}
    {answer answer' : Except Exn ServiceAccountToken}
    (hAlike : Alike (fun (token token' : ServiceAccountToken) =>
      token.id = token'.id ∧ keys token.key token'.key) answer answer') :
    redact (.call (.createWorkspaceServiceAccountToken workspaceId serviceAccountId name secondsToLive)
        answer) =
      redact (.call (.createWorkspaceServiceAccountToken workspaceId serviceAccountId name secondsToLive)
        answer') := by
  cases hAlike with
  | @ok token token' hTokens =>
      simp only [redact, Except.map, hTokens.1]
  | error error => rfl

/-- A key that is issued. -/
theorem issued (workspaceId serviceAccountId name : Str) (secondsToLive : Nat) :
    Simulates Plan.healthy Plan.healthy (SeenAlike worlds)
      (fun (token token' : ServiceAccountToken) => token.id = token'.id ∧ keys token.key token'.key)
      (host.exchange (.createWorkspaceServiceAccountToken workspaceId serviceAccountId name secondsToLive))
      (Host.exchange { host with services := services' }
        (.createWorkspaceServiceAccountToken workspaceId serviceAccountId name secondsToLive)) := by
  apply Simulates.call fun _ => rfl
  · exact fun transcript transcript' hSeen => (h.issue _ _ _ _ _ _ hSeen.1).1
  · intro transcript transcript' hSeen
    obtain ⟨hAlike, hAfter⟩ := h.issue workspaceId serviceAccountId name secondsToLive _ _ hSeen.1
    refine ⟨hAfter, ?_⟩
    rw [List.map_append, List.map_append, hSeen.2]
    exact congrArg (fun event => transcript'.events.map redact ++ [event]) (redact_issued hAlike)

/-- A key that bears a request. -/
theorem accepted (request : GrafanaRequest) {key key' : Str} (hKeys : keys key key') :
    Indistinct worlds (host.exchange (.send { request with token := key }))
      (Host.exchange { host with services := services' } (.send { request with token := key' })) := by
  apply Simulates.call
  · exact fun _ => rfl
  · intro transcript transcript' hSeen
    have hAnswer := (h.accept request key key' _ _ hKeys hSeen.1).1
    exact hAnswer ▸ Alike.refl fun _ _ => rfl
  · intro transcript transcript' hSeen
    obtain ⟨hAnswer, hAfter⟩ := h.accept request key key' _ _ hKeys hSeen.1
    refine ⟨hAfter, ?_⟩
    rw [List.map_append, List.map_append, hSeen.2]
    exact congrArg (fun answer => transcript'.events.map redact ++
      [Event.call (.send { request with token := [] }) answer]) hAnswer

theorem grafanaCallAsync (endpoint : Str) {key key' : Str} (hKeys : keys key key') (method : HttpMethod)
    (path : Str) (payload : Option Json) (expectedStatusCodes : List Nat) :
    Indistinct worlds (host.grafanaCallAsync endpoint key method path payload expectedStatusCodes)
      (Host.grafanaCallAsync { host with services := services' } endpoint key' method path payload
        expectedStatusCodes) := by
  have hSent : Indistinct worlds
      (host.exchange (.send (grafanaRequest endpoint key method path payload)))
      (Host.exchange { host with services := services' }
        (.send (grafanaRequest endpoint key' method path payload))) :=
    h.accepted (grafanaRequest endpoint [] method path payload) hKeys
  refine Simulates.bind hSent ?_
  rintro response _ rfl
  split_ifs
  · exact Simulates.done rfl
  · exact Simulates.throwing _

/-- A call whose response does not matter. -/
theorem callOnly {key key' : Str} (hKeys : keys key key') (endpoint : Str) (method : HttpMethod)
    (path : Str) (payload : Option Json) (expectedStatusCodes : List Nat) :
    Indistinct worlds
      (do let _ ← host.grafanaCallAsync endpoint key method path payload expectedStatusCodes
          pure ())
      (do let _ ← Host.grafanaCallAsync { host with services := services' } endpoint key' method path
            payload expectedStatusCodes
          pure ()) :=
  Simulates.bind (h.grafanaCallAsync endpoint hKeys method path payload expectedStatusCodes)
    fun _ _ _ => Simulates.done rfl

theorem ensureFolderAsync (endpoint : Str) {key key' : Str} (hKeys : keys key key') :
    Indistinct worlds (host.ensureFolderAsync endpoint key)
      (Host.ensureFolderAsync { host with services := services' } endpoint key') := by
  refine Simulates.bind (h.grafanaCallAsync endpoint hKeys _ _ _ _) ?_
  rintro response _ rfl
  split_ifs
  · exact h.callOnly hKeys _ _ _ _ _
  · exact Simulates.done rfl

theorem grafanaResourceExistsAsync (endpoint : Str) {key key' : Str} (hKeys : keys key key')
    (path : Str) :
    Indistinct worlds (host.grafanaResourceExistsAsync endpoint key path)
      (Host.grafanaResourceExistsAsync { host with services := services' } endpoint key' path) := by
  refine Simulates.bind (h.grafanaCallAsync endpoint hKeys _ _ _ _) ?_
  rintro response _ rfl
  exact Simulates.done rfl

theorem ensureAthenaPluginAsync (endpoint : Str) {key key' : Str} (hKeys : keys key key') :
    Indistinct worlds (host.ensureAthenaPluginAsync endpoint key)
      (Host.ensureAthenaPluginAsync { host with services := services' } endpoint key') := by
  refine Simulates.bind (h.grafanaResourceExistsAsync endpoint hKeys _) ?_
  rintro found _ rfl
  cases found with
  | true => exact Simulates.done rfl
  | false => exact h.callOnly hKeys _ _ _ _ _

theorem upsertAthenaDataSourceAsync (properties : ProvisioningProperties) {key key' : Str}
    (hKeys : keys key key') :
    Indistinct worlds (host.upsertAthenaDataSourceAsync properties key)
      (Host.upsertAthenaDataSourceAsync { host with services := services' } properties key') := by
  refine Simulates.bind (h.grafanaResourceExistsAsync _ hKeys _) ?_
  rintro found _ rfl
  cases found with
  | true => exact h.callOnly hKeys _ _ _ _ _
  | false => exact h.callOnly hKeys _ _ _ _ _

/-- The polls go on alike, whatever the number of delays. -/
theorem pollHealth (endpoint : Str) {key key' : Str} (hKeys : keys key key') (delays : Nat) :
    Indistinct worlds (host.pollHealth endpoint key delays)
      (Host.pollHealth { host with services := services' } endpoint key' delays) := by
  induction delays with
  | zero =>
      refine Simulates.bind (h.grafanaCallAsync endpoint hKeys _ _ _ _) ?_
      rintro response _ rfl
      split_ifs
      · exact Simulates.throwing _
      · exact indistinct_ofExcept _
  | succ delays ih =>
      refine Simulates.bind (h.grafanaCallAsync endpoint hKeys _ _ _ _) ?_
      rintro response _ rfl
      split_ifs
      · refine Simulates.bind (h.exchange rfl) ?_
        rintro elapsed _ rfl
        split_ifs
        · exact Simulates.throwing _
        · have hDelay : Indistinct worlds (host.exchange (.delay 10))
              (Host.exchange { host with services := services' } (.delay 10)) := h.exchange rfl
          exact Simulates.bind hDelay fun _ _ _ => ih
      · exact indistinct_ofExcept _

theorem upsertDashboardAsync (endpoint : Str) {key key' : Str} (hKeys : keys key key')
    (dashboardJson expectedUid : Str) :
    Indistinct worlds (host.upsertDashboardAsync endpoint key dashboardJson expectedUid)
      (Host.upsertDashboardAsync { host with services := services' } endpoint key' dashboardJson
        expectedUid) := by
  refine Simulates.bind (indistinct_ofExcept (host.renderDashboard dashboardJson expectedUid)) ?_
  rintro dashboard _ rfl
  exact h.callOnly hKeys _ _ _ _ _

theorem readAssetAsync (bucket key : Str) :
    Indistinct worlds (host.readAssetAsync bucket key)
      (Host.readAssetAsync { host with services := services' } bucket key) :=
  h.exchange rfl

theorem configureAsync (properties : ProvisioningProperties) {key key' : Str} (hKeys : keys key key') :
    Indistinct worlds (host.configureAsync properties key)
      (Host.configureAsync { host with services := services' } properties key') := by
  refine Simulates.bind (h.ensureFolderAsync _ hKeys) fun _ _ _ => ?_
  refine Simulates.bind (h.ensureAthenaPluginAsync _ hKeys) fun _ _ _ => ?_
  refine Simulates.bind (h.upsertAthenaDataSourceAsync properties hKeys) fun _ _ _ => ?_
  refine Simulates.bind (h.pollHealth _ hKeys host.registrationDelays) fun _ _ _ => ?_
  refine Simulates.bind (h.readAssetAsync _ _) ?_
  rintro fleetDashboard _ rfl
  refine Simulates.bind (h.readAssetAsync _ _) ?_
  rintro userDrilldownDashboard _ rfl
  refine Simulates.bind (h.upsertDashboardAsync _ hKeys _ _) fun _ _ _ => ?_
  refine Simulates.bind (h.upsertDashboardAsync _ hKeys _ _) fun _ _ _ => ?_
  exact Simulates.done rfl

theorem deleteEphemeralCredentialsAsync (workspaceId serviceAccountId : Str) (tokenId : Option Str) :
    Indistinct worlds (host.deleteEphemeralCredentialsAsync workspaceId serviceAccountId tokenId)
      (Host.deleteEphemeralCredentialsAsync { host with services := services' } workspaceId
        serviceAccountId tokenId) := by
  have hToken : Indistinct worlds (host.tryDeleteToken workspaceId serviceAccountId tokenId)
      (Host.tryDeleteToken { host with services := services' } workspaceId serviceAccountId tokenId) := by
    unfold Host.tryDeleteToken
    split_ifs
    · exact Simulates.done rfl
    · exact indistinct_tryDeletion (h.exchange rfl) _
  have hAccount : Indistinct worlds
      (host.exchange (.deleteWorkspaceServiceAccount workspaceId serviceAccountId))
      (Host.exchange { host with services := services' }
        (.deleteWorkspaceServiceAccount workspaceId serviceAccountId)) := h.exchange rfl
  refine Simulates.bind hToken ?_
  rintro tokenFailure _ rfl
  refine Simulates.bind (indistinct_tryDeletion hAccount _) ?_
  rintro accountFailure _ rfl
  split_ifs
  · exact Simulates.throwing _
  · exact Simulates.done rfl

theorem setWorkspacePermissionsAsync (properties : ProvisioningProperties) :
    Indistinct worlds (host.setWorkspacePermissionsAsync properties)
      (Host.setWorkspacePermissionsAsync { host with services := services' } properties) := by
  have hUpdate : Indistinct worlds
      (host.exchange (.updatePermissions properties.workspaceId properties.instructions))
      (Host.exchange { host with services := services' }
        (.updatePermissions properties.workspaceId properties.instructions)) := h.exchange rfl
  refine Simulates.bind hUpdate ?_
  rintro errors _ rfl
  dsimp only
  split_ifs
  · exact Simulates.throwing _
  · exact Simulates.done rfl

theorem provisionAsync (properties : ProvisioningProperties) :
    Indistinct worlds (host.provisionAsync properties)
      (Host.provisionAsync { host with services := services' } properties) := by
  have hAccount : Indistinct worlds
      (host.exchange (.createWorkspaceServiceAccount properties.workspaceId serviceAccountName .admin))
      (Host.exchange { host with services := services' }
        (.createWorkspaceServiceAccount properties.workspaceId serviceAccountName .admin)) :=
    h.exchange rfl
  refine Simulates.bind (h.setWorkspacePermissionsAsync properties) fun _ _ _ => ?_
  refine Simulates.bind hAccount ?_
  rintro serviceAccount _ rfl
  -- The variable that outlives the work holds the id of the token, never its key.
  refine Simulates.finallyWith (rfl : (none : Option Str) = none) ?_ ?_
  · refine Simulates.bind (Simulates.lift (h.issued _ _ _ _)) ?_
    rintro token token' ⟨hId, hKeys⟩
    refine Simulates.bind (Simulates.assign fun _ _ _ => congrArg some hId) fun _ _ _ => ?_
    exact Simulates.lift (h.configureAsync properties hKeys)
  · rintro tokenId _ rfl
    exact h.deleteEphemeralCredentialsAsync _ _ _

theorem respondAsync (request : Json) (status : Status) (physicalResourceId : Str)
    (data : Option (List (Str × Str))) (reason : Option Str) :
    Indistinct worlds (host.respondAsync request status physicalResourceId data reason)
      (Host.respondAsync { host with services := services' } request status physicalResourceId data
        reason) := by
  refine Simulates.bind (indistinct_ofExcept _) ?_
  rintro responseUrl _ rfl
  refine Simulates.bind (indistinct_ofExcept _) ?_
  rintro stackId _ rfl
  refine Simulates.bind (indistinct_ofExcept _) ?_
  rintro requestId _ rfl
  refine Simulates.bind (indistinct_ofExcept _) ?_
  rintro logicalResourceId _ rfl
  have hRespond (response : CustomResourceResponse) : Indistinct worlds
      (host.exchange (.respond responseUrl response))
      (Host.exchange { host with services := services' } (.respond responseUrl response)) :=
    h.exchange rfl
  refine Simulates.bind (hRespond _) ?_
  rintro statusCode _ rfl
  split_ifs
  · exact Simulates.done rfl
  · exact Simulates.throwing _

theorem handleUpsert (request : Json) :
    Indistinct worlds (host.handleUpsert request)
      (Host.handleUpsert { host with services := services' } request) := by
  refine Simulates.bind (indistinct_ofExcept _) ?_
  rintro properties _ rfl
  refine Simulates.bind (h.provisionAsync properties) ?_
  rintro result _ rfl
  exact h.respondAsync _ _ _ _ _

theorem handleRequest (request : Json) (physicalResourceId : Str) :
    Indistinct worlds (host.handleRequest request physicalResourceId)
      (Host.handleRequest { host with services := services' } request physicalResourceId) := by
  apply Simulates.catching
  · refine Simulates.bind (indistinct_ofExcept _) ?_
    rintro requestType _ rfl
    unfold Host.handleType
    split_ifs
    · exact h.respondAsync _ _ _ _ _
    · exact Simulates.throwing _
    · exact h.handleUpsert request
  · intro error
    exact Simulates.bind (indistinct_note _) fun _ _ _ => h.respondAsync _ _ _ _ _

theorem handleAsync (input : Str) :
    Indistinct worlds (host.handleAsync input)
      (Host.handleAsync { host with services := services' } input) := by
  refine Simulates.bind (indistinct_ofExcept _) ?_
  rintro request _ rfl
  refine Simulates.bind (indistinct_ofExcept _) ?_
  rintro physicalResourceId _ rfl
  exact h.handleRequest _ _

end AlikeButKeys

/-- The key of a token is not told. Services that issue and accept other keys, and are
alike otherwise, make an invocation do the same: what it sends to AWS, to the workspace
and to CloudFormation and what it logs differ in no more than the keys that are issued
and those that bear requests of the workspace. -/
theorem Host.keys_not_told {World : Type} {host : Host World}
    {services' : Services Request Reply World Exn} {keys : Str → Str → Prop}
    {worlds : World → World → Prop} (h : AlikeButKeys host.services services' keys worlds)
    (input : Str) {w w' : World} (hWorlds : worlds w w') :
    (host.events input w).map redact =
        (Host.events { host with services := services' } input w').map redact ∧
      worlds (host.after input w) (Host.after { host with services := services' } input w') := by
  obtain ⟨_, _, hAfter, hEvents⟩ := h.handleAsync input 0 ⟨w, []⟩ ⟨w', []⟩ ⟨hWorlds, rfl⟩
  exact ⟨hEvents, hAfter⟩

section Example

/-- Services that issue one key and turn away every other one. -/
def lockedServices (key : Str) : Services Request Reply Unit Exn
  | .createWorkspaceServiceAccountToken .., w => (.ok ⟨['t'], key⟩, w)
  | .send request, w =>
    if request.token = key then (.ok ⟨200, exampleText exampleHealth⟩, w) else (.ok ⟨401, []⟩, w)
  | request, w => exampleServices request w

def lockedHost (key : Str) : Host Unit := { exampleHost with services := lockedServices key }

theorem lockedServices_alike (first second : Str) :
    AlikeButKeys (lockedServices first) (lockedServices second)
      (fun key key' => key = first ∧ key' = second) fun _ _ => True where
  issue := fun _ _ _ _ _ _ _ => ⟨.ok ⟨rfl, rfl, rfl⟩, trivial⟩
  accept := by
    rintro request _ _ w w' ⟨rfl, rfl⟩ _
    simp [lockedServices]
  other := by
    intro request hOther w w' _
    cases request with
    | send _ => cases hOther
    | createWorkspaceServiceAccountToken => cases hOther
    | _ => exact ⟨rfl, trivial⟩

/-- Two keys, and the same is seen of a Create request. -/
theorem keys_not_told_example :
    ((lockedHost ['k']).events (exampleInput "Create".toList) ()).map redact =
      ((lockedHost ['l']).events (exampleInput "Create".toList) ()).map redact := by
  have hAlike : AlikeButKeys (lockedHost ['k']).services (lockedHost ['l']).services _ _ :=
    lockedServices_alike ['k'] ['l']
  exact (Host.keys_not_told hAlike (exampleInput "Create".toList) (trivial : True)).1

end Example

end KiroGrafanaProvisioner
