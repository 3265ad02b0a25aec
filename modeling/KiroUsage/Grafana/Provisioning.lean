import KiroUsage.Grafana.Transcripts

/-! What a whole provisioning says and hears, with the service account that it
creates first and removes last. It returns after a complete transcript only, and
whichever step fails, the removal is attempted. -/
namespace KiroGrafanaProvisioner

open Text Execution

variable (workspaceId serviceAccountId : Str) (tokenId : Option Str)
  (properties : ProvisioningProperties)

/-- The permission update reported no errors but those of groups already there. -/
def permissionsSet : Language ProvisioningEvent :=
  {events | ∃ errors, (∀ error ∈ errors.getD [], error.reportsPresent = true) ∧ events =
    [.call (.updatePermissions properties.workspaceId properties.instructions) (.ok errors)]}

/-- The permission update was asked for, with whatever result. -/
def permissionsAsked : Language ProvisioningEvent :=
  {events | ∃ result, events =
    [.call (.updatePermissions properties.workspaceId properties.instructions) result]}

/-- The request for the service account of an invocation. -/
abbrev accountRequest : Request :=
  .createWorkspaceServiceAccount properties.workspaceId serviceAccountName .admin

abbrev tokenDeletion : Request :=
  .deleteWorkspaceServiceAccountToken workspaceId serviceAccountId (tokenId.getD [])

abbrev accountDeletion : Request := .deleteWorkspaceServiceAccount workspaceId serviceAccountId

/-- One line of the log. -/
def logged : Language ProvisioningEvent := {events | ∃ line, events = [.note line]}

/-- The token is gone, or there was none to delete. -/
def tokenDeleted : Language ProvisioningEvent :=
  if isNullOrWhiteSpace tokenId then 1 else heard (tokenDeletion workspaceId serviceAccountId tokenId) ()

/-- There was a token to delete, and its deletion failed. -/
def tokenLeft : Language ProvisioningEvent :=
  if isNullOrWhiteSpace tokenId then 0
  else refused (tokenDeletion workspaceId serviceAccountId tokenId) * logged

def accountDeleted : Language ProvisioningEvent :=
  heard (accountDeletion workspaceId serviceAccountId) ()

/-- The deletion of the account failed. -/
def accountLeft : Language ProvisioningEvent :=
  refused (accountDeletion workspaceId serviceAccountId) * logged

/-- The credentials are gone. -/
def cleaned : Language ProvisioningEvent :=
  tokenDeleted workspaceId serviceAccountId tokenId * accountDeleted workspaceId serviceAccountId

/-- Both deletions were attempted, and one of them failed. -/
def uncleaned : Language ProvisioningEvent :=
  tokenDeleted workspaceId serviceAccountId tokenId * accountLeft workspaceId serviceAccountId +
    tokenLeft workspaceId serviceAccountId tokenId *
      (accountDeleted workspaceId serviceAccountId + accountLeft workspaceId serviceAccountId)

namespace Host

variable {World : Type} (host : Host World)

/-- A provisioning that returns. -/
def complete : Language ProvisioningEvent :=
  ⨆ account : ServiceAccount, ⨆ token : ServiceAccountToken,
    permissionsSet properties * heard (accountRequest properties) account *
    heard (host.tokenRequest properties account.id) token * host.configured token.key properties *
    cleaned properties.workspaceId account.id (some token.id)

/-- What happens after the account is created, if the provisioning throws. -/
def abandoned (account : ServiceAccount) : Language ProvisioningEvent :=
  refused (host.tokenRequest properties account.id) *
      (cleaned properties.workspaceId account.id none +
        uncleaned properties.workspaceId account.id none) +
    ⨆ token : ServiceAccountToken,
      heard (host.tokenRequest properties account.id) token * works *
      (cleaned properties.workspaceId account.id (some token.id) +
        uncleaned properties.workspaceId account.id (some token.id))

/-- A provisioning that throws. -/
def failed : Language ProvisioningEvent :=
  permissionsAsked properties + permissionsSet properties * refused (accountRequest properties) +
    ⨆ account : ServiceAccount, permissionsSet properties *
      heard (accountRequest properties) account * host.abandoned properties account

end Host

section Steps

variable {workspaceId serviceAccountId tokenId properties} {World : Type} {host : Host World}

theorem setWorkspacePermissionsAsync_tells :
    Tells host.answers 1 (host.setWorkspacePermissionsAsync properties)
      (fun _ => permissionsSet properties) (permissionsAsked properties) := by
  refine Tells.bind _ ((Tells.exchange _).weaken (fun _ => le_refl _) ?_) fun errors => ?_
  · rintro _ ⟨error, rfl⟩
    exact ⟨.error error, rfl⟩
  dsimp only
  split_ifs with hUnexpected
  · refine Tells.throwing _ ?_
    rintro _ rfl
    exact ⟨.ok errors, rfl⟩
  · refine Tells.done () ?_
    rintro _ rfl
    refine ⟨errors, fun error hm => ?_, rfl⟩
    by_contra hOther
    refine hUnexpected (List.length_pos_of_mem (List.mem_filter.mpr ⟨hm, ?_⟩))
    simpa using hOther

/-- A deletion whose error is kept. -/
theorem tryDeletion_tells {deletion : Provisioning World Unit} {line : Exn → LogLine}
    {done undone : Language ProvisioningEvent}
    (h : Tells host.answers 1 deletion (fun _ => done) undone) :
    Tells host.answers 1 (Host.tryDeletion deletion line)
      (fun failure => if failure.isNone then done else undone * logged) 0 := by
  refine Tells.catching undone (Tells.bind _ h fun _ => Tells.done none (le_refl _)) fun error => ?_
  refine Tells.bind (fun _ => undone * logged) ?_ fun _ => Tells.done _ (le_refl _)
  have hNote : Tells host.answers 1 (Async.note (line error)) (fun _ => logged) 0 :=
    (Tells.note _).weaken (fun _ _ hm => ⟨_, hm⟩) (le_refl _)
  exact hNote.frame_safe undone

theorem tryDeleteToken_tells :
    Tells host.answers 1 (host.tryDeleteToken workspaceId serviceAccountId tokenId)
      (fun failure => if failure.isNone then tokenDeleted workspaceId serviceAccountId tokenId
        else tokenLeft workspaceId serviceAccountId tokenId) 0 := by
  unfold Host.tryDeleteToken tokenDeleted tokenLeft
  split_ifs with hBlank
  · exact Tells.done none (le_refl _)
  · exact tryDeletion_tells (Tells.exchange (tokenDeletion workspaceId serviceAccountId tokenId))

theorem deleteEphemeralCredentialsAsync_tells :
    Tells host.answers 1
      (host.deleteEphemeralCredentialsAsync workspaceId serviceAccountId tokenId)
      (fun _ => cleaned workspaceId serviceAccountId tokenId)
      (uncleaned workspaceId serviceAccountId tokenId) := by
  have hAccount : Tells host.answers 1
      (host.exchange (accountDeletion workspaceId serviceAccountId))
      (fun _ => accountDeleted workspaceId serviceAccountId)
      (refused (accountDeletion workspaceId serviceAccountId)) := Tells.exchange _
  refine Tells.bind _ (tryDeleteToken_tells.weaken (fun _ => le_refl _) nofun) fun tokenFailure => ?_
  refine Tells.bind _ ((tryDeletion_tells hAccount).frame_safe _) fun accountFailure => ?_
  unfold uncleaned
  cases tokenFailure with
  | none =>
      cases accountFailure with
      | none => exact Tells.done () (le_refl _)
      | some error => exact Tells.throwing _ le_self_add
  | some error =>
      cases accountFailure with
      | none => exact Tells.throwing _ (le_trans (mul_le_mul' (le_refl _) le_self_add) le_add_self)
      | some error' => exact Tells.throwing _ (le_trans (mul_le_mul' (le_refl _) le_add_self) le_add_self)

theorem abandoned_le_failed (account : ServiceAccount) :
    permissionsSet properties * heard (accountRequest properties) account *
      host.abandoned properties account ≤ host.failed properties :=
  le_trans (le_iSup (fun account => permissionsSet properties *
    heard (accountRequest properties) account * host.abandoned properties account) account) le_add_self

/-- A provisioning that created its account, but got no token. -/
theorem refused_le_failed (account : ServiceAccount) {ending : Language ProvisioningEvent}
    (h : ending ≤ cleaned properties.workspaceId account.id none +
      uncleaned properties.workspaceId account.id none) :
    permissionsSet properties * heard (accountRequest properties) account *
      refused (host.tokenRequest properties account.id) * ending ≤ host.failed properties := by
  refine le_trans ?_ (abandoned_le_failed account)
  rw [mul_assoc]
  exact mul_le_mul' (le_refl _) (le_trans (mul_le_mul' (le_refl _) h) le_self_add)

/-- A provisioning that failed at some step of its work, or in its clean-up. -/
theorem broken_le_failed (account : ServiceAccount) (token : ServiceAccountToken)
    {work ending : Language ProvisioningEvent} (hWork : work ≤ works)
    (h : ending ≤ cleaned properties.workspaceId account.id (some token.id) +
      uncleaned properties.workspaceId account.id (some token.id)) :
    permissionsSet properties * heard (accountRequest properties) account *
      heard (host.tokenRequest properties account.id) token * work * ending ≤
        host.failed properties := by
  have hAbandoned : heard (host.tokenRequest properties account.id) token * work * ending ≤
      host.abandoned properties account :=
    le_trans (mul_le_mul' (mul_le_mul' (le_refl _) hWork) h) (le_trans (le_iSup (fun token =>
      heard (host.tokenRequest properties account.id) token * works *
        (cleaned properties.workspaceId account.id (some token.id) +
          uncleaned properties.workspaceId account.id (some token.id))) token) le_add_self)
  refine le_trans (le_of_eq ?_) (le_trans (mul_le_mul' (le_refl _) hAbandoned)
    (abandoned_le_failed account))
  simp only [mul_assoc]

/-- What a provisioning tells. -/
theorem provisionAsync_tells :
    Tells host.answers 1 (host.provisionAsync properties) (fun _ => host.complete properties)
      (host.failed properties) := by
  unfold Host.provisionAsync
  refine Tells.bind _ (setWorkspacePermissionsAsync_tells.weaken (fun _ => le_refl _)
    (le_trans le_self_add le_self_add)) fun _ => ?_
  refine Tells.bind _ (((Tells.exchange (accountRequest properties)).frame _).weaken
    (fun _ => le_refl _) (le_trans le_add_self le_self_add)) fun account => ?_
  refine Tells.finallyWith ((Tells.exchange (host.tokenRequest properties account.id)).frame _)
    (fun token => (configureAsync_tells token.key properties host).frame _) ?_ ?_ ?_
  · exact (deleteEphemeralCredentialsAsync_tells.frame _).weaken
      (fun _ => refused_le_failed account le_self_add) (refused_le_failed account le_add_self)
  · intro token result
    refine (deleteEphemeralCredentialsAsync_tells.frame _).weaken (fun _ => ?_)
      (broken_le_failed account token (configured_le_works token.key properties host) le_add_self)
    exact le_iSup_of_le account (le_iSup_of_le token (le_refl _))
  · intro token
    exact (deleteEphemeralCredentialsAsync_tells.frame _).weaken
      (fun _ => broken_le_failed account token (le_refl _) le_self_add)
      (broken_le_failed account token (le_refl _) le_add_self)

end Steps

end KiroGrafanaProvisioner
