import KiroUsage.Grafana.Completeness

/-! The service accounts that a provider leaves behind over the life of its
resource. A Delete request removes none, so each invocation has to leave none. -/
namespace KiroGrafanaProvisioner

open Text Execution
open KiroIngest (Json)

/-- The service accounts, each with its workspace: those that exist, and those that
the provider has ever created. -/
structure Accounts where
  existing : Set (Str × Str)
  created : Set (Str × Str)

namespace Accounts

def create (accounts : Accounts) (account : Str × Str) : Accounts :=
  ⟨insert account accounts.existing, insert account accounts.created⟩

def delete (accounts : Accounts) (account : Str × Str) : Accounts :=
  { accounts with existing := accounts.existing \ {account} }

/-- Nothing that the provider created exists. -/
def Clean (accounts : Accounts) : Prop := ∀ account ∈ accounts.created, account ∉ accounts.existing

/-- One state of the accounts and a later one. None is left of those that were
created in between. -/
structure LeavesNone (before after : Accounts) : Prop where
  existing : after.existing ⊆ before.existing
  created : ∀ account ∈ after.created, account ∈ before.created ∨ account ∉ after.existing

theorem LeavesNone.refl (accounts : Accounts) : LeavesNone accounts accounts :=
  ⟨subset_refl _, fun _ hCreated => Or.inl hCreated⟩

theorem LeavesNone.clean {before after : Accounts} (h : LeavesNone before after)
    (hClean : before.Clean) : after.Clean := by
  intro account hCreated
  rcases h.created account hCreated with hBefore | hGone
  · exact fun hExists => hClean account hBefore (h.existing hExists)
  · exact hGone

/-- An account that is created and does not exist in the end. -/
theorem leavesNone_of_create {before after : Accounts} {account : Str × Str}
    (hAfter : after = before.create account ∨ after = (before.create account).delete account)
    (hGone : account ∉ after.existing) : LeavesNone before after := by
  rcases hAfter with rfl | rfl
  · exact (hGone (Set.mem_insert _ _)).elim
  · refine ⟨fun other hOther => hOther.1.resolve_left hOther.2, fun other hCreated => ?_⟩
    rcases hCreated with rfl | hCreated
    · exact Or.inr hGone
    · exact Or.inl hCreated

end Accounts

def ChangesAccounts : Request → Prop
  | .createWorkspaceServiceAccount .. | .deleteWorkspaceServiceAccount .. => True
  | _ => False

/-- What Managed Grafana does with the accounts. A call that fails may or may not
have taken effect. -/
structure Registers {World : Type} (host : Host World) (view : World → Accounts) : Prop where
  created : ∀ {workspaceId name role w account next},
    host.services (.createWorkspaceServiceAccount workspaceId name role) w = (.ok account, next) →
    view next = (view w).create (workspaceId, account.id)
  notCreated : ∀ {workspaceId name role w error next},
    host.services (.createWorkspaceServiceAccount workspaceId name role) w = (.error error, next) →
    view next = view w ∨ ∃ id, view next = (view w).create (workspaceId, id)
  deleted : ∀ {workspaceId id w reply next},
    host.services (.deleteWorkspaceServiceAccount workspaceId id) w = (.ok reply, next) →
    view next = (view w).delete (workspaceId, id)
  notDeleted : ∀ {workspaceId id w error next},
    host.services (.deleteWorkspaceServiceAccount workspaceId id) w = (.error error, next) →
    view next = view w ∨ view next = (view w).delete (workspaceId, id)
  untouched : ∀ {request w result next}, ¬ChangesAccounts request →
    host.services request w = (result, next) → view next = view w

/-- A failed creation has had no effect, and after a failed deletion the account is
gone. -/
def Definite {World : Type} (view : World → Accounts) :
    (request : Request) → Except Exn (Reply request) → World → World → Prop
  | .createWorkspaceServiceAccount .., .error _, w, next => view next = view w
  | .deleteWorkspaceServiceAccount workspaceId id, .error _, _, next =>
    (workspaceId, id) ∉ (view next).existing
  | _, _, _, _ => True

section Steps

variable {World : Type} {host : Host World} {view : World → Accounts} {w after : World}
  {properties : ProvisioningProperties}
  {workspaceId serviceAccountId : Str} {tokenId : Option Str}

variable (hRegisters : Registers host view)

include hRegisters

theorem Registers.preserves {request : Request} (h : ¬ChangesAccounts request)
    (result : Except Exn (Reply request)) :
    Preserves host.answers view (.call request result : ProvisioningEvent) :=
  host.preserves_of_services (hRegisters.untouched h) result

theorem IsWork.preserves {event : ProvisioningEvent} (h : IsWork event) :
    Preserves host.answers view event := by
  cases event with
  | note line => trivial
  | call request result =>
      refine hRegisters.preserves (fun hChanges => ?_) result
      cases request with
      | createWorkspaceServiceAccount => exact h
      | deleteWorkspaceServiceAccount => exact h
      | _ => exact hChanges

/-- After a clean-up the account is gone. -/
theorem leads_cleanup (h : Leads host.answers (Definite view)
      (cleaned workspaceId serviceAccountId tokenId + uncleaned workspaceId serviceAccountId tokenId)
      w after) :
    (view after = view w ∨ view after = (view w).delete (workspaceId, serviceAccountId)) ∧
      (workspaceId, serviceAccountId) ∉ (view after).existing := by
  rw [cleanup_eq_mul] at h
  obtain ⟨middle, hToken, hAccount⟩ := h.mul
  have hSame : view middle = view w :=
    hToken.preserves (tokenCleanup_le_only (fun _ => hRegisters.preserves id _) fun _ => trivial)
  rw [← hSame]
  rcases hAccount.add with hDeleted | hLeft
  · have hGone := hRegisters.deleted (Leads.call hDeleted).1
    exact ⟨Or.inr hGone, hGone ▸ fun hExists => hExists.2 rfl⟩
  · obtain ⟨last, hRefused, hLogged⟩ := hLeft.mul
    obtain ⟨error, hCall, hGone⟩ := hRefused.refused
    have hEnd : view after = view last := hLogged.preserves (logged_le_only fun _ => trivial)
    rw [hEnd]
    exact ⟨hRegisters.notDeleted hCall, hGone⟩

theorem leads_abandoned {account : ServiceAccount}
    (h : Leads host.answers (Definite view) (host.abandoned properties account) w after) :
    (view after = view w ∨ view after = (view w).delete (properties.workspaceId, account.id)) ∧
      (properties.workspaceId, account.id) ∉ (view after).existing := by
  rcases h.add with h | h
  · obtain ⟨middle, hRefused, hCleanup⟩ := h.mul
    have hSame : view middle = view w :=
      hRefused.preserves (refused_le_only _ fun _ => hRegisters.preserves id _)
    rw [← hSame]
    exact leads_cleanup hRegisters hCleanup
  · obtain ⟨token, h⟩ := h.iSup
    obtain ⟨middle, hWork, hCleanup⟩ := h.mul
    have hSame : view middle = view w :=
      hWork.preserves (mul_le_only (heard_le_only _ _ (hRegisters.preserves id _))
        (only_mono fun _ h => h.preserves hRegisters))
    rw [← hSame]
    exact leads_cleanup hRegisters hCleanup

/-- A provisioning, failed or not, leaves no account behind. -/
theorem leads_failed
    (h : Leads host.answers (Definite view) (host.failed properties) w after) :
    (view w).LeavesNone (view after) := by
  have hAsked : permissionsAsked properties ≤ only (Preserves host.answers view) :=
    permissionsAsked_le_only fun _ _ => hRegisters.preserves id _
  have hSet := permissionsSet_le_asked.trans hAsked
  rcases h.add with h | h
  · have hSame : view after = view w := by
      rcases h.add with h | h
      · exact h.preserves hAsked
      · obtain ⟨middle, hPermissions, hRefused⟩ := h.mul
        obtain ⟨error, _, hDefinite⟩ := hRefused.refused
        exact Eq.trans hDefinite (hPermissions.preserves hSet)
    rw [hSame]
    exact .refl _
  · obtain ⟨account, h⟩ := h.iSup
    obtain ⟨created, h, hAbandoned⟩ := h.mul
    obtain ⟨granted, hPermissions, hAccount⟩ := h.mul
    have hGranted : view granted = view w := hPermissions.preserves hSet
    have hCreated := hRegisters.created (Leads.call hAccount).1
    obtain ⟨hAfter, hGone⟩ := leads_abandoned hRegisters hAbandoned
    rw [hCreated, hGranted] at hAfter
    exact Accounts.leavesNone_of_create hAfter hGone

/-- What is said before, between and after the provisioning does not matter. -/
theorem leads_upserted {request : Json}
    (h : Leads host.answers (Definite view) (host.upserted request) w after) :
    (view w).LeavesNone (view after) := by
  have hAnswers {language : Language ProvisioningEvent} (hLe : language ≤ only IsAnswer) :
      language ≤ only (Preserves host.answers view) :=
    hLe.trans (only_mono fun _ hAnswer => hAnswer.preserves view)
  have hResponded : 1 + responded .success ≤ only IsAnswer :=
    add_le one_le_only (responded_le_only .success fun _ _ _ => trivial)
  have hProvisioned {properties : ProvisioningProperties} {ending : Language ProvisioningEvent}
      {w after : World} (hEnding : ending ≤ only IsAnswer)
      (h : Leads host.answers (Definite view) (host.failed properties * ending) w after) :
      (view w).LeavesNone (view after) := by
    obtain ⟨middle, hFailed, hEnd⟩ := h.mul
    rw [hEnd.preserves (hAnswers hEnding)]
    exact leads_failed hRegisters hFailed
  have hBroken {after : World} (h : Leads host.answers (Definite view) (host.broken request) w after) :
      (view w).LeavesNone (view after) := by
    obtain ⟨events, rfl | ⟨properties, _, hm | hm⟩, hChain⟩ := h
    · rw [(Leads.one ⟨[], rfl, hChain⟩ : after = w)]
      exact .refl _
    · exact leads_failed hRegisters ⟨events, hm, hChain⟩
    · exact hProvisioned hResponded ⟨events, mul_le_mul' complete_le_failed (le_refl _) hm, hChain⟩
  rcases h.add with ⟨events, ⟨properties, _, hm⟩, hChain⟩ | h
  · exact hProvisioned (responded_le_only .success fun _ _ _ => trivial)
      ⟨events, mul_le_mul' complete_le_failed (le_refl _) hm, hChain⟩
  · obtain ⟨middle, hFirst, hReported⟩ := h.mul
    rw [hReported.preserves (hAnswers reported_le_answers)]
    exact hBroken hFirst

end Steps

/-- The failures of the account calls of an invocation are definite. -/
def Host.Settled {World : Type} (host : Host World) (view : World → Accounts) (input : Str)
    (w : World) : Prop :=
  Each host.answers (Definite view) w (host.events input w)

section Lifecycle

variable {World : Type} {view : World → Accounts}

/-- An invocation for any request but a Create or Update changes nothing. -/
theorem after_of_other {host : Host World} {input : Str} (w : World)
    (hOther : ∀ request, host.parse input = .ok request → ¬Upserts request) :
    host.after input w = w := by
  obtain ⟨hAnswers, hChain⟩ := events_answers w hOther
  exact hChain.preserves id fun request result hm => (hAnswers _ hm).preserves id

/-- One invocation, whatever it is for and however it fails. -/
theorem after_leavesNone {host : Host World} {input : Str} {w : World}
    (hRegisters : Registers host view) (hSettled : host.Settled view input w) :
    (view w).LeavesNone (view (host.after input w)) := by
  by_cases hUpserts : ∃ request, host.parse input = .ok request ∧ Upserts request
  · obtain ⟨request, hParse, hType⟩ := hUpserts
    obtain ⟨hm, hChain⟩ := events_upserted w hParse hType
    exact leads_upserted hRegisters ⟨_, hm, hChain, hSettled⟩
  · rw [after_of_other w fun request hParse hType => hUpserts ⟨request, hParse, hType⟩]
    exact .refl _

variable (view)

/-- The states between the invocations of a provider, each of which has a host of its
own, if their failures are definite. At the start it has created nothing. -/
inductive Lifecycle : World → Prop
  | start {w : World} (hStart : (view w).created = ∅) : Lifecycle w
  | next {w : World} (hRun : Lifecycle w) (host : Host World) (input : Str)
      (hRegisters : Registers host view) (hSettled : host.Settled view input w) :
      Lifecycle (host.after input w)

variable {view}

/-- No account survives an invocation. -/
theorem Lifecycle.clean {w : World} (hRun : Lifecycle view w) : (view w).Clean := by
  induction hRun with
  | start hStart =>
      intro account hCreated
      rw [hStart] at hCreated
      exact hCreated.elim
  | next _ host input hRegisters hSettled ih => exact (after_leavesNone hRegisters hSettled).clean ih

/-- Whenever a Delete request is answered with SUCCESS, no account that an earlier
invocation created exists. -/
theorem Lifecycle.delete_leaves_none {w : World} (hRun : Lifecycle view w) (host : Host World)
    {input : Str} {request : Json} (hParse : host.parse input = .ok request)
    (hDelete : requiredString request "RequestType".toList = .ok "Delete".toList) :
    Answered .success (host.events input w) →
      ∀ account ∈ (view w).created, account ∉ (view (host.after input w)).existing := by
  intro _ account hCreated
  have hSame : host.after input w = w := by
    refine after_of_other w fun other hOther hType => ?_
    cases hParse.symm.trans hOther
    rcases hType with hType | hType
    · exact absurd (Except.ok.inj (hDelete.symm.trans hType)) (by decide)
    · exact absurd (Except.ok.inj (hDelete.symm.trans hType)) (by decide)
  rw [hSame]
  exact hRun.clean account hCreated

end Lifecycle

section Example

/-- The accounts as lists. -/
structure AccountTable where
  existing : List (Str × Str)
  created : List (Str × Str)
deriving DecidableEq

def AccountTable.accounts (table : AccountTable) : Accounts :=
  ⟨{account | account ∈ table.existing}, {account | account ∈ table.created}⟩

/-- Services that never fail, unless the reply to the creation of an account is lost. -/
def accountServices (lost : Bool) : Services Request Reply AccountTable Exn
  | .updatePermissions .., table => (.ok none, table)
  | .createWorkspaceServiceAccount workspaceId _ _, table =>
    (if lost then .error ⟨"HttpRequestException".toList, []⟩ else .ok ⟨['a']⟩,
      ⟨(workspaceId, ['a']) :: table.existing, (workspaceId, ['a']) :: table.created⟩)
  | .createWorkspaceServiceAccountToken .., table => (.ok ⟨['t'], ['k']⟩, table)
  | .deleteWorkspaceServiceAccountToken .., table => (.ok (), table)
  | .deleteWorkspaceServiceAccount workspaceId id, table =>
    (.ok (), { table with existing := table.existing.filter (· ≠ (workspaceId, id)) })
  | .send _, table => (.ok ⟨200, exampleText exampleHealth⟩, table)
  | .getObject _ key, table => (.ok (exampleText (exampleDashboard key)), table)
  | .respond .., table => (.ok 200, table)
  | .elapsed, table => (.ok 0, table)
  | .delay _, table => (.ok (), table)

def accountHost (lost : Bool) : Host AccountTable where
  awsRequestId := ['x']
  registrationDelays := 24
  parse := exampleParse
  services := accountServices lost
  deliver := fun _ _ => ⟨true, .ok 200⟩

theorem accounts_create (table : AccountTable) (account : Str × Str) :
    AccountTable.accounts ⟨account :: table.existing, account :: table.created⟩ =
      table.accounts.create account := by
  have hInsert (accounts : List (Str × Str)) :
      {other | other ∈ account :: accounts} = insert account {other | other ∈ accounts} :=
    Set.ext fun _ => List.mem_cons
  exact congrArg₂ Accounts.mk (hInsert _) (hInsert _)

theorem accounts_delete (table : AccountTable) (account : Str × Str) :
    AccountTable.accounts { table with existing := table.existing.filter (· ≠ account) } =
      table.accounts.delete account := by
  refine congrArg₂ Accounts.mk (Set.ext fun other => ?_) rfl
  simp [AccountTable.accounts]

theorem accountHost_registers (lost : Bool) :
    Registers (accountHost lost) AccountTable.accounts where
  created := by
    rintro workspaceId name role table account next h
    cases lost with
    | true => cases h
    | false =>
        cases h
        exact accounts_create table _
  notCreated := by
    rintro workspaceId name role table error next h
    cases lost with
    | true =>
        cases h
        exact Or.inr ⟨['a'], accounts_create table _⟩
    | false => cases h
  deleted := by
    rintro workspaceId id table reply next h
    cases h
    exact accounts_delete table _
  notDeleted := by
    rintro workspaceId id table error next h
    cases h
  untouched := by
    rintro request table result next hOther h
    cases request with
    | createWorkspaceServiceAccount => exact (hOther trivial).elim
    | deleteWorkspaceServiceAccount => exact (hOther trivial).elim
    | _ =>
        cases h
        rfl

def isOk : ProvisioningEvent → Bool
  | .call _ (.error _) => false
  | _ => true

/-- Where nothing fails, every failure is definite. -/
theorem settled_of_all {World : Type} {host : Host World} {view : World → Accounts} {input : Str}
    {w : World} (h : (host.events input w).all isOk = true) : host.Settled view input w := by
  refine each_of_mem fun request result hm _ _ => ?_
  have hOk := List.all_eq_true.mp h _ hm
  cases result with
  | error error => cases hOk
  | ok reply =>
      cases request with
      | _ => trivial

theorem Lifecycle.next_of_all {World : Type} {host : Host World} {view : World → Accounts}
    {input : Str} {w : World} (hRun : Lifecycle view w) (hRegisters : Registers host view)
    (h : (host.events input w).all isOk = true) : Lifecycle view (host.after input w) :=
  hRun.next host input hRegisters (settled_of_all h)

set_option maxRecDepth 20000 in
/-- The creation of an account takes effect, but its reply is lost. The account is
still there when a Delete request is answered with SUCCESS. -/
theorem lost_account_survives :
    let w := (accountHost true).after (exampleInput "Create".toList) ⟨[], []⟩
    Registers (accountHost true) AccountTable.accounts ∧
    Registers (accountHost false) AccountTable.accounts ∧
    (accountHost true).parse (exampleInput "Create".toList) = .ok (exampleRequest "Create".toList) ∧
    (accountHost false).parse (exampleInput "Delete".toList) = .ok (exampleRequest "Delete".toList) ∧
    requiredString (exampleRequest "Delete".toList) "RequestType".toList = .ok "Delete".toList ∧
    Answered .success ((accountHost false).events (exampleInput "Delete".toList) w) ∧
    (['w'], ['a']) ∈ w.accounts.created ∧
    (['w'], ['a']) ∈ ((accountHost false).after (exampleInput "Delete".toList) w).accounts.existing := by
  intro w
  have hLost : w = ⟨[(['w'], ['a'])], [(['w'], ['a'])]⟩ := by decide
  have hDeleted : (accountHost false).after (exampleInput "Delete".toList)
      ⟨[(['w'], ['a'])], [(['w'], ['a'])]⟩ = ⟨[(['w'], ['a'])], [(['w'], ['a'])]⟩ := by decide
  rw [hLost, hDeleted]
  exact ⟨accountHost_registers _, accountHost_registers _, exampleParse_create, exampleParse_delete,
    rfl, answered_of_any (by decide), List.mem_singleton_self _, List.mem_singleton_self _⟩

set_option maxRecDepth 20000 in
/-- A Create request during which nothing fails, and a Delete request. -/
theorem delete_leaves_none_example :
    let w := (accountHost false).after (exampleInput "Create".toList) ⟨[], []⟩
    ∀ account ∈ w.accounts.created,
      account ∉ ((accountHost false).after (exampleInput "Delete".toList) w).accounts.existing := by
  intro w
  have hStart : Lifecycle AccountTable.accounts ⟨[], []⟩ :=
    .start (Set.eq_empty_of_forall_notMem fun _ => List.not_mem_nil)
  have hCreated : Lifecycle AccountTable.accounts w :=
    hStart.next_of_all (accountHost_registers false) (by decide)
  exact hCreated.delete_leaves_none (accountHost false) exampleParse_delete rfl
    (answered_of_any (by decide))

end Example

end KiroGrafanaProvisioner
