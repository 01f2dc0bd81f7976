import KestrelRunpod.Interleave.Ensures
import KestrelRunpod.Ollama.World

/-!
# What a task may write

The contract of the lease service's tasks.  A write is made on a lease the task has seen, and
`Warranted` says what it needs to have seen for it: the write that admits a create starts at
`REQUESTED`, a resource id is one the provider reported for this lease, and a lease is
terminated when it has nothing to tear down or its own teardown was confirmed.  A create is
dispatched right after the write that admits it.
-/

namespace KestrelRunpod.Ollama

open Interleave

/-! ## Knowledge -/

/-- The reply shows a stored row. -/
def shows (row : Lease) : Event Effects → Prop
  | ⟨.insertRequest _ _, .ok (found, _)⟩ => found = row
  | ⟨.get _, some found⟩ => found = row
  | ⟨.compareAndSet _ _, .ok updated⟩ => updated = row
  | _ => False

/-- The task has seen `row`. -/
def Shown (h : Past) (row : Lease) : Prop := ∃ e ∈ h, shows row e

/-- The task's call for `leaseId` was answered with `outcome`. -/
def Replied (h : Past) (leaseId : String) (call : Call) (outcome : Except Exn call.Value) :
    Prop :=
  ∃ id : Nat, (⟨.send leaseId call, id⟩ : Event Effects) ∈ h ∧
    (⟨.recv id call, outcome⟩ : Event Effects) ∈ h

/-- The provider reported `id` for the lease: its create was answered with it, or it was found
under the lease's type and name. -/
def Reported (h : Past) (lease : Lease) (id : String) : Prop :=
  (∃ request plan name resource, Replied h lease.leaseId (.provision request plan name)
      (.ok resource) ∧ resource.providerResourceId = id) ∨
    ∃ kind name resource, lease.resourceType = some kind ∧ lease.resourceName = some name ∧
      Replied h lease.leaseId (.findResource kind name) (.ok (some resource)) ∧
      resource.providerResourceId = id

/-- The teardown of exactly this resource was confirmed. -/
def TornDown (h : Past) (leaseId : String) (resource : ProvisionedResource) : Prop :=
  Replied h leaseId (.teardown resource) (.ok ())

/-! ## Writes -/

/-- The write that admits a create. -/
def admissionChanges (texts : Texts) (lease : Lease) (request : LeaseRequest) (plan : PlacementPlan)
    (t : Instant) : Changes :=
  { provisioningChanges texts lease request plan t with state := some .provisioning }

/-- The write touches a column that only an admission sets. -/
def Changes.admits (changes : Changes) : Prop :=
  changes.creationUncertain = some true ∨ changes.state = some .provisioning ∨
    changes.resourceType ≠ none ∨ changes.resourceName ≠ none

/-- Nothing is left of the lease: no create was admitted, or its own resource is torn down. -/
def Ended (h : Past) (lease : Lease) : Prop :=
  lease.state = .requested ∨
    (truthy lease.providerResourceId = false ∧ lease.creationUncertain = false) ∨
    ∃ resource, resourceFromLease lease = .ok resource ∧ TornDown h lease.leaseId resource

/-- What a task has seen that makes a write on `lease` sound. -/
structure Warranted (texts : Texts) (h : Past) (lease : Lease) (changes : Changes) : Prop where
  allowed : ∀ target, changes.state = some target →
    target = lease.state ∨ target ∈ lease.state.allowedTransitions
  admission : changes.admits → lease.state = .requested ∧
    ∃ request plan t, (request : LeaseRequest).leaseId = lease.leaseId ∧
      changes = admissionChanges texts lease request plan t
  record : changes.creationUncertain = some false ∨ changes.providerResourceId ≠ none →
    changes.creationUncertain = some false ∧
      (∃ id, changes.providerResourceId = some id ∧ id ≠ "" ∧ Reported h lease id) ∧
      ((lease.state = .provisioning ∨ lease.state = .reconcileRequired) ∧
          changes.state = some .waitingForModel ∨
        lease.state = .releasing ∧ lease.creationUncertain = true ∧ changes.state = none)
  termination : changes.state = some .terminated → Ended h lease

/-- The last thing the task did was to admit a create for `leaseId`. -/
def JustAdmitted (texts : Texts) (h : Past) (leaseId : String) : Prop :=
  ∃ lease request plan t row earlier, (lease : Lease).leaseId = leaseId ∧
    h = (⟨.compareAndSet lease (admissionChanges texts lease request plan t), .ok row⟩ :
      Event Effects) :: earlier

/-- Which operation a task may perform. -/
def Permits (texts : Texts) (h : Past) : Op → Prop
  | .compareAndSet lease changes => Shown h lease ∧ Warranted texts h lease changes
  | .send leaseId (.provision _ _ name) =>
      JustAdmitted texts h leaseId ∧ name = texts.resourceName leaseId
  | .recv id call => ∃ leaseId, (⟨.send leaseId call, id⟩ : Event Effects) ∈ h
  | _ => True

/-- What a task may assume of a reply: rows come back under the id that was asked for and
as they were written, and the provider never reports an empty resource id. -/
def Promises : Event Effects → Prop
  | ⟨.insertRequest request _, .ok (row, _)⟩ => row.leaseId = request.leaseId
  | ⟨.get leaseId, some row⟩ => row.leaseId = leaseId
  | ⟨.compareAndSet lease changes, .ok row⟩ =>
      row.leaseId = lease.leaseId ∧ (∀ target ∈ changes.state, row.state = target) ∧
        ∀ flag ∈ changes.creationUncertain, row.creationUncertain = flag
  | ⟨.recv _ (.provision _ _ _), .ok resource⟩ =>
      (resource : ProvisionedResource).providerResourceId ≠ ""
  | ⟨.recv _ (.findResource _ _), .ok (some resource)⟩ => resource.providerResourceId ≠ ""
  | _ => True

/-- The contract of the lease service's tasks. -/
def leaseContract (texts : Texts) : Contract Effects := ⟨Permits texts, Promises⟩

end KestrelRunpod.Ollama
