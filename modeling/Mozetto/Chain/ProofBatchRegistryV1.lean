import Mozetto.Chain.Basic
import Mozetto.Library.TransitionSystem
import Mathlib.Tactic.Common

/-!
# ProofBatchRegistryV1

The publisher registers proof batches under consecutive sequence numbers, each
naming the root of its predecessor; the owner replaces the publisher behind a
timelock.  What is registered forms a list that only grows at its end.
-/

namespace Mozetto.Chain

open Mozetto.Library.Guarded
open Mozetto.Library.Mapping
open Mozetto.Library.TransitionSystem

/-! ## Storage -/

/-- The reasons for which a call of the registry reverts. -/
inductive ProofBatchRevert where
  | ownable (reason : Revert)
  | unauthorized
  | zeroAddress
  | invalidSequence (expected got : Nat)
  | continuityBroken (expected got : Bytes32)
  | duplicateGlobalRoot (globalRoot : Bytes32)
  | zeroGlobalRoot
  | noPendingOperation
  | timelockNotReady (eta : Nat)
  | operationPending
  | panicArithmetic
deriving DecidableEq, Repr

/-- One proof batch. -/
structure ProofBatch where
  sequence : Nat
  previousBatchRoot : Bytes32
  globalRoot : Bytes32
  dataManifestHash : Bytes32
  createdAt : Nat
deriving DecidableEq, Repr

/-- An entry that was never written. -/
def ProofBatch.unset : ProofBatch := ⟨0, 0, 0, 0, 0⟩

structure PendingPublisher where
  newPublisher : Address
  eta : Nat
deriving DecidableEq, Repr

/-- The storage of the registry. -/
structure ProofBatchRegistryV1 where
  owner : Address
  publisher : Address
  minDelay : Nat
  nextSequence : Nat
  hasBatches : Bool
  batches : Nat → ProofBatch
  proofBatchHashes : Nat → Bytes32
  usedGlobalRoots : Bytes32 → Bool
  pendingPublisher : PendingPublisher

namespace ProofBatchRegistryV1

/-- The storage after the constructor has run. -/
def constructed (owner publisher : Address) (minDelay : Nat) : ProofBatchRegistryV1 where
  owner := owner
  publisher := publisher
  minDelay := minDelay
  nextSequence := 0
  hasBatches := false
  batches := fun _ => .unset
  proofBatchHashes := fun _ => 0
  usedGlobalRoots := fun _ => false
  pendingPublisher := ⟨0, 0⟩

/-! ## Governance -/

def setMinDelay (msg : Msg) (registry : ProofBatchRegistryV1) (newDelay : Nat) :
    Except ProofBatchRevert ProofBatchRegistryV1 := do
  (onlyOwner msg registry.owner).mapError .ownable
  return { registry with minDelay := newDelay }

def schedulePublisherUpdate (msg : Msg) (registry : ProofBatchRegistryV1) (newPublisher : Address) :
    Except ProofBatchRevert ProofBatchRegistryV1 := do
  (onlyOwner msg registry.owner).mapError .ownable
  revertIf (newPublisher = 0) .zeroAddress
  revertIf (registry.pendingPublisher.eta ≠ 0) .operationPending
  let eta := msg.timestamp + registry.minDelay
  revertIf (uint64Size ≤ eta) .panicArithmetic
  return { registry with pendingPublisher := ⟨newPublisher, eta⟩ }

def executePublisherUpdate (msg : Msg) (registry : ProofBatchRegistryV1) :
    Except ProofBatchRevert ProofBatchRegistryV1 := do
  (onlyOwner msg registry.owner).mapError .ownable
  let pending := registry.pendingPublisher
  revertIf (pending.eta = 0) .noPendingOperation
  revertIf (msg.timestamp < pending.eta) (.timelockNotReady pending.eta)
  return { registry with
    publisher := pending.newPublisher
    pendingPublisher := ⟨0, 0⟩ }

def cancelPublisherUpdate (msg : Msg) (registry : ProofBatchRegistryV1) :
    Except ProofBatchRevert ProofBatchRegistryV1 := do
  (onlyOwner msg registry.owner).mapError .ownable
  revertIf (registry.pendingPublisher.eta = 0) .noPendingOperation
  return { registry with pendingPublisher := ⟨0, 0⟩ }

def changeOwner (msg : Msg) (registry : ProofBatchRegistryV1) (call : OwnableCall) :
    Except ProofBatchRevert ProofBatchRegistryV1 := do
  let owner ← (call.newOwner msg registry.owner).mapError .ownable
  return { registry with owner := owner }

/-! ## Registration -/

variable (keccak256 : Bytes → Bytes32)

def computeProofBatchHash (batch : ProofBatch) : Bytes32 :=
  keccak256 (abiEncode
      [keccak256 (utf8 "MOZETTO_PROOF_BATCH_V1"), batch.sequence,
        batch.previousBatchRoot, batch.globalRoot, batch.dataManifestHash, batch.createdAt])

/-- The root a batch has to name as its predecessor's. -/
def expectedPreviousRoot (registry : ProofBatchRegistryV1) (sequence : Nat) : Bytes32 :=
  if sequence = 0 then 0
  else (registry.batches (sequence - 1)).globalRoot

def registerBatch (msg : Msg) (registry : ProofBatchRegistryV1) (batch : ProofBatch) :
    Except ProofBatchRevert ProofBatchRegistryV1 := do
  revertIf (msg.sender ≠ registry.publisher) .unauthorized
  revertIf (batch.sequence ≠ registry.nextSequence)
    (.invalidSequence registry.nextSequence batch.sequence)
  revertIf (batch.globalRoot = 0) .zeroGlobalRoot
  revertIf (registry.usedGlobalRoots batch.globalRoot = true)
    (.duplicateGlobalRoot batch.globalRoot)
  let expectedPrev := registry.expectedPreviousRoot batch.sequence
  revertIf (batch.previousBatchRoot ≠ expectedPrev)
    (.continuityBroken expectedPrev batch.previousBatchRoot)
  revertIf (uint64Size ≤ batch.sequence + 1) .panicArithmetic
  return { registry with
    batches := write registry.batches batch.sequence batch
    proofBatchHashes :=
      write registry.proofBatchHashes batch.sequence (computeProofBatchHash keccak256 batch)
    usedGlobalRoots := write registry.usedGlobalRoots batch.globalRoot true
    nextSequence := batch.sequence + 1
    hasBatches := true }

/-! ## Views -/

def isSequenceAccepted (registry : ProofBatchRegistryV1) (sequence : Nat) : Bool :=
  registry.proofBatchHashes sequence ≠ 0

def latestSequence (registry : ProofBatchRegistryV1) :
    Except ProofBatchRevert Nat := do
  revertIf (registry.hasBatches = false) (.invalidSequence 0 (uint64Size - 1))
  revertIf (registry.nextSequence = 0) .panicArithmetic
  return registry.nextSequence - 1

/-! ## Runs of the registry -/

/-- The calls of the registry. -/
inductive Call where
  | setMinDelay (newDelay : Nat)
  | schedulePublisherUpdate (newPublisher : Address)
  | executePublisherUpdate
  | cancelPublisherUpdate
  | ownable (call : OwnableCall)
  | registerBatch (batch : ProofBatch)

def step (registry : ProofBatchRegistryV1) (call : Msg × Call) :
    Except ProofBatchRevert ProofBatchRegistryV1 :=
  match call.2 with
  | .setMinDelay newDelay => registry.setMinDelay call.1 newDelay
  | .schedulePublisherUpdate newPublisher =>
      registry.schedulePublisherUpdate call.1 newPublisher
  | .executePublisherUpdate => registry.executePublisherUpdate call.1
  | .cancelPublisherUpdate => registry.cancelPublisherUpdate call.1
  | .ownable ownableCall => registry.changeOwner call.1 ownableCall
  | .registerBatch batch => registerBatch keccak256 call.1 registry batch

def system : System ProofBatchRegistryV1 (Msg × Call) ProofBatchRevert where
  initial := fun registry =>
    ∃ owner publisher minDelay, owner ≠ 0 ∧ publisher ≠ 0 ∧
      registry = constructed owner publisher minDelay
  step := step keccak256

/-! ## The list of batches -/

/-- The part of the storage that governance leaves alone. -/
structure SameBatches (before after : ProofBatchRegistryV1) : Prop where
  nextSequence : after.nextSequence = before.nextSequence
  hasBatches : after.hasBatches = before.hasBatches
  batches : after.batches = before.batches
  proofBatchHashes : after.proofBatchHashes = before.proofBatchHashes
  usedGlobalRoots : after.usedGlobalRoots = before.usedGlobalRoots

/-- A batch is put at the end of the list. -/
structure Appends (before after : ProofBatchRegistryV1) (batch : ProofBatch) : Prop where
  sequence : batch.sequence = before.nextSequence
  nonzero : batch.globalRoot ≠ 0
  unused : before.usedGlobalRoots batch.globalRoot = false
  previous : batch.previousBatchRoot = before.expectedPreviousRoot before.nextSequence
  nextSequence : after.nextSequence = before.nextSequence + 1
  hasBatches : after.hasBatches = true
  batches : after.batches = write before.batches before.nextSequence batch
  proofBatchHashes : after.proofBatchHashes = write before.proofBatchHashes before.nextSequence
        (computeProofBatchHash keccak256 batch)
  usedGlobalRoots : after.usedGlobalRoots = write before.usedGlobalRoots batch.globalRoot true

variable {keccak256} {before after registry later : ProofBatchRegistryV1}

theorem registerBatch_appends {msg : Msg} {batch : ProofBatch}
    (accepted : registerBatch keccak256 msg before batch = .ok after) :
    Appends keccak256 before after batch := by
  simp only [registerBatch, revertIf_bind_eq_ok_iff, pure_eq_ok_iff, ne_eq,
    not_not, Bool.not_eq_true] at accepted
  rcases accepted with ⟨-, sequence, nonzero, unused, previous, -, rfl⟩
  rw [sequence] at previous ⊢
  exact ⟨sequence, nonzero, unused, previous, rfl, rfl, rfl, rfl, rfl⟩

/-- A call leaves the list alone or appends one batch to it. -/
theorem step_cases {call : Msg × Call} (accepted : step keccak256 before call = .ok after) :
    SameBatches before after ∨ ∃ batch, Appends keccak256 before after batch := by
  rcases call with ⟨msg, call⟩
  cases call with
  | setMinDelay newDelay =>
    simp only [step, setMinDelay, bind_eq_ok_iff, pure_eq_ok_iff] at accepted
    rcases accepted with ⟨-, -, rfl⟩
    exact .inl ⟨rfl, rfl, rfl, rfl, rfl⟩
  | schedulePublisherUpdate newPublisher =>
    simp only [step, schedulePublisherUpdate, bind_eq_ok_iff,
      revertIf_eq_ok_iff, exists_const, pure_eq_ok_iff] at accepted
    rcases accepted with ⟨-, -, -, -, -, rfl⟩
    exact .inl ⟨rfl, rfl, rfl, rfl, rfl⟩
  | executePublisherUpdate =>
    simp only [step, executePublisherUpdate, bind_eq_ok_iff,
      revertIf_eq_ok_iff, exists_const, pure_eq_ok_iff] at accepted
    rcases accepted with ⟨-, -, -, -, rfl⟩
    exact .inl ⟨rfl, rfl, rfl, rfl, rfl⟩
  | cancelPublisherUpdate =>
    simp only [step, cancelPublisherUpdate, bind_eq_ok_iff,
      revertIf_eq_ok_iff, exists_const, pure_eq_ok_iff] at accepted
    rcases accepted with ⟨-, -, -, rfl⟩
    exact .inl ⟨rfl, rfl, rfl, rfl, rfl⟩
  | ownable ownableCall =>
    simp only [step, changeOwner, bind_eq_ok_iff, pure_eq_ok_iff] at accepted
    rcases accepted with ⟨-, -, rfl⟩
    exact .inl ⟨rfl, rfl, rfl, rfl, rfl⟩
  | registerBatch batch =>
    exact .inr ⟨batch, registerBatch_appends accepted⟩

variable (keccak256) in
/-- The stored batches are linked, distinct and hashed. -/
structure Linked (registry : ProofBatchRegistryV1) : Prop where
  sequence : ∀ k < registry.nextSequence, (registry.batches k).sequence = k
  nonzero : ∀ k < registry.nextSequence, (registry.batches k).globalRoot ≠ 0
  distinct : ∀ k < registry.nextSequence, ∀ l < registry.nextSequence, k ≠ l →
      (registry.batches k).globalRoot ≠ (registry.batches l).globalRoot
  previous : ∀ k < registry.nextSequence, (registry.batches k).previousBatchRoot =
        if k = 0 then 0 else (registry.batches (k - 1)).globalRoot
  hashed : ∀ k < registry.nextSequence, registry.proofBatchHashes k =
        computeProofBatchHash keccak256 (registry.batches k)

variable (keccak256) in
/-- The list together with what the guards of registration read. -/
structure Kept (registry : ProofBatchRegistryV1) : Prop extends Linked keccak256 registry where
  used : ∀ k < registry.nextSequence,
      registry.usedGlobalRoots (registry.batches k).globalRoot = true
  vacant : ∀ k, registry.nextSequence ≤ k → registry.proofBatchHashes k = 0
  hasBatches : registry.hasBatches = true ↔ registry.nextSequence ≠ 0

theorem constructed_kept (owner publisher : Address) (minDelay : Nat) :
    (constructed owner publisher minDelay).Kept keccak256 where
  sequence := fun k below => absurd below (Nat.not_lt_zero k)
  nonzero := fun k below => absurd below (Nat.not_lt_zero k)
  distinct := fun k below => absurd below (Nat.not_lt_zero k)
  previous := fun k below => absurd below (Nat.not_lt_zero k)
  hashed := fun k below => absurd below (Nat.not_lt_zero k)
  used := fun k below => absurd below (Nat.not_lt_zero k)
  vacant := fun _ _ => rfl
  hasBatches := by simp [constructed]

theorem Kept.of_same (kept : before.Kept keccak256) (same : SameBatches before after) :
    after.Kept keccak256 := by
  rcases same with ⟨nextSequence, hasBatches, batches, hashes, used⟩
  constructor
  · constructor <;> rw [nextSequence, batches]
    · exact kept.sequence
    · exact kept.nonzero
    · exact kept.distinct
    · exact kept.previous
    · rw [hashes]
      exact kept.hashed
  · rw [nextSequence, batches, used]
    exact kept.used
  · rw [nextSequence, hashes]
    exact kept.vacant
  · rw [nextSequence, hasBatches]
    exact kept.hasBatches

/-- What holds of the old entries and of the new one holds of all. -/
theorem Appends.forall_entries {batch : ProofBatch} {motive : Nat → ProofBatch → Prop}
    (appends : Appends keccak256 before after batch)
    (entries : ∀ k < before.nextSequence, motive k (before.batches k))
    (last : motive before.nextSequence batch) :
    ∀ k < after.nextSequence, motive k (after.batches k) := by
  intro k below
  rw [appends.nextSequence] at below
  rw [appends.batches]
  rcases Nat.lt_succ_iff_lt_or_eq.mp below with earlier | same
  · rw [write_of_ne _ _ (Nat.ne_of_lt earlier)]
    exact entries k earlier
  · subst same
    rw [write_self]
    exact last

/-- An entry below the end stays when a batch is appended. -/
theorem Appends.entry {batch : ProofBatch} {k : Nat}
    (appends : Appends keccak256 before after batch) (below : k < before.nextSequence) :
    after.batches k = before.batches k ∧ after.proofBatchHashes k = before.proofBatchHashes k := by
  rw [appends.batches, appends.proofBatchHashes]
  exact ⟨write_of_ne _ _ (Nat.ne_of_lt below), write_of_ne _ _ (Nat.ne_of_lt below)⟩

/-- The root of the new batch is that of no earlier one. -/
theorem Appends.root_ne {batch : ProofBatch} {k : Nat}
    (appends : Appends keccak256 before after batch) (kept : before.Kept keccak256)
    (below : k < before.nextSequence) : (before.batches k).globalRoot ≠ batch.globalRoot := by
  intro same
  have used := kept.used k below
  rw [same, appends.unused] at used
  cases used

theorem Kept.append {batch : ProofBatch} (kept : before.Kept keccak256)
    (appends : Appends keccak256 before after batch) : after.Kept keccak256 where
  sequence :=
    appends.forall_entries (motive := fun k entry => entry.sequence = k)
      kept.sequence appends.sequence
  nonzero :=
    appends.forall_entries (motive := fun _ entry => entry.globalRoot ≠ 0)
      kept.nonzero appends.nonzero
  distinct := by
    apply appends.forall_entries (motive := fun k entry =>
      ∀ l < after.nextSequence, k ≠ l → entry.globalRoot ≠ (after.batches l).globalRoot)
    · intro k below
      apply appends.forall_entries (motive := fun l entry =>
        k ≠ l → (before.batches k).globalRoot ≠ entry.globalRoot)
      · intro l other ne
        exact kept.distinct k below l other ne
      · intro _
        exact appends.root_ne kept below
    · apply appends.forall_entries (motive := fun l entry =>
          before.nextSequence ≠ l → batch.globalRoot ≠ entry.globalRoot)
      · intro l other _ same
        exact appends.root_ne kept other same.symm
      · exact fun ne => absurd rfl ne
  previous := by
    apply appends.forall_entries (motive := fun k entry =>
      entry.previousBatchRoot = if k = 0 then 0 else (after.batches (k - 1)).globalRoot)
    · intro k below
      have earlier : k - 1 < before.nextSequence := by omega
      rw [(appends.entry earlier).1]
      exact kept.previous k below
    · rw [appends.previous, expectedPreviousRoot]
      by_cases first : before.nextSequence = 0
      · rw [if_pos first, if_pos first]
      · have earlier : before.nextSequence - 1 < before.nextSequence := by
          omega
        rw [if_neg first, if_neg first, (appends.entry earlier).1]
  hashed := by
    apply appends.forall_entries (motive := fun k entry =>
      after.proofBatchHashes k = computeProofBatchHash keccak256 entry)
    · intro k below
      rw [(appends.entry below).2]
      exact kept.hashed k below
    · rw [appends.proofBatchHashes, write_self]
  used := by
    apply appends.forall_entries (motive := fun _ entry =>
      after.usedGlobalRoots entry.globalRoot = true)
    · intro k below
      rw [appends.usedGlobalRoots, write_of_ne _ _ (appends.root_ne kept below)]
      exact kept.used k below
    · rw [appends.usedGlobalRoots, write_self]
  vacant := by
    intro k beyond
    rw [appends.nextSequence] at beyond
    have ne : k ≠ before.nextSequence := by omega
    rw [appends.proofBatchHashes, write_of_ne _ _ ne]
    exact kept.vacant k (by omega)
  hasBatches := by
    rw [appends.hasBatches, appends.nextSequence]
    simp

theorem kept_of_reachable (reached : (system keccak256).Reachable AnyCall registry) :
    registry.Kept keccak256 := by
  induction reached with
  | start initial =>
    rcases initial with ⟨owner, publisher, minDelay, -, -, rfl⟩
    exact constructed_kept owner publisher minDelay
  | next _ _ accepted kept =>
    rcases step_cases accepted with same | ⟨batch, appends⟩
    · exact kept.of_same same
    · exact kept.append appends

/-- Every entry of one list is an entry of the other. -/
structure Extends (before after : ProofBatchRegistryV1) : Prop where
  nextSequence : before.nextSequence ≤ after.nextSequence
  entries : ∀ k < before.nextSequence, after.batches k = before.batches k ∧
        after.proofBatchHashes k = before.proofBatchHashes k

theorem Extends.trans {first second third : ProofBatchRegistryV1}
    (earlier : Extends first second) (later : Extends second third) : Extends first third where
  nextSequence := Nat.le_trans earlier.nextSequence later.nextSequence
  entries := by
    intro k below
    rcases earlier.entries k below with ⟨batch, hash⟩
    rcases later.entries k (Nat.lt_of_lt_of_le below earlier.nextSequence) with
      ⟨laterBatch, laterHash⟩
    exact ⟨laterBatch.trans batch, laterHash.trans hash⟩

theorem extends_of_step {call : Msg × Call} (accepted : step keccak256 before call = .ok after) :
    Extends before after := by
  rcases step_cases accepted with same | ⟨batch, appends⟩
  · refine ⟨Nat.le_of_eq same.nextSequence.symm, ?_⟩
    intro k _
    rw [same.batches, same.proofBatchHashes]
    exact ⟨rfl, rfl⟩
  · refine ⟨?_, fun k below => appends.entry below⟩
    rw [appends.nextSequence]
    exact Nat.le_succ _

theorem extends_of_run
    (continued : ((system keccak256).startingAt registry).Reachable AnyCall later) :
    Extends registry later := by
  induction continued with
  | start initial =>
    rw [show _ = registry from initial]
    exact ⟨Nat.le_refl _, fun _ _ => ⟨rfl, rfl⟩⟩
  | next _ _ accepted extended =>
    exact extended.trans (extends_of_step accepted)

/--
In every run the batches form one linked list without repeated roots, whose
entries stay for good; exactly the sequences below the next one are accepted.
-/
theorem registry_appendOnly
    (keccak_ne_zero : ∀ bytes, keccak256 bytes ≠ 0)
    (reached : (system keccak256).Reachable AnyCall registry) :
    registry.Linked keccak256 ∧
      (∀ k,
        registry.isSequenceAccepted k = true ↔
          k < registry.nextSequence) ∧
      ∀ later,
        ((system keccak256).startingAt registry).Reachable AnyCall later →
          Extends registry later := by
  have kept := kept_of_reachable reached
  refine ⟨kept.toLinked, ?_, fun later continued => extends_of_run continued⟩
  intro k
  rw [isSequenceAccepted, decide_eq_true_eq]
  constructor
  · intro accepted
    by_contra beyond
    exact accepted (kept.vacant k (Nat.le_of_not_lt beyond))
  · intro below
    rw [kept.hashed k below]
    exact keccak_ne_zero _

/-- Two batches are registered around a change of the publisher. -/
theorem registry_appendOnly_two :
    ∃ registry,
      (system digits).Reachable AnyCall registry ∧
        registry.nextSequence = 2 ∧ registry.publisher = 3 ∧
        registry.Linked digits ∧
        ∀ k, registry.isSequenceAccepted k = true ↔ k < 2 := by
  have played :
      ((system digits).replay AnyCall (constructed 1 2 0)
        [(.plain 2 1 (by decide) (by decide),
            .registerBatch ⟨0, 0, 7, 8, 9⟩),
          (.plain 1 2 (by decide) (by decide), .schedulePublisherUpdate 3),
          (.plain 1 3 (by decide) (by decide), .executePublisherUpdate),
          (.plain 3 4 (by decide) (by decide),
            .registerBatch ⟨1, 7, 10, 8, 9⟩)]).any
        (fun registry =>
          decide
            (registry.nextSequence = 2 ∧ registry.publisher = 3)) = true := by
    decide +kernel
  have start : (system digits).Reachable AnyCall (constructed 1 2 0) :=
    .start ⟨1, 2, 0, by decide, by decide, rfl⟩
  rcases System.Reachable.exists_replay start played with
    ⟨registry, reached, observed⟩
  rcases of_decide_eq_true observed with ⟨two, publisher⟩
  rcases registry_appendOnly digits_ne_zero reached with
    ⟨linked, accepted, -⟩
  rw [two] at accepted
  exact ⟨registry, reached, two, publisher, linked, accepted⟩

end ProofBatchRegistryV1

end Mozetto.Chain
