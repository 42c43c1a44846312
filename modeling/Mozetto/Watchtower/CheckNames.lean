import Mozetto.Watchtower.Soundness

/-!
# The names of the checks

Each section of a report names its checks in its own way, so that a claim of a
package is accounted for by the checks of its own section only.
-/

namespace Mozetto.Watchtower

open Mozetto.Commitments
open Mozetto.EventStore
open Mozetto.Library.Guarded
open Mozetto.Outbox (JsValue Runtime)

/-! ## Marks -/

/-- How a name begins. -/
def mark (id : String) : List Char := id.toList.take 4

theorem mark_append {first : String} (rest : String) (long : 4 ≤ first.toList.length) :
    mark (first ++ rest) = mark first := by
  rw [mark, String.toList_append, List.take_append_of_le_length long, mark]

/-- All checks have names that begin like this one. -/
def Begins (first : String) (checks : List CheckResult) : Prop :=
  ∀ check ∈ checks, mark check.id = mark first

section Marks

variable {first id : String} {checks others : List CheckResult}
variable {check : CheckResult}

theorem begins_nil : Begins first [] := fun _ none => nomatch none

theorem begins_cons (here : mark check.id = mark first) (rest : Begins first checks) :
    Begins first (check :: checks) := List.forall_mem_cons.mpr ⟨here, rest⟩

theorem begins_named (id : String) (named : check.id = id) (same : mark id = mark first)
    (rest : Begins first checks) : Begins first (check :: checks) :=
  begins_cons ((congrArg mark named).trans same) rest

theorem begins_append (here : Begins first checks) (rest : Begins first others) :
    Begins first (checks ++ others) := by
  intro check member
  rcases List.mem_append.mp member with left | right
  · exact here check left
  · exact rest check right

/-- The first check of a section is in the report under its name. -/
theorem exists_named {all : List CheckResult} (same : check :: others = checks)
    (named : check.id = id) (included : ∀ other ∈ checks, other ∈ all) :
    ∃ other ∈ all, other.id = id := by
  refine ⟨check, included check ?_, named⟩
  rw [← same]
  exact List.mem_cons_self

/-- Names that end differently differ. -/
theorem ne_of_ends {before before' ending ending' : String}
    (differ : ending.toList.reverse.take 4 ≠ ending'.toList.reverse.take 4 ∧
        4 ≤ ending.toList.length ∧ 4 ≤ ending'.toList.length) :
    before ++ ending ≠ before' ++ ending' := by
  intro same
  have ends := congrArg (fun id : String => id.toList.reverse.take 4) same
  simp only [String.toList_append, List.reverse_append] at ends
  rw [List.take_append_of_le_length, List.take_append_of_le_length] at ends
  · exact differ.1 ends
  · rw [List.length_reverse]
    exact differ.2.2
  · rw [List.length_reverse]
    exact differ.2.1

theorem mark_entryPrefix {runtime : Runtime} (entry : PublicBatchEntry) (rest : String) :
    mark (Part.entryPrefix runtime entry ++ rest) = mark "batchChain" := by
  rw [Part.entryPrefix, between, String.append_assoc, String.append_assoc,
    mark_append _ (by decide)]
  decide

/-- The name of a chain's batch has its sequence as it is written. -/
theorem entryPrefix_injective {runtime : Runtime} {entry other : PublicBatchEntry}
    (same : Part.entryPrefix runtime other = Part.entryPrefix runtime entry) :
    other.sequence.toText runtime = entry.sequence.toText runtime := by
  have lists := congrArg String.toList same
  simp only [Part.entryPrefix, between, String.toList_append] at lists
  exact String.toList_injective (List.append_cancel_left (List.append_cancel_right lists))

end Marks

/-! ## Sections -/

section Names

variable {viem : Viem} {runtime : Runtime} {verifier : RandomnessVerifier}
variable {batch : PublicBatch} {checkPrefix : String}
variable {checks : List CheckResult}

theorem id_proofBatchHashCheck {rebuilt : Hex} {hash : Option Hex} {check : CheckResult}
    (ran : proofBatchHashCheck checkPrefix rebuilt hash = .ok check) :
    check.id = checkPrefix ++ ".proofBatchHash" := by
  rw [proofBatchHashCheck] at ran
  split at ran
  · cases ran
    rfl
  · rcases bind_eq_ok_iff.mp ran with ⟨_, _, same⟩
    cases same
    rfl

/-- A proof that is given is not named like one that is built. -/
theorem inclusion_ne_selfInclusion (i : Nat) :
    "proofBatch" ++ between ".inclusion[" (toString i) "]" ≠
      "proofBatch.selfInclusion[0]" := by
  intro same
  have lists := congrArg (fun id : String => id.toList.take 12) same
  simp only [between, String.toList_append] at lists
  have marks :
      "proofBatch".toList ++ ".i".toList = "proofBatch".toList ++ ".s".toList :=
    lists
  exact absurd marks (by decide)

/-- The names of the inclusion proofs. -/
theorem ids_inclusionChecks {claims : List (PublicInclusionClaim × Nat)}
    (ran : inclusionChecks viem checkPrefix claims = .ok checks) : checks.map (·.id) =
    claims.map fun claim =>
      checkPrefix ++ between ".inclusion[" (toString claim.2) "]" := by
  induction claims generalizing checks with
  | nil =>
    cases ran
    rfl
  | cons first rest induction =>
    rcases bind_eq_ok_iff.mp ran with ⟨ok, _, ran⟩
    rcases bind_eq_ok_iff.mp ran with ⟨others, remaining, same⟩
    cases same
    rw [List.map_cons, List.map_cons, induction remaining]
    rfl

theorem mem_genesisPrevCheck {sequence : Int} {previous : Hex} {check : CheckResult}
    (member : check ∈ genesisPrevCheck checkPrefix sequence previous) :
    check.id = checkPrefix ++ ".genesisPrev" := by
  rw [genesisPrevCheck] at member
  split at member
  · rw [List.mem_singleton.mp member]
    rfl
  · cases member

/-- Without roots, a batch has these checks and no other. -/
theorem BatchRun.ids_none (run : BatchRun viem runtime batch checkPrefix checks)
    (none : run.roots = none) : ∀ check ∈ checks,
    check.id = checkPrefix ++ ".genesisPrev" ∨
      check.id = checkPrefix ++ ".nonZeroGlobalRoot" ∨
        check.id = checkPrefix ++ ".checkpointRoots" := by
  have ran := run.ran
  rw [none] at ran
  intro check member
  rw [run.checks_eq, ← Except.ok.inj ran] at member
  rcases List.mem_append.mp member with genesis | member
  · exact Or.inl (mem_genesisPrevCheck genesis)
  · rcases List.mem_cons.mp member with rfl | member
    · exact Or.inr (Or.inl rfl)
    · rw [List.mem_singleton.mp member]
      exact Or.inr (Or.inr rfl)

/-- The checks of a batch that lists roots, without its inclusion proofs. -/
structure RootChecks (checkPrefix : String) (checks inclusions : List CheckResult) : Prop where
  globalRoot : ∃ check ∈ checks, check.id = checkPrefix ++ ".globalRoot"
  proofBatchHash :
    ∃ check ∈ checks, check.id = checkPrefix ++ ".proofBatchHash"
  included : ∀ check ∈ inclusions, check ∈ checks
  others : ∀ check ∈ checks, check ∈ inclusions ∨
        check.id = checkPrefix ++ ".genesisPrev" ∨
          check.id = checkPrefix ++ ".nonZeroGlobalRoot" ∨
            check.id = checkPrefix ++ ".globalRoot" ∨
              check.id = checkPrefix ++ ".proofBatchHash"

/-- With roots, the checks of a batch are these and its inclusions. -/
theorem BatchRun.ids_some (run : BatchRun viem runtime batch checkPrefix checks)
    {roots : List Hex} (given : run.roots = some roots) : ∃ inclusions,
    verifyInclusions viem runtime batch checkPrefix
        (normalizeHex batch.globalRoot) = .ok inclusions ∧
      RootChecks checkPrefix checks inclusions := by
  have ran := run.ran
  rw [given] at ran
  rcases rebuiltChecks_some ran with ⟨hashCheck, inclusions, ⟨_, hashed⟩, included, rebuilt⟩
  rw [run.globalRoot] at included
  have hashId := id_proofBatchHashCheck hashed
  have all := run.checks_eq
  rw [rebuilt] at all
  refine ⟨inclusions, included, ?_⟩
  constructor
  case globalRoot =>
    have listed_ : ∀ check ∈ globalRootCheck checkPrefix
        (buildGlobalProofBatchRoot viem roots) run.fields.claimedGlobal ::
          hashCheck :: inclusions, check ∈ checks := by
      intro check member
      rw [all]
      exact List.mem_append_right _ (List.mem_cons_of_mem _ member)
    exact ⟨_, listed_ _ List.mem_cons_self, rfl⟩
  case proofBatchHash =>
    refine ⟨hashCheck, ?_, hashId⟩
    rw [all]
    simp
  case included =>
    intro check member
    rw [all]
    simp [member]
  case others =>
    intro check member
    rw [all] at member
    rcases List.mem_append.mp member with genesis | member
    · exact Or.inr (Or.inl (mem_genesisPrevCheck genesis))
    · simp only [List.mem_cons] at member
      rcases member with rfl | rfl | rfl | included
      · exact Or.inr (Or.inr (Or.inl rfl))
      · exact Or.inr (Or.inr (Or.inr (Or.inl rfl)))
      · exact Or.inr (Or.inr (Or.inr (Or.inr hashId)))
      · exact Or.inl included

/-- A batch without roots has no check of its hash or its proofs. -/
theorem BatchRun.lists_of_named {batch : PublicBatch} {own : List CheckResult} {id : String}
    (run : BatchRun viem runtime batch "proofBatch" own)
    (named : ∃ check ∈ own, check.id = id)
    (apart :
      id ≠ "proofBatch" ++ ".genesisPrev" ∧
        id ≠ "proofBatch" ++ ".nonZeroGlobalRoot" ∧
          id ≠ "proofBatch" ++ ".checkpointRoots") :
    listed batch.checkpointRoots ≠ [] ∨ listed batch.checkpoints ≠ [] := by
  rcases named with ⟨check, member, rfl⟩
  rcases checkpointRoots_cases run.readRoots with ⟨lists, _⟩ | ⟨_, lists, _⟩ | ⟨_, _, none⟩
  · exact Or.inl lists
  · exact Or.inr lists
  · rcases run.ids_none none check member with same | same | same
    · exact absurd same apart.1
    · exact absurd same apart.2.1
    · exact absurd same apart.2.2

/-- The checks of inclusions are named after the batch. -/
theorem begins_verifyInclusions {root : Hex} (long : 4 ≤ checkPrefix.toList.length)
    (ran : verifyInclusions viem runtime batch checkPrefix root = .ok checks) :
    Begins checkPrefix checks := by
  rw [verifyInclusions] at ran
  split at ran
  · intro check member
    have named := List.mem_map_of_mem (f := CheckResult.id) member
    rw [ids_inclusionChecks ran] at named
    rcases List.mem_map.mp named with ⟨_, _, same⟩
    rw [← same]
    exact mark_append _ long
  · split at ran
    · rcases bind_eq_ok_iff.mp ran with ⟨leaves, _, same⟩
      cases same
      intro check member
      rcases List.mem_mapIdx.mp member with ⟨_, _, rfl⟩
      exact mark_append _ long
    · cases ran
      exact begins_nil

/-- The checks of a batch are named after it. -/
theorem BatchRun.begins (run : BatchRun viem runtime batch checkPrefix checks)
    (long : 4 ≤ checkPrefix.toList.length) :
    Begins checkPrefix checks := by
  intro check member
  cases given : run.roots with
  | none =>
    rcases run.ids_none given check member with same | same | same
    · rw [same, mark_append _ long]
    · rw [same, mark_append _ long]
    · rw [same, mark_append _ long]
  | some roots =>
    rcases run.ids_some given with ⟨inclusions, included, parts⟩
    rcases parts.others check member with
      inside | same | same | same | same
    · exact begins_verifyInclusions long included check inside
    · rw [same, mark_append _ long]
    · rw [same, mark_append _ long]
    · rw [same, mark_append _ long]
    · rw [same, mark_append _ long]

/-! ## The chain of batches -/

/-- Where all links hold, each batch follows the one before it. -/
theorem isChain_of_linkChecks {prev : PublicProofBatch} {rest : List PublicProofBatch}
    (passed : Passing (linkChecks checkPrefix prev rest)) : (prev :: rest).IsChain Follows := by
  induction rest generalizing prev with
  | nil => exact .singleton _
  | cons b rest induction =>
    rcases passing_checkOf_cons_iff.mp passed with ⟨sequence, passed⟩
    rcases passing_checkOf_cons_iff.mp passed with ⟨linked, passed⟩
    exact .cons_cons ⟨of_decide_eq_true sequence, linked⟩ (induction passed)

theorem isChain_of_continuity {batches : List PublicProofBatch}
    (passed : Passing (verifyBatchContinuity batches checkPrefix)) :
    (bySequence batches).IsChain Follows := by
  rw [verifyBatchContinuity] at passed
  cases ordered : bySequence batches with
  | nil => exact .nil
  | cons first rest =>
    rw [ordered] at passed
    have passed := (passing_append_iff.mp passed).1
    exact isChain_of_linkChecks (passing_cons_iff.mp passed).2

theorem mark_placed (long : 4 ≤ checkPrefix.toList.length) (b : PublicProofBatch) (name : String) :
    mark (placed checkPrefix b name) = mark checkPrefix := by
  have longer :
      4 ≤ (checkPrefix ++ between "[" (toString b.sequence) "].").toList.length
      := by
    rw [String.toList_append, List.length_append]
    exact long.trans (Nat.le_add_right _ _)
  rw [placed, mark_append _ longer, mark_append _ long]

theorem begins_linkChecks (long : 4 ≤ checkPrefix.toList.length)
    {prev : PublicProofBatch} {rest : List PublicProofBatch} :
    Begins checkPrefix (linkChecks checkPrefix prev rest) := by
  induction rest generalizing prev with
  | nil => exact begins_nil
  | cons b rest induction =>
    apply begins_cons (mark_placed long b _)
    exact begins_cons (mark_placed long b _) induction

theorem begins_uniqueRootChecks (long : 4 ≤ checkPrefix.toList.length)
    {seen : List Hex} {batches : List PublicProofBatch} :
    Begins checkPrefix (uniqueRootChecks checkPrefix seen batches) := by
  induction batches generalizing seen with
  | nil => exact begins_nil
  | cons b rest induction => exact begins_cons (mark_placed long b _) induction

theorem begins_continuity {batches : List PublicProofBatch} (long : 4 ≤ checkPrefix.toList.length) :
    Begins checkPrefix (verifyBatchContinuity batches checkPrefix) := by
  rw [verifyBatchContinuity]
  split
  · exact begins_cons (mark_append _ long) begins_nil
  · apply begins_append
    · apply begins_cons
      · rw [startCheck]
        split
        · exact mark_placed long _ _
        · exact mark_placed long _ _
      · exact begins_linkChecks long
    · exact begins_uniqueRootChecks long

/-- The checks of the chain's batches, one batch after the other. -/
structure EntryRun (viem : Viem) (runtime : Runtime) (entries : List PublicBatchEntry)
    (checks : List CheckResult) : Prop where
  sources : ∀ check ∈ checks, ∃ entry ∈ entries, listed entry.checkpointRoots ≠ [] ∧ ∃ own,
        verifyProofBatchClaim viem runtime entry.asBatch
            (Part.entryPrefix runtime entry) = .ok own ∧ check ∈ own
  complete : ∀ entry ∈ entries, listed entry.checkpointRoots ≠ [] → ∃ own,
      verifyProofBatchClaim viem runtime entry.asBatch (Part.entryPrefix runtime entry) = .ok own ∧
        ∀ check ∈ own, check ∈ checks

theorem entryRun_of_ok {entries : List PublicBatchEntry}
    (ran : entryChecks viem runtime entries = .ok checks) :
    EntryRun viem runtime entries checks := by
  induction entries generalizing checks with
  | nil =>
    cases ran
    constructor
    · exact fun _ none => nomatch none
    · exact fun _ none => nomatch none
  | cons entry rest induction =>
    rw [entryChecks] at ran
    rcases bind_eq_ok_iff.mp ran with ⟨own, first, ran⟩
    rcases bind_eq_ok_iff.mp ran with ⟨others, remaining, same⟩
    cases same
    have later := induction remaining
    constructor
    · intro check member
      rcases List.mem_append.mp member with here | there
      · rw [listedEntryChecks] at first
        split at first
        case isTrue given =>
          exact ⟨entry, List.mem_cons_self, given, own, first, here⟩
        case isFalse =>
          cases first
          cases here
      · rcases later.sources check there with ⟨other, inside, facts⟩
        exact ⟨other, List.mem_cons_of_mem _ inside, facts⟩
    · intro other inside given
      rcases List.mem_cons.mp inside with rfl | inside
      · rw [listedEntryChecks, if_pos given] at first
        exact ⟨own, first, fun check member => List.mem_append_left _ member⟩
      · rcases later.complete other inside given with ⟨run, ran, members⟩
        exact ⟨run, ran, fun check member =>
          List.mem_append_right _ (members check member)⟩

/-- The checks of a batch of the chain that lists its roots. -/
theorem ids_entry {entry : PublicBatchEntry} (given : listed entry.checkpointRoots ≠ [])
    (ran : verifyProofBatchClaim viem runtime entry.asBatch checkPrefix = .ok checks) :
    RootChecks checkPrefix checks [] := by
  rcases exists_batchRun ran with ⟨run⟩
  rcases run.exists_roots (Or.inl given) with ⟨roots, read⟩
  rcases run.ids_some read with ⟨inclusions, included, parts⟩
  cases included
  exact parts

end Names

end Mozetto.Watchtower
