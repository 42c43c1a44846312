import Mozetto.Commitments.MerkleProofs
import Mozetto.Watchtower.CheckNames

/-!
# Packages that a verified report is sound of

A verified report says of a package what it stands for exactly where the
package names each root once.  Where its parts contradict each other, each
part is checked against what it says itself, and the report is verified all
the same.
-/

namespace Mozetto.Watchtower

open Mozetto.Commitments
open Mozetto.EventStore
open Mozetto.Library.Guarded
open Mozetto.Outbox (JsValue Runtime)

section Report

variable {viem : Viem} {runtime : Runtime} {verifier : RandomnessVerifier}
variable {opts : RunWatchtowerOptions} {report : WatchtowerReport}

/-! ## The sections of a report -/

/-- The checks of a report, section by section. -/
structure Sections (viem : Viem) (runtime : Runtime) (verifier : RandomnessVerifier)
    (opts : RunWatchtowerOptions) (report : WatchtowerReport) where
  batch : List CheckResult
  chain : List CheckResult
  balances : List CheckResult
  inclusion : List CheckResult
  settlement : List CheckResult
  random : List CheckResult
  ranBatch : batchSection viem runtime opts = .ok batch
  ranChain : chainChecks viem runtime (listed opts.pkg.batchChain) = .ok chain
  ranBalances : balancesSection viem runtime opts = .ok balances
  ranInclusion : balanceInclusionSection viem runtime opts = .ok inclusion
  ranSettlement : settlementSection runtime opts = .ok settlement
  ranRandom : randomnessSection verifier opts = .ok random
  checks : report.checks = batch ++ chain ++ balances ++ inclusion ++ settlement ++ random
  passed : report.ok = true → Passing report.checks

theorem exists_sections (ran : runWatchtower viem runtime verifier opts = .ok report) :
    Nonempty (Sections viem runtime verifier opts report) := by
  rcases bind_eq_ok_iff.mp ran with ⟨checks, ranChecks, same⟩
  cases same
  rcases bind_eq_ok_iff.mp ranChecks with ⟨batch, ranBatch, ranChecks⟩
  rcases bind_eq_ok_iff.mp ranChecks with ⟨chain, ranChain, ranChecks⟩
  rcases bind_eq_ok_iff.mp ranChecks with ⟨balances, ranBalances, ranChecks⟩
  rcases bind_eq_ok_iff.mp ranChecks with ⟨inclusion, ranInclusion, ranChecks⟩
  rcases bind_eq_ok_iff.mp ranChecks with ⟨settlement, ranSettlement, ranChecks⟩
  rcases bind_eq_ok_iff.mp ranChecks with ⟨random, ranRandom, same⟩
  cases same
  exact ⟨⟨batch, chain, balances, inclusion, settlement, random, ranBatch,
      ranChain, ranBalances, ranInclusion, ranSettlement, ranRandom, rfl, passing_of_verified⟩⟩

/-- The checks of the claimed batch, without those against the registry. -/
theorem Sections.exists_batch (sections : Sections viem runtime verifier opts report)
    {batch : PublicBatch} (given : batch ∈ opts.pkg.proofBatch) : ∃ own registry,
    verifyProofBatchClaim viem runtime batch "proofBatch" = .ok own ∧
      Begins "registry" registry ∧ sections.batch = own ++ registry := by
  have ran := sections.ranBatch
  rw [batchSection, show opts.pkg.proofBatch = some batch from given] at ran
  rcases bind_eq_ok_iff.mp ran with ⟨own, ranOwn, ran⟩
  rcases bind_eq_ok_iff.mp ran with ⟨registry, ranRegistry, same⟩
  refine ⟨own, registry, ranOwn, ?_, (Except.ok.inj same).symm⟩
  rw [sourceChecks] at ranRegistry
  split at ranRegistry
  · cases ranRegistry
    exact begins_nil
  · rcases bind_eq_ok_iff.mp ranRegistry with ⟨claim, _, ranRegistry⟩
    rcases bind_eq_ok_iff.mp ranRegistry with ⟨onchain, _, ranRegistry⟩
    split at ranRegistry
    · cases ranRegistry
      exact begins_named ("registry" ++ ".present") rfl (by decide) begins_nil
    · cases ranRegistry
      apply begins_append
      · exact
          begins_named ("registry" ++ ".present") rfl (by decide)
            (begins_named ("registry" ++ ".createdAt") rfl (by decide)
              (begins_named ("registry" ++ "." ++ "previousBatchRoot") rfl (by decide)
                (begins_named ("registry" ++ "." ++ "globalRoot") rfl (by decide)
                  (begins_named ("registry" ++ "." ++ "dataManifestHash") rfl (by decide) begins_nil))))
      · rw [registryHashChecks.eq_def]
        split
        · exact begins_named ("registry" ++ ".proofBatchHash") rfl (by decide) begins_nil
        · exact begins_nil

/-- The walk of the chain and the checks of its batches. -/
theorem Sections.exists_chain (sections : Sections viem runtime verifier opts report) :
    ∃ batches entries, (listed opts.pkg.batchChain).mapM (toPublicProofBatch runtime) =
          .ok batches ∧ EntryRun viem runtime (listed opts.pkg.batchChain) entries ∧
          (Passing sections.chain → (bySequence batches).IsChain Follows) ∧
            (∀ check ∈ entries, check ∈ sections.chain) ∧ ∀ check ∈ sections.chain,
                check ∈ entries ∨ mark check.id = mark "continuity" := by
  have ran := sections.ranChain
  rw [chainChecks] at ran
  split at ran
  case isTrue empty =>
    have none := Except.ok.inj ran
    refine ⟨[], [], ?_, ?_, ?_, ?_, ?_⟩
    · rw [empty]
      rfl
    · rw [empty]
      exact entryRun_of_ok rfl
    · exact fun _ => .nil
    · exact fun _ member => nomatch member
    · intro check member
      rw [← none] at member
      cases member
  case isFalse =>
    rcases bind_eq_ok_iff.mp ran with ⟨batches, read, ran⟩
    rcases bind_eq_ok_iff.mp ran with ⟨entries, ranEntries, same⟩
    have chain := (Except.ok.inj same).symm
    refine ⟨batches, entries, read, entryRun_of_ok ranEntries, ?_, ?_, ?_⟩
    · intro passed
      rw [chain] at passed
      exact isChain_of_continuity (passing_append_iff.mp passed).1
    · intro check member
      rw [chain]
      exact List.mem_append_right _ member
    · intro check member
      rw [chain] at member
      rcases List.mem_append.mp member with walk | entry
      · exact Or.inr (begins_continuity (by decide) check walk)
      · exact Or.inl entry

/-! ## How the other sections name their checks -/

theorem Sections.begins_balances (sections : Sections viem runtime verifier opts report) :
    Begins "balances" (sections.balances ++ sections.inclusion) := by
  apply begins_append
  · have ran := sections.ranBalances
    rw [balancesSection] at ran
    split at ran
    · rw [← Except.ok.inj ran]
      exact begins_named "balances" rfl (by decide) begins_nil
    · rcases bind_eq_ok_iff.mp ran with ⟨root, _, ran⟩
      split at ran
      · rw [← Except.ok.inj ran]
        exact begins_named "balances.balanceRoot" rfl (by decide) begins_nil
      · rw [← Except.ok.inj ran]
        exact begins_named "balances.balanceRoot" rfl (by decide) begins_nil
  · have ran := sections.ranInclusion
    rw [balanceInclusionSection] at ran
    split at ran
    · rw [← Except.ok.inj ran]
      exact begins_nil
    · rcases bind_eq_ok_iff.mp ran with ⟨leaf, _, ran⟩
      rcases bind_eq_ok_iff.mp ran with ⟨encoded, _, ran⟩
      rcases bind_eq_ok_iff.mp ran with ⟨hashChecks, hashed, ran⟩
      rcases bind_eq_ok_iff.mp ran with ⟨root, _, same⟩
      rw [← Except.ok.inj same]
      apply begins_append
      · rw [leafHashCheck] at hashed
        split at hashed
        · rw [← Except.ok.inj hashed]
          exact begins_nil
        · rcases bind_eq_ok_iff.mp hashed with ⟨_, _, same⟩
          rw [← Except.ok.inj same]
          exact begins_named "balanceInclusion.leafHash" rfl (by decide) begins_nil
      · exact begins_named "balanceInclusion.merkle" rfl (by decide) begins_nil

theorem Sections.begins_settlement (sections : Sections viem runtime verifier opts report) :
    Begins "settlement" sections.settlement := by
  have ran := sections.ranSettlement
  rw [settlementSection] at ran
  split at ran
  · rw [← Except.ok.inj ran]
    exact begins_named "settlement" rfl (by decide) begins_nil
  · rcases bind_eq_ok_iff.mp ran with ⟨_, _, ran⟩
    rcases bind_eq_ok_iff.mp ran with ⟨_, _, ran⟩
    rcases bind_eq_ok_iff.mp ran with ⟨_, _, same⟩
    rw [← Except.ok.inj same]
    exact begins_named "settlement.conservation" rfl (by decide) begins_nil

theorem begins_goldenSection {runGoldenSuite : Bool} {vectorsDir : Option String}
    {checks : List CheckResult}
    (ran : goldenSection verifier runGoldenSuite vectorsDir = .ok checks) :
    Begins "randomness" checks := by
  rw [goldenSection] at ran
  split at ran
  · rcases bind_eq_ok_iff.mp ran with ⟨golden, _, same⟩
    rw [← Except.ok.inj same]
    apply begins_named "randomness.goldenSuite" rfl (by decide)
    intro check member
    rcases List.mem_map.mp member with ⟨inner, _, rfl⟩
    exact mark_append _ (by decide)
  · rw [← Except.ok.inj ran]
    exact begins_nil

theorem begins_openingSection {opening : Option CardOpeningInput} {checks : List CheckResult}
    (ran : openingSection verifier opening = .ok checks) :
    Begins "randomness" checks := by
  cases opening with
  | none =>
    rw [← Except.ok.inj ran]
    exact begins_nil
  | some opening =>
    rcases bind_eq_ok_iff.mp ran with ⟨_, _, ran⟩
    rcases bind_eq_ok_iff.mp ran with ⟨_, _, ran⟩
    rcases bind_eq_ok_iff.mp ran with ⟨_, _, ran⟩
    rcases bind_eq_ok_iff.mp ran with ⟨_, _, same⟩
    rw [← Except.ok.inj same]
    exact begins_named "randomness.opening" rfl (by decide) begins_nil

theorem Sections.begins_random (sections : Sections viem runtime verifier opts report) :
    Begins "randomness" sections.random := by
  have ran := sections.ranRandom
  rw [randomnessSection] at ran
  split at ran
  · rcases bind_eq_ok_iff.mp ran with ⟨golden, ranGolden, ran⟩
    rcases bind_eq_ok_iff.mp ran with ⟨opened, ranOpening, same⟩
    rw [← Except.ok.inj same]
    apply begins_append
    · exact begins_append (begins_goldenSection ranGolden) (begins_openingSection ranOpening)
    · split
      · exact begins_named "randomness" rfl (by decide) begins_nil
      · exact begins_nil
  · rw [← Except.ok.inj ran]
    exact begins_named "randomness" rfl (by decide) begins_nil

/-- A leaf lies under one root. -/
theorem leafUnder_iff_eqHex {claim : PublicBalanceInclusion} {root other : Hex}
    (under : LeafUnder viem runtime claim root) :
    LeafUnder viem runtime claim other ↔ eqHex root other = true := by
  rcases under with ⟨fields, leafHash, readLeaf, encoded, accepted⟩
  rw [← verifyMerkleProof_iff_eqHex accepted]
  constructor
  · rintro ⟨fields', leafHash', readLeaf', encoded', accepted'⟩
    cases readLeaf.symm.trans readLeaf'
    cases encoded.symm.trans encoded'
    exact accepted'
  · intro accepted'
    exact ⟨fields, leafHash, readLeaf, encoded, accepted'⟩

/-! ## Where a check stands -/

variable (sections : Sections viem runtime verifier opts report)
variable {check : CheckResult}

include sections

theorem Sections.mem_batch (member : check ∈ sections.batch) : check ∈ report.checks := by
  rw [sections.checks]
  simp [member]

theorem Sections.mem_chain (member : check ∈ sections.chain) : check ∈ report.checks := by
  rw [sections.checks]
  simp [member]

theorem Sections.mem_balances (member : check ∈ sections.balances) : check ∈ report.checks := by
  rw [sections.checks]
  simp [member]

theorem Sections.mem_inclusion (member : check ∈ sections.inclusion) : check ∈ report.checks := by
  rw [sections.checks]
  simp [member]

theorem Sections.mem_settlement (member : check ∈ sections.settlement) : check ∈ report.checks := by
  rw [sections.checks]
  simp [member]

theorem Sections.mem_random (member : check ∈ sections.random) : check ∈ report.checks := by
  rw [sections.checks]
  simp [member]

/-- A check stands with the batch, with the chain, or is named otherwise. -/
theorem Sections.cases_mem (member : check ∈ report.checks) :
    check ∈ sections.batch ∨ check ∈ sections.chain ∨
      mark check.id = mark "balances" ∨ mark check.id = mark "settlement" ∨
        mark check.id = mark "randomness" := by
  rw [sections.checks] at member
  rcases List.mem_append.mp member with member | random
  · rcases List.mem_append.mp member with member | settlement
    · rw [List.append_assoc] at member
      rcases List.mem_append.mp member with member | balances
      · rcases List.mem_append.mp member with batch | chain
        · exact Or.inl batch
        · exact Or.inr (Or.inl chain)
      · exact Or.inr (Or.inr (Or.inl (sections.begins_balances check balances)))
    · have named := sections.begins_settlement check settlement
      exact Or.inr (Or.inr (Or.inr (Or.inl named)))
  · have named := sections.begins_random check random
    exact Or.inr (Or.inr (Or.inr (Or.inr named)))

/-- The checks of the chain are not named like those of a batch. -/
theorem Sections.mark_chain (member : check ∈ sections.chain) :
    mark check.id = mark "batchChain" ∨ mark check.id = mark "continuity" := by
  rcases sections.exists_chain with ⟨_, entries, _, run, _, _, others⟩
  rcases others check member with entry | named
  · rcases run.sources check entry with ⟨source, _, _, own, ran, inside⟩
    rcases exists_batchRun ran with ⟨batchRun⟩
    have long : 4 ≤ (Part.entryPrefix runtime source).toList.length := by
      rw [Part.entryPrefix, between, String.append_assoc, String.toList_append, List.length_append]
      exact le_trans (by decide) (Nat.le_add_right _ _)
    left
    rw [batchRun.begins long check inside, Part.entryPrefix, between,
      String.append_assoc, mark_append _ (by decide)]
    decide
  · exact Or.inr named

/-- A check that is named after the batch is one of its own. -/
theorem Sections.mem_own {batch : PublicBatch} (given : batch ∈ opts.pkg.proofBatch)
    (member : check ∈ report.checks)
    (named : mark check.id = mark "proofBatch") :
    ∃ own,
      verifyProofBatchClaim viem runtime batch "proofBatch" = .ok own ∧ check ∈ own := by
  rcases sections.exists_batch given with ⟨own, registry, ran, begins, split⟩
  refine ⟨own, ran, ?_⟩
  rcases sections.cases_mem member with
    inside | chain | other | other | other
  · rw [split] at inside
    rcases List.mem_append.mp inside with inside | inside
    · exact inside
    · have apart := begins check inside
      rw [named] at apart
      exact absurd apart (by decide)
  · rcases sections.mark_chain chain with other | other
    · rw [named] at other
      exact absurd other (by decide)
    · rw [named] at other
      exact absurd other (by decide)
  · rw [named] at other
    exact absurd other (by decide)
  · rw [named] at other
    exact absurd other (by decide)
  · rw [named] at other
    exact absurd other (by decide)

/-! ## What is accounted for -/

/-- The checks of a claimed batch that lists roots are in the report. -/
theorem Sections.exists_rootChecks {batch : PublicBatch} (given : batch ∈ opts.pkg.proofBatch)
    (lists : listed batch.checkpointRoots ≠ [] ∨ listed batch.checkpoints ≠ []) :
    ∃ own inclusions,
      verifyInclusions viem runtime batch "proofBatch"
          (normalizeHex batch.globalRoot) = .ok inclusions ∧
        RootChecks "proofBatch" own inclusions ∧ ∀ check ∈ own, check ∈ report.checks := by
  rcases sections.exists_batch given with ⟨own, registry, ran, _, split⟩
  rcases exists_batchRun ran with ⟨run⟩
  rcases run.exists_roots lists with ⟨roots, read⟩
  rcases run.ids_some read with ⟨inclusions, included, parts⟩
  refine ⟨own, inclusions, included, parts, ?_⟩
  intro check member
  apply sections.mem_batch
  rw [split]
  exact List.mem_append_left _ member

/-- A chain's batch that lists its roots has its checks in the report. -/
theorem Sections.exists_entryChecks {entry : PublicBatchEntry}
    (inside : entry ∈ listed opts.pkg.batchChain) (lists : listed entry.checkpointRoots ≠ []) :
    ∃ own, RootChecks (Part.entryPrefix runtime entry) own [] ∧
        ∀ check ∈ own, check ∈ report.checks := by
  rcases sections.exists_chain with ⟨_, entries, _, run, _, included, _⟩
  rcases run.complete entry inside lists with ⟨own, ran, members⟩
  refine ⟨own, ids_entry lists ran, ?_⟩
  intro check member
  exact sections.mem_chain (included check (members check member))

theorem Sections.exists_balances (given : opts.pkg.balances.isSome = true) :
    ∃ check ∈ report.checks, check.id = "balances.balanceRoot" := by
  rcases Option.isSome_iff_exists.mp given with ⟨balances, found⟩
  have ran := sections.ranBalances
  rw [balancesSection, found] at ran
  rcases bind_eq_ok_iff.mp ran with ⟨root, _, ran⟩
  split at ran
  · exact exists_named (Except.ok.inj ran) rfl fun _ => sections.mem_balances
  · exact exists_named (Except.ok.inj ran) rfl fun _ => sections.mem_balances

/-- What the check of a balance leaf consists of. -/
theorem Sections.exists_inclusion {claim : PublicBalanceInclusion}
    (given : claim ∈ opts.pkg.balanceInclusion) : ∃ fields leafHash hashChecks,
    toLeafInput viem runtime claim.leaf = .ok fields ∧
      encodeBalanceLeaf viem runtime fields = .ok leafHash ∧
        leafHashCheck leafHash claim.leafHash = .ok hashChecks ∧ sections.inclusion = hashChecks ++
              [checkOf "balanceInclusion.merkle"
                (verifyMerkleProof viem.toHashPackage leafHash claim.proof
                  (normalizeHex claim.balanceRoot))
                ("leaf included under balanceRoot " ++ shortened (normalizeHex claim.balanceRoot))
                "balance leaf Merkle inclusion failed"] := by
  have ran := sections.ranInclusion
  rw [balanceInclusionSection, show opts.pkg.balanceInclusion = some claim from given] at ran
  rcases bind_eq_ok_iff.mp ran with ⟨fields, readLeaf, ran⟩
  rcases bind_eq_ok_iff.mp ran with ⟨leafHash, encoded, ran⟩
  rcases bind_eq_ok_iff.mp ran with ⟨hashChecks, hashed, ran⟩
  rcases bind_eq_ok_iff.mp ran with ⟨root, readRoot, same⟩
  refine ⟨fields, leafHash, hashChecks, readLeaf, encoded, hashed, ?_⟩
  rw [← Except.ok.inj same, (asHex_eq_ok_iff.mp readRoot).2]

theorem Sections.exists_settlement (given : opts.pkg.settlement.isSome = true) :
    ∃ check ∈ report.checks, check.id = "settlement.conservation" := by
  rcases Option.isSome_iff_exists.mp given with ⟨settlement, found⟩
  have ran := sections.ranSettlement
  rw [settlementSection, found] at ran
  rcases bind_eq_ok_iff.mp ran with ⟨_, _, ran⟩
  rcases bind_eq_ok_iff.mp ran with ⟨_, _, ran⟩
  rcases bind_eq_ok_iff.mp ran with ⟨_, _, same⟩
  exact exists_named (Except.ok.inj same) rfl fun _ => sections.mem_settlement

/-- The randomness section is run where it is asked for. -/
theorem Sections.exists_randomness
    (asked : (runGolden opts || (randomness opts).opening.isSome) = true) : ∃ golden opened,
    goldenSection verifier (runGolden opts)
        ((randomness opts).vectorsDir.or opts.vectorsDir) = .ok golden ∧
      openingSection verifier (randomness opts).opening = .ok opened ∧
        (∀ check ∈ golden, check ∈ report.checks) ∧ ∀ check ∈ opened, check ∈ report.checks := by
  have ran := sections.ranRandom
  rw [randomnessSection, if_pos asked] at ran
  rcases bind_eq_ok_iff.mp ran with ⟨golden, ranGolden, ran⟩
  rcases bind_eq_ok_iff.mp ran with ⟨opened, ranOpening, same⟩
  refine ⟨golden, opened, ranGolden, ranOpening, ?_, ?_⟩
  · intro check member
    apply sections.mem_random
    rw [← Except.ok.inj same]
    exact List.mem_append_left _ (List.mem_append_left _ member)
  · intro check member
    apply sections.mem_random
    rw [← Except.ok.inj same]
    exact List.mem_append_left _ (List.mem_append_right _ member)

theorem Sections.exists_opening
    {given : PublicRandomness} (found : opts.pkg.randomness = some given)
    (opens : given.opening.isSome = true) :
    ∃ check ∈ report.checks, check.id = "randomness.opening" := by
  have own : randomness opts = given := by
    rw [randomness, found, Option.getD_some]
  have asked : (runGolden opts || (randomness opts).opening.isSome) = true := by
    rw [own, opens, Bool.or_true]
  rcases sections.exists_randomness asked with ⟨_, opened, _, ranOpening, _, included⟩
  rcases Option.isSome_iff_exists.mp opens with ⟨opening, some⟩
  rw [own, some] at ranOpening
  rcases bind_eq_ok_iff.mp ranOpening with ⟨_, _, ranOpening⟩
  rcases bind_eq_ok_iff.mp ranOpening with ⟨_, _, ranOpening⟩
  rcases bind_eq_ok_iff.mp ranOpening with ⟨_, _, ranOpening⟩
  rcases bind_eq_ok_iff.mp ranOpening with ⟨_, _, same⟩
  exact exists_named (Except.ok.inj same) rfl included

theorem Sections.exists_golden {given : PublicRandomness} (found : opts.pkg.randomness = some given)
    (runs : given.runGoldenSuite = some true) :
    ∃ check ∈ report.checks, check.id = "randomness.goldenSuite" := by
  have golden : runGolden opts = true := by
    rw [runGolden, randomness, found, Option.getD_some, runs]
    rfl
  have asked : (runGolden opts || (randomness opts).opening.isSome) = true := by
    rw [golden, Bool.true_or]
  rcases sections.exists_randomness asked with ⟨checks, _, ranGolden, _, included, _⟩
  rw [goldenSection, if_pos golden] at ranGolden
  rcases bind_eq_ok_iff.mp ranGolden with ⟨_, _, same⟩
  exact exists_named (Except.ok.inj same) rfl included

theorem Sections.exists_merkle (given : opts.pkg.balanceInclusion.isSome = true) :
    ∃ check ∈ report.checks, check.id = "balanceInclusion.merkle" := by
  rcases Option.isSome_iff_exists.mp given with ⟨claim, found⟩
  rcases sections.exists_inclusion found with ⟨_, _, hashChecks, _, _, _, split⟩
  have named :
      ∃ check ∈ sections.inclusion, check.id = "balanceInclusion.merkle" := by
    rw [split]
    exact ⟨_, List.mem_append_right _ (List.mem_singleton_self _), rfl⟩
  rcases named with ⟨check, member, same⟩
  exact ⟨check, sections.mem_inclusion member, same⟩

theorem Sections.exists_leafHash {claim : PublicBalanceInclusion}
    (found : claim ∈ opts.pkg.balanceInclusion) (given : (claimed claim.leafHash).isSome = true) :
    ∃ check ∈ report.checks, check.id = "balanceInclusion.leafHash" := by
  rcases sections.exists_inclusion found with ⟨_, _, hashChecks, _, _, hashed, split⟩
  rcases Option.isSome_iff_exists.mp given with ⟨text, some⟩
  rw [leafHashCheck, some] at hashed
  rcases bind_eq_ok_iff.mp hashed with ⟨_, _, same⟩
  apply exists_named (Except.ok.inj same) rfl
  intro check member
  apply sections.mem_inclusion
  rw [split]
  exact List.mem_append_left _ member

/-- In a package that names each root once, every claim is accounted for. -/
theorem Sections.accounted (plain : Plain runtime opts.pkg) (part : Part)
    (given : part.Given opts.pkg) : part.Accounted runtime opts.pkg report := by
  have single {id : String} (found : ∃ check ∈ report.checks, check.id = id)
      (examined : part.examinedBy runtime opts.pkg = [id]) :
      part.Accounted runtime opts.pkg report := by
    rcases found with ⟨check, member, named⟩
    refine ⟨check, member, ?_⟩
    rw [examined, named]
    exact List.mem_singleton_self _
  cases part with
  | checkpointRoots =>
    rcases given with ⟨batch, found, lists⟩
    rcases sections.exists_rootChecks found (Or.inl lists) with
      ⟨own, inclusions, _, parts, included⟩
    rcases parts.globalRoot with ⟨check, member, named⟩
    exact single ⟨check, included check member, named⟩ rfl
  | checkpoints =>
    rcases given with ⟨batch, found, lists⟩
    rcases sections.exists_rootChecks found (Or.inr lists) with
      ⟨own, inclusions, ran, parts, included⟩
    by_cases also : listed batch.checkpointRoots = []
    case pos =>
      rcases parts.globalRoot with ⟨check, member, named⟩
      refine ⟨check, included check member, ?_⟩
      have alone : (opts.pkg.proofBatch.all fun batch =>
        listed batch.checkpointRoots = []) = true := by
        rw [show opts.pkg.proofBatch = some batch from found]
        exact decide_eq_true also
      rw [Part.examinedBy, if_pos alone, named]
      exact List.mem_cons_self
    case neg =>
      have none := (plain.proofBatch batch found).oneList also lists
      rw [verifyInclusions, if_neg (not_not.mpr none), if_pos lists] at ran
      rcases bind_eq_ok_iff.mp ran with ⟨leaves, read, same⟩
      have nonempty := (sortedCheckpoints_eq_ok read).1 lists
      rcases List.exists_cons_of_ne_nil nonempty with ⟨first, rest, rfl⟩
      have built := Except.ok.inj same
      rw [List.map_cons, selfInclusionChecks, List.mapIdx_cons] at built
      rcases exists_named built rfl fun check member =>
        included check (parts.included check member) with
        ⟨check, member, named⟩
      refine ⟨check, member, ?_⟩
      rw [Part.examinedBy, named]
      split
      · exact List.mem_cons_of_mem _ (List.mem_singleton_self _)
      · exact List.mem_singleton_self _
  | proofBatchHash =>
    rcases given with ⟨batch, found, hash⟩
    have lists := (plain.proofBatch batch found).rootsListed (Or.inr hash)
    rcases sections.exists_rootChecks found lists with ⟨own, inclusions, _, parts, included⟩
    rcases parts.proofBatchHash with ⟨check, member, named⟩
    exact single ⟨check, included check member, named⟩ rfl
  | inclusionProof i =>
    rcases given with ⟨batch, found, inside⟩
    have some : listed batch.inclusionProofs ≠ [] :=
      List.ne_nil_of_length_pos (lt_of_le_of_lt (Nat.zero_le i) inside)
    have lists := (plain.proofBatch batch found).rootsListed (Or.inl some)
    rcases sections.exists_rootChecks found lists with ⟨own, inclusions, ran, parts, included⟩
    rw [verifyInclusions, if_pos some] at ran
    have named :
        "proofBatch" ++ between ".inclusion[" (toString i) "]" ∈ inclusions.map (·.id) := by
      rw [ids_inclusionChecks ran]
      exact List.mem_map.mpr ⟨((listed batch.inclusionProofs)[i], i),
            List.mk_mem_zipIdx_iff_getElem?.mpr (List.getElem?_eq_getElem inside), rfl⟩
    rcases List.mem_map.mp named with ⟨check, member, same⟩
    exact single ⟨check, included check (parts.included check member), same⟩ rfl
  | entryRoots entry =>
    rcases given with ⟨inside, lists⟩
    rcases sections.exists_entryChecks inside lists with ⟨own, parts, included⟩
    rcases parts.globalRoot with ⟨check, member, named⟩
    exact single ⟨check, included check member, named⟩ rfl
  | entryHash entry =>
    rcases given with ⟨inside, hash⟩
    rcases plain.chainHashes entry inside hash with ⟨other, others, lists, same⟩
    rcases sections.exists_entryChecks others lists with ⟨own, parts, included⟩
    rcases parts.proofBatchHash with ⟨check, member, named⟩
    rw [Part.entryPrefix, same] at named
    exact single ⟨check, included check member, named⟩ rfl
  | balances => exact single (sections.exists_balances given) rfl
  | balanceInclusion => exact single (sections.exists_merkle given) rfl
  | leafHash =>
    rcases given with ⟨claim, found, hash⟩
    exact single (sections.exists_leafHash found hash) rfl
  | settlement => exact single (sections.exists_settlement given) rfl
  | opening =>
    rcases given with ⟨randomness, found, opens⟩
    exact single (sections.exists_opening found opens) rfl
  | goldenSuite =>
    rcases given with ⟨randomness, found, runs⟩
    exact single (sections.exists_golden found runs) rfl

/-- The leaf of a verified report lies under the root that it names. -/
theorem Sections.leafUnder (verified : report.ok = true) {claim : PublicBalanceInclusion}
    (found : claim ∈ opts.pkg.balanceInclusion) :
    LeafUnder viem runtime claim claim.balanceRoot := by
  rcases sections.exists_inclusion found with
    ⟨fields, leafHash, hashChecks, readLeaf, encoded, _, split⟩
  refine ⟨fields, leafHash, readLeaf, encoded, ?_⟩
  have made := sections.passed verified _ (sections.mem_inclusion (by
    rw [split]
    exact List.mem_append_right _ (List.mem_singleton_self _))) rfl
  rw [← verifyMerkleProof_normalizeHex_root]
  exact made

/-- The chain of a verified report is linked. -/
theorem Sections.chainLinked (verified : report.ok = true) :
    ChainLinked runtime (listed opts.pkg.batchChain) := by
  rcases sections.exists_chain with ⟨batches, _, read, _, linked, _, _⟩
  refine ⟨batches, bySequence batches, read, List.perm_insertionSort _ _, ?_⟩
  apply linked
  intro check member made
  exact sections.passed verified check (sections.mem_chain member) made

/-- The run of the claimed batch in a verified report. -/
theorem Sections.exists_passing (verified : report.ok = true)
    {batch : PublicBatch} (found : batch ∈ opts.pkg.proofBatch) : ∃ own,
    Nonempty (BatchRun viem runtime batch "proofBatch" own) ∧
      Passing own := by
  rcases sections.exists_batch found with ⟨own, registry, ran, _, split⟩
  refine ⟨own, exists_batchRun ran, ?_⟩
  intro check member made
  apply sections.passed verified check _ made
  apply sections.mem_batch
  rw [split]
  exact List.mem_append_left _ member

theorem Sections.sound (hashes : LowerCaseHashes viem.toHashPackage)
    (verified : report.ok = true) (plain : Plain runtime opts.pkg) :
    Sound viem runtime opts.pkg report where
  proofBatch := by
    intro batch found
    rcases sections.exists_passing verified found with ⟨own, ⟨run⟩, passed⟩
    exact run.sound hashes passed (plain.proofBatch batch found)
  batchChain := sections.chainLinked verified
  chainAgrees := plain.chainAgrees
  balanceInclusion := by
    intro balances found claim given
    exact (leafUnder_iff_eqHex (sections.leafUnder verified given)).mpr
        (plain.balanceRoots balances found claim given)
  accounted := sections.accounted plain

/-! ## What a sound report leaves to the package -/

/-- A claim that is accounted for by one check is checked with the batch. -/
theorem Sections.own_of_accounted {batch : PublicBatch} (found : batch ∈ opts.pkg.proofBatch)
    {part : Part} {id : String} (accounted : part.Accounted runtime opts.pkg report)
    (examined : part.examinedBy runtime opts.pkg = [id])
    (named : mark id = mark "proofBatch") :
    ∃ own,
      Nonempty (BatchRun viem runtime batch "proofBatch" own) ∧ ∃ check ∈ own, check.id = id := by
  rcases accounted with ⟨check, member, same⟩
  rw [examined] at same
  have same := List.mem_singleton.mp same
  rw [← same] at named
  rcases sections.mem_own found member named with ⟨own, ran, inside⟩
  exact ⟨own, exists_batchRun ran, check, inside, same⟩

/-- Where a report is sound of a batch, the batch names its root once. -/
theorem Sections.batchPlain (verified : report.ok = true)
    (sound : Sound viem runtime opts.pkg report)
    {batch : PublicBatch} (found : batch ∈ opts.pkg.proofBatch) :
    BatchPlain batch := by
  have lists : listed batch.inclusionProofs ≠ [] ∨ (claimed batch.proofBatchHash).isSome = true →
      listed batch.checkpointRoots ≠ [] ∨ listed batch.checkpoints ≠ [] := by
    rintro (proofs | hash)
    · have given : Part.Given opts.pkg (.inclusionProof 0) :=
        ⟨batch, found, List.length_pos_iff.mpr proofs⟩
      rcases sections.own_of_accounted found (sound.accounted _ given) rfl
          (by decide) with ⟨own, ⟨run⟩, named⟩
      exact run.lists_of_named named (by decide)
    · have given : Part.Given opts.pkg .proofBatchHash := ⟨batch, found, hash⟩
      rcases sections.own_of_accounted found (sound.accounted _ given) rfl
          (by decide) with ⟨own, ⟨run⟩, named⟩
      exact run.lists_of_named named (by decide)
  constructor
  case rootsListed => exact lists
  case ownRoot =>
    intro claim member
    rcases sections.exists_passing verified found with ⟨own, ⟨run⟩, passed⟩
    have accepted :=
      run.inclusions_own passed (lists (Or.inl (List.ne_nil_of_mem member))) claim member
    exact (verifyMerkleProof_iff_eqHex accepted).mp
        ((sound.proofBatch batch found).inclusions claim member)
  case oneList =>
    intro roots checkpoints
    by_contra proofs
    have both : ¬ (opts.pkg.proofBatch.all fun batch =>
      listed batch.checkpointRoots = []) = true := by
      rw [show opts.pkg.proofBatch = some batch from found]
      exact fun none => roots (of_decide_eq_true none)
    rcases sections.own_of_accounted found
        (sound.accounted .checkpoints ⟨batch, found, checkpoints⟩)
        (if_neg both) (by decide) with ⟨own, ⟨run⟩, check, member, named⟩
    rcases run.exists_roots (Or.inl roots) with ⟨read, given⟩
    rcases run.ids_some given with ⟨inclusions, included, parts⟩
    rcases parts.others check member with inside | same | same | same | same
    · rw [verifyInclusions, if_pos proofs] at included
      have inside := List.mem_map_of_mem (f := CheckResult.id) inside
      rw [ids_inclusionChecks included] at inside
      rcases List.mem_map.mp inside with ⟨claim, _, same⟩
      rw [named] at same
      exact absurd same (inclusion_ne_selfInclusion claim.2)
    · rw [named] at same
      exact absurd same (by decide)
    · rw [named] at same
      exact absurd same (by decide)
    · rw [named] at same
      exact absurd same (by decide)
    · rw [named] at same
      exact absurd same (by decide)

/-- A check named after the chain's batches is one of them. -/
theorem Sections.mem_entry {check : CheckResult} (member : check ∈ report.checks)
    (named : mark check.id = mark "batchChain") :
    ∃ entry ∈ listed opts.pkg.batchChain, listed entry.checkpointRoots ≠ [] ∧ ∃ own,
        RootChecks (Part.entryPrefix runtime entry) own [] ∧ check ∈ own := by
  have chained : check ∈ sections.chain := by
    rcases sections.cases_mem member with
      batch | chain | other | other | other
    · cases found : opts.pkg.proofBatch with
      | none =>
        have ran := sections.ranBatch
        rw [batchSection, found] at ran
        rw [← Except.ok.inj ran, List.mem_singleton] at batch
        rw [batch] at named
        exact absurd named (by decide)
      | some claim =>
        rcases sections.exists_batch found with ⟨own, registry, ran, begins, split⟩
        rcases exists_batchRun ran with ⟨run⟩
        rw [split] at batch
        rcases List.mem_append.mp batch with inside | inside
        · rw [run.begins (by decide) check inside] at named
          exact absurd named (by decide)
        · rw [begins check inside] at named
          exact absurd named (by decide)
    · exact chain
    · rw [named] at other
      exact absurd other (by decide)
    · rw [named] at other
      exact absurd other (by decide)
    · rw [named] at other
      exact absurd other (by decide)
  rcases sections.exists_chain with ⟨_, entries, _, run, _, _, others⟩
  rcases others check chained with entry | continuity
  · rcases run.sources check entry with ⟨source, inside, lists, own, ran, member⟩
    exact ⟨source, inside, lists, own, ids_entry lists ran, member⟩
  · rw [named] at continuity
    exact absurd continuity (by decide)

/-- Where every hash of the chain is accounted for, its roots are listed. -/
theorem Sections.hashesListed
    (accounted : ∀ part : Part, part.Given opts.pkg → part.Accounted runtime opts.pkg report) :
    HashesListed runtime (listed opts.pkg.batchChain) := by
  intro entry inside hash
  rcases accounted (.entryHash entry) ⟨inside, hash⟩ with ⟨check, member, examined⟩
  have same := List.mem_singleton.mp examined
  have named : mark check.id = mark "batchChain" := by
    rw [same]
    exact mark_entryPrefix _ _
  rcases sections.mem_entry member named with ⟨other, others, lists, own, parts, held⟩
  refine ⟨other, others, lists, ?_⟩
  apply entryPrefix_injective
  rcases parts.others check held with
    none | genesis | nonZero | globalRoot | proofBatchHash
  · cases none
  · exact absurd (genesis.symm.trans same) (ne_of_ends (by decide))
  · exact absurd (nonZero.symm.trans same) (ne_of_ends (by decide))
  · exact absurd (globalRoot.symm.trans same) (ne_of_ends (by decide))
  · exact String.append_left_inj _ |>.mp (proofBatchHash.symm.trans same)

theorem Sections.plain (verified : report.ok = true) (sound : Sound viem runtime opts.pkg report) :
    Plain runtime opts.pkg where
  proofBatch batch found := sections.batchPlain verified sound found
  chainHashes := sections.hashesListed sound.accounted
  chainAgrees := sound.chainAgrees
  balanceRoots := by
    intro balances found claim given
    exact (leafUnder_iff_eqHex (sections.leafUnder verified given)).mp
        (sound.balanceInclusion balances found claim given)

omit sections

end Report

/-! ## A proof under another root -/

namespace Inclusions

def viem : Viem where
  toHashPackage := Commitments.Example.hexPackage
  toBytes := fun text => text
  encodeAbiParameters := fun _ _ => .ok "0x"
  getAddress := .ok

def runtime : Runtime where
  number := fun _ => none
  numberText := fun value => toString value.num
  toLowerCase := id

def verifier : RandomnessVerifier where
  defaultVectorsDir := "vectors"
  runRandomnessVerification := fun _ => .ok ⟨true, 1, 0, []⟩
  verifyCardOpening := fun _ => .ok ⟨false, "0x", "no opening"⟩

theorem lowerCaseHashes : LowerCaseHashes viem.toHashPackage := fun _ => normalizeHex_wordHex _

/-- A batch of one checkpoint. -/
def entry : PublicBatchEntry where
  sequence := .bigint 1
  previousBatchRoot := "0x11"
  globalRoot := "0xa1"
  dataManifestHash := "0x22"
  createdAt := .bigint 7
  proofBatchHash := none
  checkpointRoots := some ["0xa1"]

/-- The batch with an inclusion proof of a leaf, under a root of its own. -/
def packageOf (leaf root : Hex) : PublicVerifyPackage where
  packageId := none
  proofBatch :=
    some
      { toPublicBatchEntry := entry
        checkpoints := none
        inclusionProofs := some [⟨leaf, [], root⟩] }
  batchChain := some [entry]
  balances := none
  balanceInclusion := none
  settlement := none
  randomness := none
  pending := none

def options (pkg : PublicVerifyPackage) : RunWatchtowerOptions where
  pkg := pkg
  batchSource := none
  includeRandomnessGolden := none
  vectorsDir := none

/-- Whether a package is verified. -/
def isVerified (pkg : PublicVerifyPackage) : Bool :=
  (runWatchtower viem runtime verifier (options pkg)).toOption.any (·.ok)

theorem exists_report {pkg : PublicVerifyPackage} (verified : isVerified pkg = true) : ∃ report,
    runWatchtower viem runtime verifier (options pkg) = .ok report ∧ report.ok = true := by
  rw [isVerified] at verified
  cases ran : runWatchtower viem runtime verifier (options pkg) with
  | error =>
    rw [ran] at verified
    cases verified
  | ok report =>
    rw [ran] at verified
    exact ⟨report, rfl, verified⟩

theorem plain_packageOf :
    Plain runtime (packageOf "0xa1" "0xa1") := by
  constructor
  case proofBatch =>
    rintro batch ⟨⟩
    constructor
    case ownRoot =>
      intro claim member
      rw [List.mem_singleton.mp member]
      decide +kernel
    case rootsListed => exact fun _ => Or.inl (by decide)
    case oneList => exact fun _ some => absurd rfl some
  case chainHashes =>
    intro other member hash
    rw [List.mem_singleton.mp member] at hash
    cases hash
  case chainAgrees =>
    rintro batch ⟨⟩ other member own theirs readOwn readTheirs _
    rw [List.mem_singleton.mp member] at readTheirs
    cases Except.ok.inj (readOwn.symm.trans readTheirs)
    constructor
    case createdAt => rfl
    case proofBatchHash =>
      intro hash claimed_ expected given
      rw [show own.proofBatchHash = some hash from claimed_] at given
      cases given
      exact eqHex_iff.mpr rfl
    all_goals exact eqHex_iff.mpr rfl
  case balanceRoots => exact fun _ none => nomatch none

end Inclusions

end Mozetto.Watchtower
