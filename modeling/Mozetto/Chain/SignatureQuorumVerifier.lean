import Mathlib.Data.List.Nodup
import Mathlib.Data.List.Perm.Subperm
import Mozetto.Chain.Basic
import Mozetto.Library.TransitionSystem

/-!
# SignatureQuorumVerifier

The owner authorises attestors and sets how many of them have to sign a
settlement.  Each signature is resolved to one attestor: the one recovered from
it, or else the first in the list whose wallet accepts it.  Attestors are
counted once, however many signatures resolve to them.
-/

namespace Mozetto.Chain

open Mozetto.Library.Guarded
open Mozetto.Library.Mapping
open Mozetto.Library.TransitionSystem

/-! ## Storage -/

inductive QuorumRevert where
  | ownable (reason : Revert)
  | min
  | ecdsa
deriving DecidableEq, Repr

/-- `ECDSA.recover`, where nothing is a revert, and `SignatureChecker`. -/
structure SignatureChecks where
  recover : Bytes32 → Bytes → Option Address
  isValidSignatureNow : Address → Bytes32 → Bytes → Bool

/-- The zero address is never recovered, and no signature is valid for it. -/
structure SignatureChecks.NeverZero (checks : SignatureChecks) : Prop where
  recover : ∀ digest signature, checks.recover digest signature ≠ some 0
  valid : ∀ digest signature, checks.isValidSignatureNow 0 digest signature = false

structure SignatureQuorumVerifier where
  owner : Address
  attestors : Address → Bool
  attestorList : List Address
  minSignatures : Nat

namespace SignatureQuorumVerifier

/-- The storage after the constructor has run. -/
def constructed (owner : Address) : SignatureQuorumVerifier where
  owner := owner
  attestors := fun _ => false
  attestorList := []
  minSignatures := 2

/-! ## Calls -/

def setAttestor (msg : Msg) (verifier : SignatureQuorumVerifier) (attestor : Address)
    (allowed : Bool) : Except QuorumRevert SignatureQuorumVerifier := do
  (onlyOwner msg verifier.owner).mapError .ownable
  return { verifier with
    attestorList :=
      if allowed && !verifier.attestors attestor then
        verifier.attestorList ++ [attestor]
      else verifier.attestorList
    attestors := write verifier.attestors attestor allowed }

def setMinSignatures (msg : Msg) (verifier : SignatureQuorumVerifier) (minSigs : Nat) :
    Except QuorumRevert SignatureQuorumVerifier := do
  (onlyOwner msg verifier.owner).mapError .ownable
  revertIf (minSigs < 1) .min
  return { verifier with minSignatures := minSigs }

def changeOwner (msg : Msg) (verifier : SignatureQuorumVerifier) (call : OwnableCall) :
    Except QuorumRevert SignatureQuorumVerifier := do
  let owner ← (call.newOwner msg verifier.owner).mapError .ownable
  return { verifier with owner := owner }

inductive Call where
  | setAttestor (attestor : Address) (allowed : Bool)
  | setMinSignatures (minSigs : Nat)
  | ownable (call : OwnableCall)

def step (verifier : SignatureQuorumVerifier) (call : Msg × Call) :
    Except QuorumRevert SignatureQuorumVerifier :=
  match call.2 with
  | .setAttestor attestor allowed =>
      verifier.setAttestor call.1 attestor allowed
  | .setMinSignatures minSigs => verifier.setMinSignatures call.1 minSigs
  | .ownable ownableCall => verifier.changeOwner call.1 ownableCall

def system : System SignatureQuorumVerifier (Msg × Call) QuorumRevert where
  initial verifier := ∃ owner, owner ≠ 0 ∧ verifier = constructed owner
  step := step

/-! ## Verification -/

section Verification

variable (checks : SignatureChecks) (verifier : SignatureQuorumVerifier)
variable (digest : Bytes32)

/-- An authorised attestor whose wallet accepts a signature. -/
def accepts (signature : Bytes) (candidate : Address) : Bool :=
  verifier.attestors candidate && checks.isValidSignatureNow candidate digest signature

/-- The first in the list whose wallet accepts a signature. -/
def scanAttestors (signature : Bytes) : Address :=
  (verifier.attestorList.find? (verifier.accepts checks digest signature)).getD 0

/-- `_resolveSigner`. -/
def resolveSigner (signature : Bytes) : Except QuorumRevert Address :=
  if signature.length = 65 then
    match checks.recover digest signature with
    | none => .error .ecdsa
    | some recovered =>
        if recovered ≠ 0 ∧ verifier.attestors recovered = true then
          .ok recovered
        else .ok (verifier.scanAttestors checks digest signature)
  else .ok (verifier.scanAttestors checks digest signature)

/-- The signer of a signature is counted, unless it is none or was seen. -/
def see (seen : List Address) (signer : Address) : List Address :=
  if signer = 0 ∨ verifier.attestors signer = false then seen
  else if seen.contains signer then seen
  else seen ++ [signer]

/-- The loop of `_hasQuorum`, with the signers that it has seen. -/
def seenSigners : List Address → List Bytes → Except QuorumRevert (List Address)
  | seen, [] => .ok seen
  | seen, signature :: rest =>
      match verifier.resolveSigner checks digest signature with
      | .error reason => .error reason
      | .ok signer => seenSigners (verifier.see seen signer) rest

/-- `_hasQuorum`, which `verify` calls with the decoded signatures. -/
def verify (signatures : List Bytes) : Except QuorumRevert Bool :=
  match verifier.seenSigners checks digest [] signatures with
  | .error reason => .error reason
  | .ok seen => .ok (verifier.minSignatures ≤ seen.length)

end Verification

/-! ## Signers -/

section Signers

variable (checks : SignatureChecks) (verifier : SignatureQuorumVerifier)
variable (digest : Bytes32) (signatures : List Bytes)

/-- An address has signed: it is recovered from the signature, or its wallet
accepts it. -/
def Signs (address : Address) (signature : Bytes) : Prop :=
  signature.length = 65 ∧ checks.recover digest signature = some address ∨
    checks.isValidSignatureNow address digest signature = true

/-- An authorised attestor has signed some entry of a list. -/
def HasSigned (address : Address) : Prop :=
  verifier.attestors address = true ∧
    ∃ signature ∈ signatures, Signs checks digest address signature

/-- So many different authorised attestors have signed entries of the list. -/
def HasSigners (count : Nat) : Prop :=
  ∃ chosen : List Address, chosen.Nodup ∧ chosen.length = count ∧
    ∀ address ∈ chosen, verifier.HasSigned checks digest signatures address

/-- Verification answers, and says whether enough attestors have signed,
however many are required. -/
def CountsSigners : Prop :=
  ∀ minSigs, 1 ≤ minSigs → ∃ answer, ({ verifier with minSignatures := minSigs } :
            SignatureQuorumVerifier).verify checks digest signatures = .ok answer ∧ (answer = true ↔
          verifier.HasSigners checks digest signatures minSigs)

/-- Something is recovered from every entry that has the length of an ECDSA
signature. -/
def AllRecover : Prop :=
  ∀ signature ∈ signatures, signature.length = 65 → (checks.recover digest signature).isSome = true

/-- An entry counts for an attestor: it is recovered from the entry, or no
attestor is and it is the first in the list whose wallet accepts the entry. -/
def CountsFor (signature : Bytes) (address : Address) : Prop :=
  signature.length = 65 ∧ checks.recover digest signature = some address ∨ (signature.length = 65 →
        ∀ recovered ∈ checks.recover digest signature, verifier.attestors recovered = false) ∧
      verifier.attestorList.find? (verifier.accepts checks digest signature) = some address

/-- Every attestor who has signed has an entry that counts for it. -/
def OwnEntries : Prop :=
  ∀ address, verifier.HasSigned checks digest signatures address →
    ∃ signature ∈ signatures, verifier.CountsFor checks digest signature address

/-- Another list with the same entries in any order and number, and with
entries that no attestor has signed. -/
def SameSigned (others : List Bytes) : Prop :=
  (∀ signature ∈ signatures, signature ∈ others) ∧ ∀ signature ∈ others, signature ∈ signatures ∨
      ∀ address, verifier.attestors address = true → ¬ Signs checks digest address signature

end Signers

/-! ## The attestor list -/

/-- Everyone who is authorised is in the list. -/
def Listed (verifier : SignatureQuorumVerifier) : Prop :=
  ∀ address, verifier.attestors address = true → address ∈ verifier.attestorList

theorem listed_step {before after : SignatureQuorumVerifier} {call : Msg × Call}
    (listed : before.Listed) (accepted : before.step call = .ok after) :
    after.Listed := by
  rcases call with ⟨msg, call⟩
  cases call with
  | setAttestor attestor allowed =>
    simp only [step, setAttestor, bind_eq_ok_iff, pure_eq_ok_iff] at accepted
    rcases accepted with ⟨-, -, rfl⟩
    intro address authorised
    by_cases same : address = attestor
    · subst same
      have now : allowed = true := by
        rw [← authorised]
        exact (write_self _ _ _).symm
      cases known : before.attestors address with
      | true =>
        rw [now]
        exact listed address known
      | false =>
        rw [now]
        exact List.mem_append_right _ (List.mem_singleton_self _)
    · have earlier : before.attestors address = true := by
        rw [← authorised]
        exact (write_of_ne _ _ same).symm
      have known := listed address earlier
      dsimp only
      split
      · exact List.mem_append_left _ known
      · exact known
  | setMinSignatures minSigs =>
    simp only [step, setMinSignatures, bind_eq_ok_iff, revertIf_eq_ok_iff,
      exists_const, pure_eq_ok_iff] at accepted
    rcases accepted with ⟨-, -, -, rfl⟩
    exact listed
  | ownable ownableCall =>
    simp only [step, changeOwner, bind_eq_ok_iff, pure_eq_ok_iff] at accepted
    rcases accepted with ⟨-, -, rfl⟩
    exact listed

theorem listed_of_reachable {verifier : SignatureQuorumVerifier}
    (reached : system.Reachable AnyCall verifier) : verifier.Listed := by
  refine @System.Reachable.invariant _ _ _ system AnyCall Listed ?_ ?_ _ reached
  · rintro _ ⟨owner, -, rfl⟩ address authorised
    cases authorised
  · exact fun _ _ _ listed _ accepted => listed_step listed accepted

/-! ## What a signature is resolved to -/

section Resolving

variable {checks : SignatureChecks} {verifier : SignatureQuorumVerifier}
variable {digest : Bytes32} {signature : Bytes} {signatures : List Bytes}
variable {address : Address} {seen : List Address}

theorem scan_eq_iff (never : checks.NeverZero) (nonzero : address ≠ 0) :
    verifier.scanAttestors checks digest signature = address ↔
      verifier.attestorList.find? (verifier.accepts checks digest signature) =
        some address := by
  rw [scanAttestors]
  cases found : verifier.attestorList.find? (verifier.accepts checks digest signature) with
  | none =>
    constructor
    · exact fun same => absurd same.symm nonzero
    · exact fun same => by cases same
  | some first => exact ⟨fun same => congrArg some same, Option.some.inj⟩

/-- A signature that can be resolved is, to whom it counts for. -/
theorem resolveSigner_eq_ok_iff (never : checks.NeverZero) (nonzero : address ≠ 0)
    (authorised : verifier.attestors address = true) :
    verifier.resolveSigner checks digest signature = .ok address ↔ (signature.length = 65 →
          (checks.recover digest signature).isSome = true) ∧
        verifier.CountsFor checks digest signature address := by
  rw [resolveSigner, CountsFor]
  by_cases long : signature.length = 65
  · rw [if_pos long]
    cases recovers : checks.recover digest signature with
    | none =>
      constructor
      · exact fun same => by cases same
      · exact fun both => absurd (both.1 long) Bool.false_ne_true
    | some recovered =>
      have valid : recovered ≠ 0 := by
        rintro rfl
        exact never.recover digest signature recovers
      dsimp only
      by_cases known : verifier.attestors recovered = true
      · rw [if_pos ⟨valid, known⟩]
        constructor
        · rintro ⟨⟩
          exact ⟨fun _ => rfl, .inl ⟨long, rfl⟩⟩
        · rintro ⟨-, ⟨-, ⟨⟩⟩ | ⟨unknown, -⟩⟩
          · rfl
          · rw [unknown long recovered rfl] at known
            cases known
      · rw [if_neg fun both => known both.2]
        constructor
        · intro same
          have scanned := (scan_eq_iff never nonzero).mp (Except.ok.inj same)
          refine ⟨fun _ => rfl, .inr ⟨fun _ => ?_, scanned⟩⟩
          rintro other ⟨⟩
          exact Bool.eq_false_iff.mpr known
        · rintro ⟨-, ⟨-, ⟨⟩⟩ | ⟨-, scanned⟩⟩
          · exact absurd authorised known
          · exact congrArg Except.ok ((scan_eq_iff never nonzero).mpr scanned)
  · rw [if_neg long]
    constructor
    · intro same
      refine ⟨fun short => absurd short long, .inr ⟨fun short => ?_, ?_⟩⟩
      · exact absurd short long
      · exact (scan_eq_iff never nonzero).mp (Except.ok.inj same)
    · rintro ⟨-, ⟨short, -⟩ | ⟨-, scanned⟩⟩
      · exact absurd short long
      · exact congrArg Except.ok ((scan_eq_iff never nonzero).mpr scanned)

/-- A signature fails to resolve where recovery reverts. -/
theorem resolveSigner_isOk_iff :
    (∃ signer, verifier.resolveSigner checks digest signature = .ok signer) ↔
      (signature.length = 65 → (checks.recover digest signature).isSome = true) := by
  rw [resolveSigner]
  by_cases long : signature.length = 65
  · rw [if_pos long]
    cases checks.recover digest signature with
    | none =>
      constructor
      · rintro ⟨_, ⟨⟩⟩
      · exact fun recovers => absurd (recovers long) Bool.false_ne_true
    | some recovered =>
      refine ⟨fun _ _ => rfl, fun _ => ?_⟩
      dsimp only
      split
      · exact ⟨_, rfl⟩
      · exact ⟨_, rfl⟩
  · rw [if_neg long]
    exact ⟨fun _ short => absurd short long, fun _ => ⟨_, rfl⟩⟩

/-- Who a signature counts for has signed it. -/
theorem CountsFor.signs (counts : verifier.CountsFor checks digest signature address) :
    Signs checks digest address signature := by
  rcases counts with recovered | ⟨-, scanned⟩
  · exact .inl recovered
  · have accepted := List.find?_some scanned
    rw [accepts, Bool.and_eq_true] at accepted
    exact .inr accepted.2

/-! ## Who is seen -/

theorem mem_see (never : checks.NeverZero) {signer other : Address} :
    other ∈ verifier.see seen signer ↔ other ∈ seen ∨
        other = signer ∧ signer ≠ 0 ∧ verifier.attestors signer = true := by
  rw [see]
  split
  case isTrue skipped =>
    constructor
    · exact .inl
    · rintro (before | ⟨-, nonzero, authorised⟩)
      · exact before
      · rcases skipped with zero | unauthorised
        · exact absurd zero nonzero
        · rw [unauthorised] at authorised
          cases authorised
  case isFalse counted =>
    rw [not_or, Bool.not_eq_false] at counted
    split
    case isTrue before =>
      constructor
      · exact .inl
      · rintro (before | ⟨rfl, -⟩)
        · exact before
        · exact List.contains_iff_mem.mp before
    case isFalse =>
      rw [List.mem_append, List.mem_singleton]
      exact or_congr_right ⟨fun same => ⟨same, counted⟩, And.left⟩

theorem nodup_see {signer : Address} (distinct : seen.Nodup) :
    (verifier.see seen signer).Nodup := by
  rw [see]
  split
  · exact distinct
  · split
    · exact distinct
    case isFalse unseen =>
      refine List.nodup_append.mpr ⟨distinct, List.nodup_singleton _, ?_⟩
      intro earlier member other last
      rw [List.mem_singleton.mp last]
      rintro rfl
      exact unseen (List.contains_iff_mem.mpr member)

/-- The signers that the loop has seen are those that entries count for. -/
theorem seenSigners_spec (never : checks.NeverZero) (distinct : seen.Nodup)
    (recovers : AllRecover checks digest signatures) : ∃ later,
    verifier.seenSigners checks digest seen signatures = .ok later ∧ later.Nodup ∧
        ∀ address, address ∈ later ↔ address ∈ seen ∨ address ≠ 0 ∧
            verifier.attestors address = true ∧ ∃ signature ∈ signatures,
                verifier.CountsFor checks digest signature address := by
  induction signatures generalizing seen with
  | nil =>
    refine ⟨seen, rfl, distinct, fun address => ?_⟩
    constructor
    · exact .inl
    · rintro (before | ⟨-, -, signature, none, -⟩)
      · exact before
      · cases none
  | cons signature rest induction =>
    have first := recovers signature List.mem_cons_self
    rcases (@resolveSigner_isOk_iff _ verifier _ _).mpr first with ⟨signer, resolved⟩
    rcases induction (@nodup_see verifier _ signer distinct)
        fun other member => recovers other (List.mem_cons_of_mem _ member)
      with ⟨later, found, nodup, members⟩
    refine ⟨later, ?_, nodup, fun address => ?_⟩
    · rw [seenSigners, resolved]
      exact found
    · rw [members, mem_see never]
      constructor
      · rintro ((before | ⟨rfl, nonzero, authorised⟩) |
          ⟨nonzero, authorised, entry, member, counts⟩)
        · exact .inl before
        · have counts := (resolveSigner_eq_ok_iff never nonzero authorised).mp resolved
          exact .inr ⟨nonzero, authorised, signature, List.mem_cons_self, counts.2⟩
        · exact .inr ⟨nonzero, authorised, entry, List.mem_cons_of_mem _ member, counts⟩
      · rintro (before | ⟨nonzero, authorised, entry, member, counts⟩)
        · exact .inl (.inl before)
        · rcases List.mem_cons.mp member with rfl | member
          · have same :=
              (resolveSigner_eq_ok_iff never nonzero authorised).mpr ⟨first, counts⟩
            cases resolved.symm.trans same
            exact .inl (.inr ⟨rfl, nonzero, authorised⟩)
          · exact .inr ⟨nonzero, authorised, entry, member, counts⟩

/-- Where recovery reverts, so does the loop. -/
theorem allRecover_of_seenSigners {later : List Address}
    (found : verifier.seenSigners checks digest seen signatures = .ok later) :
    AllRecover checks digest signatures := by
  induction signatures generalizing seen with
  | nil => exact fun _ member => absurd member List.not_mem_nil
  | cons signature rest induction =>
    rw [seenSigners] at found
    cases resolved : verifier.resolveSigner checks digest signature with
    | error reason =>
      rw [resolved] at found
      cases found
    | ok signer =>
      rw [resolved] at found
      intro other member
      rcases List.mem_cons.mp member with rfl | member
      · exact resolveSigner_isOk_iff.mp ⟨signer, resolved⟩
      · exact induction found other member

/-! ## Counting -/

/-- The threshold is read at the end only. -/
theorem seenSigners_minSignatures (minSigs : Nat) : ({ verifier with minSignatures := minSigs } :
        SignatureQuorumVerifier).seenSigners checks digest seen signatures =
    verifier.seenSigners checks digest seen signatures := by
  induction signatures generalizing seen with
  | nil => rfl
  | cons signature rest induction =>
    have same : ({ verifier with minSignatures := minSigs } :
            SignatureQuorumVerifier).resolveSigner checks digest signature =
        verifier.resolveSigner checks digest signature :=
      rfl
    rw [seenSigners, seenSigners, same]
    cases verifier.resolveSigner checks digest signature with
    | error reason => rfl
    | ok signer => exact induction

/-- Nobody signs for the zero address. -/
theorem HasSigned.nonzero (never : checks.NeverZero)
    (signed : verifier.HasSigned checks digest signatures address) : address ≠ 0 := by
  rintro rfl
  rcases signed.2 with ⟨signature, -, ⟨-, recovered⟩ | valid⟩
  · exact never.recover digest signature recovered
  · rw [never.valid] at valid
    cases valid

/-- The signers that are seen, and what verification answers. -/
theorem exists_seen (never : checks.NeverZero) (recovers : AllRecover checks digest signatures) :
    ∃ seen : List Address, (∀ minSigs, ({ verifier with minSignatures := minSigs } :
              SignatureQuorumVerifier).verify checks digest signatures =
          .ok (decide (minSigs ≤ seen.length))) ∧ seen.Nodup ∧ ∀ address, address ∈ seen ↔
            verifier.HasSigned checks digest signatures address ∧ ∃ signature ∈ signatures,
                verifier.CountsFor checks digest signature address := by
  rcases @seenSigners_spec _ verifier _ _ _ never List.nodup_nil recovers with
    ⟨seen, found, distinct, members⟩
  refine ⟨seen, fun minSigs => ?_, distinct, fun address => ?_⟩
  · rw [verify, seenSigners_minSignatures, found]
  · rw [members]
    constructor
    · rintro (none | ⟨-, authorised, entry, member, counts⟩)
      · cases none
      · exact ⟨⟨authorised, entry, member, counts.signs⟩, entry, member, counts⟩
    · rintro ⟨signed, entry, member, counts⟩
      exact .inr ⟨signed.nonzero never, signed.1, entry, member, counts⟩

end Resolving

/-! ## The law -/

section Law

variable {checks : SignatureChecks} {verifier : SignatureQuorumVerifier}

/-- Verification counts the signers of a list if and only if every entry can be
resolved and every signer has an entry of his own. -/
theorem countsSigners_iff (never : checks.NeverZero) (digest : Bytes32) (signatures : List Bytes) :
    verifier.CountsSigners checks digest signatures ↔ AllRecover checks digest signatures ∧
        verifier.OwnEntries checks digest signatures := by
  constructor
  · intro counts
    have recovers : AllRecover checks digest signatures := by
      rcases counts 1 (Nat.le_refl 1) with ⟨answer, answered, -⟩
      rw [verify, seenSigners_minSignatures] at answered
      cases found : verifier.seenSigners checks digest [] signatures with
      | error reason =>
        rw [found] at answered
        cases answered
      | ok later => exact allRecover_of_seenSigners found
    refine ⟨recovers, fun address signed => ?_⟩
    by_contra without
    rcases @exists_seen _ verifier _ _ never recovers with ⟨seen, answers, distinct, members⟩
    -- With this signer there would be one more than were seen.
    have unseen : address ∉ seen := fun member =>
      without ((members address).mp member).2
    rcases counts (seen.length + 1) (Nat.succ_pos _) with ⟨answer, answered, enough⟩
    cases (answers _).symm.trans answered
    have more : verifier.HasSigners checks digest signatures (seen.length + 1) := by
      refine ⟨address :: seen, List.nodup_cons.mpr ⟨unseen, distinct⟩, rfl, ?_⟩
      intro other member
      rcases List.mem_cons.mp member with rfl | listed
      · exact signed
      · exact ((members other).mp listed).1
    exact Nat.not_succ_le_self _ (of_decide_eq_true (enough.mpr more))
  · rintro ⟨recovers, own⟩ minSigs -
    rcases @exists_seen _ verifier _ _ never recovers with ⟨seen, answers, distinct, members⟩
    refine ⟨_, answers minSigs, ?_⟩
    rw [decide_eq_true_eq]
    constructor
    · intro enough
      refine ⟨seen.take minSigs, distinct.sublist (List.take_sublist _ _),
          List.length_take_of_le enough, fun address member => ?_⟩
      exact ((members address).mp (List.mem_of_mem_take member)).1
    · rintro ⟨chosen, different, rfl, signed⟩
      refine (List.subperm_of_subset different fun address member => ?_).length_le
      have hasSigned := signed address member
      exact (members address).mpr ⟨hasSigned, own address hasSigned⟩

/-- Order, repetitions and entries that nobody signed make no difference,
unless recovery reverts for one of them. -/
theorem verify_eq_iff (never : checks.NeverZero) {digest : Bytes32} {signatures others : List Bytes}
    (same : verifier.SameSigned checks digest signatures others)
    (recovers : AllRecover checks digest signatures) : verifier.verify checks digest others =
      verifier.verify checks digest signatures ↔
    AllRecover checks digest others := by
  rcases @exists_seen _ verifier _ _ never recovers with ⟨seen, answers, distinct, members⟩
  have answered : verifier.verify checks digest signatures = .ok _ := answers verifier.minSignatures
  constructor
  · intro equal
    rw [answered, verify] at equal
    cases found : verifier.seenSigners checks digest [] others with
    | error reason =>
      rw [found] at equal
      cases equal
    | ok later => exact allRecover_of_seenSigners found
  · intro recovers'
    rcases @exists_seen _ verifier _ _ never recovers' with ⟨seen', answers', distinct', members'⟩
    have answered' : verifier.verify checks digest others = .ok _ := answers' verifier.minSignatures
    have together : seen'.length = seen.length := by
      refine (List.Perm.length_eq ?_)
      refine (List.perm_ext_iff_of_nodup distinct' distinct).mpr ?_
      intro address
      rw [members, members']
      constructor
      · rintro ⟨⟨authorised, -⟩, entry, member, counts⟩
        rcases same.2 entry member with kept | nobody
        · exact ⟨⟨authorised, entry, kept, counts.signs⟩, entry, kept, counts⟩
        · exact absurd counts.signs (nobody address authorised)
      · rintro ⟨⟨authorised, -⟩, entry, member, counts⟩
        have kept := same.1 entry member
        exact ⟨⟨authorised, entry, kept, counts.signs⟩, entry, kept, counts⟩
    rw [answered, answered', together]

/--
In every state of the verifier it counts the distinct authorised attestors who
signed entries of a list, and answers for every threshold, exactly when recovery
reverts for no entry and every such attestor has an entry that counts for him;
and the order of the list, repetitions and entries that nobody signed make a
difference only where recovery reverts for one of them.
-/
theorem quorum_counts_signers
    (never : checks.NeverZero)
    (reached : system.Reachable AnyCall verifier) (digest : Bytes32)
    (signatures : List Bytes) :
    verifier.Listed ∧
      (verifier.CountsSigners checks digest signatures ↔
        AllRecover checks digest signatures ∧
          verifier.OwnEntries checks digest signatures) ∧
        ∀ others, verifier.SameSigned checks digest signatures others →
          AllRecover checks digest signatures →
            (verifier.verify checks digest others =
                verifier.verify checks digest signatures ↔
              AllRecover checks digest others) :=
  ⟨listed_of_reachable reached, countsSigners_iff never digest signatures,
    fun _ same recovers => verify_eq_iff never same recovers⟩

end Law

namespace Replays

/-- The addresses 7 and 8 sign by putting their number first; the wallet 9
accepts one signature. -/
def plainChecks : SignatureChecks where
  recover _ signature :=
    match signature.head? with
    | some 7 => some 7
    | some 8 => some 8
    | _ => none
  isValidSignatureNow address _ signature := address = 9 ∧ signature = [9]

theorem plainChecks_neverZero : plainChecks.NeverZero where
  recover _ signature := by
    dsimp only [plainChecks]
    split <;> decide
  valid _ _ := rfl

/-- A signature of the length of an ECDSA signature. -/
def signatureOf (signer : Nat) : Bytes := signer :: List.replicate 64 0

/-- The owner authorises three attestors and revokes one of them. -/
def grants : List (Msg × Call) :=
  [7, 8, 9].map (fun attestor =>
      (.plain 1 1 (by decide) (by decide), .setAttestor attestor true)) ++
    [(.plain 1 2 (by decide) (by decide), .setAttestor 8 false)]

def granted : SignatureQuorumVerifier where
  owner := 1
  attestors :=
    write (write (write (write (fun _ => false) 7 true) 8 true) 9 true) 8 false
  attestorList := [7, 8, 9]
  minSignatures := 2

theorem granted_reachable : system.Reachable AnyCall granted := by
  have start : system.Reachable AnyCall (constructed 1) := .start ⟨1, by decide, rfl⟩
  have replayed : system.replay AnyCall (constructed 1) grants = some granted := rfl
  exact start.replay replayed

theorem quorum_counts_signers_granted :
    granted.verify plainChecks 5 [signatureOf 7, [9], signatureOf 7, [1]] =
        .ok true ∧
      (granted.CountsSigners plainChecks 5
          [signatureOf 7, [9], signatureOf 7, [1]] ↔
        AllRecover plainChecks 5 [signatureOf 7, [9], signatureOf 7, [1]] ∧
          granted.OwnEntries plainChecks 5
            [signatureOf 7, [9], signatureOf 7, [1]]) :=
  ⟨by decide,
    (quorum_counts_signers plainChecks_neverZero granted_reachable 5
      [signatureOf 7, [9], signatureOf 7, [1]]).2.1⟩

/-- One malformed entry of 65 bytes stops verification, though two attestors
have signed. -/
theorem malformed_entry_aborts :
    ¬ ∀ (checks : SignatureChecks) (verifier : SignatureQuorumVerifier),
        checks.NeverZero → system.Reachable AnyCall verifier →
          ∀ (digest : Bytes32) (signatures : List Bytes),
            verifier.CountsSigners checks digest signatures := by
  intro claimed
  have counts :=
    claimed plainChecks granted plainChecks_neverZero granted_reachable 5
      [signatureOf 7, [9], signatureOf 3]
  rcases counts 2 (by decide) with ⟨answer, answered, -⟩
  have aborts :
      ({ granted with minSignatures := 2 } :
            SignatureQuorumVerifier).verify plainChecks 5
          [signatureOf 7, [9], signatureOf 3] =
        .error .ecdsa := by
    decide
  cases aborts.symm.trans answered

end Replays

end SignatureQuorumVerifier

end Mozetto.Chain
