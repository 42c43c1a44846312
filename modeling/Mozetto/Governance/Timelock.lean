import Mozetto.Governance.ExactArguments

/-!
# Proposals through a timelock

A proposal sends the call of an action to the Safe, directly or wrapped as a
scheduled call of a timelock controller, which is executed by another
proposal.  The texts of a proposal for its readers, and the check of these
texts for key material, are left out.
-/

namespace Mozetto.Governance

open Mozetto.EventStore (AbiValue Hex)
open Mozetto.Library.AbiEncoding (Item)
open Mozetto.Library.Guarded
open Mozetto.Outbox (JsNumber JsValue Payload Runtime)

variable (viem : Viem) (runtime : Runtime)

/-! ## Scheduled calls -/

structure TimelockScheduleParams where
  target : Hex
  value : Int
  data : Hex
  predecessor : Hex
  salt : Hex
  delay : Int

def deriveTimelockSalt (label : String) (nonce : Nat) : Hex :=
  viem.keccak256 (viem.encodeAbiParameters label nonce)

def ZERO_PREDECESSOR : Hex := zeroHash

/-- The values that the identifier of an operation is the hash of. -/
def TimelockScheduleParams.operation (params : TimelockScheduleParams) :
    List AbiValue :=
  [.hex params.target, .number params.value, .hex params.data,
    .hex params.predecessor, .hex params.salt]

def buildTimelockScheduleCall (timelock : Hex) (params : TimelockScheduleParams) :
    Except EncodeError EncodedCall := do
  let data ← (viem.encodeFunctionData TIMELOCK_CONTROLLER_ABI.schedule
      (params.operation ++ [.number params.delay])).mapError .refused
  return ⟨.timelockSchedule, timelock, data, "0", true⟩

/-- `BigInt` of a delay in seconds. -/
def bigIntOfDelay : JsNumber → Except EncodeError Int
  | .finite value => bigIntOfNumber runtime value
  | other => .error (.notAnInteger (JsValue.numberString runtime other))

structure ScheduleOptions where
  salt : Option Hex
  predecessor : Option Hex
  nonce : Option Nat

/-- `BigInt(inner.value || "0")`. -/
def bigIntOfValue (value : String) : Except EncodeError Int :=
  match bigIntOfText (if value = "" then "0" else value) with
  | some number => .ok number
  | none => .error (.refused ("Cannot convert " ++ value ++ " to a BigInt"))

def wrapWithTimelockSchedule (timelock : Hex) (inner : EncodedCall) (delaySec : JsNumber)
    (opts : ScheduleOptions) : Except EncodeError EncodedCall := do
  let value ← bigIntOfValue inner.value
  let delay ← bigIntOfDelay runtime delaySec
  buildTimelockScheduleCall viem timelock
    { target := inner.target
      value
      data := inner.data
      predecessor := opts.predecessor.getD ZERO_PREDECESSOR
      salt :=
        opts.salt.getD (deriveTimelockSalt viem inner.actionId.name (opts.nonce.getD 0))
      delay }

/-! ## Proposals -/

inductive ProposalMode where
  | direct
  | timelockController
deriving DecidableEq

structure BuildProposalInput where
  actionId : ActionId
  target : String
  args : Payload
  chainId : Nat
  mode : Option ProposalMode
  timelockAddress : Option Hex
  timelockDelaySec : Option JsNumber
  timelockSalt : Option Hex
  timelockPredecessor : Option Hex

structure SafeTxData where
  target : Hex
  value : String
  data : Hex
  operation : Nat
deriving DecidableEq

def toSafeTx (call : EncodedCall) : SafeTxData := ⟨call.target, call.value, call.data, 0⟩

structure GovernanceProposal where
  actionId : ActionId
  chainId : Nat
  mode : ProposalMode
  inner : EncodedCall
  safeTx : SafeTxData
  containsPrivateKeys : Bool

inductive ProposalError where
  | encode (err : EncodeError)
  | timelockAddressRequired

def ProposalError.message : ProposalError → String
  | .encode err => err.message
  | .timelockAddressRequired =>
    "mode=timelockController requires timelockAddress"

/-- The call that the Safe approves. -/
def safeCall (input : BuildProposalInput) (inner : EncodedCall) :
    Except ProposalError EncodedCall :=
  match input.mode.getD .direct with
  | .direct => .ok inner
  | .timelockController =>
    match input.timelockAddress with
    | none => .error .timelockAddressRequired
    | some timelock =>
      if timelock = "" then .error .timelockAddressRequired
      else
        (wrapWithTimelockSchedule viem runtime timelock inner
          (input.timelockDelaySec.getD (.finite 86400))
          ⟨input.timelockSalt, input.timelockPredecessor, none⟩).mapError .encode

def buildGovernanceProposal (input : BuildProposalInput) :
    Except ProposalError GovernanceProposal := do
  let inner ← (encodeOwnerAction viem runtime input.actionId input.target
      input.args).mapError .encode
  let call ← safeCall viem runtime input inner
  return {
    actionId := input.actionId
    chainId := input.chainId
    mode := input.mode.getD .direct
    inner
    safeTx := toSafeTx call
    containsPrivateKeys := false }

/-! ## What is scheduled -/

variable {viem runtime}
variable {input : BuildProposalInput} {proposal : GovernanceProposal}
variable {timelock : String} {params : TimelockScheduleParams}

/-- What a proposal through a timelock schedules. -/
structure Schedules (viem : Viem) (runtime : Runtime) (input : BuildProposalInput)
    (proposal : GovernanceProposal) (params : TimelockScheduleParams) : Prop where
  inner : encodeOwnerAction viem runtime input.actionId input.target input.args = .ok proposal.inner
  target : params.target = proposal.inner.target
  value : params.value = 0
  data : params.data = proposal.inner.data
  predecessor : params.predecessor = input.timelockPredecessor.getD ZERO_PREDECESSOR
  salt : params.salt = input.timelockSalt.getD
        (deriveTimelockSalt viem proposal.inner.actionId.name 0)
  encoded : viem.encodeFunctionData TIMELOCK_CONTROLLER_ABI.schedule
        (params.operation ++ [.number params.delay]) = .ok proposal.safeTx.data

theorem exists_schedules (mode : input.mode = some .timelockController)
    (built : buildGovernanceProposal viem runtime input = .ok proposal) :
    ∃ params, Schedules viem runtime input proposal params := by
  simp only [buildGovernanceProposal, bind_eq_ok_iff, mapError_eq_ok_iff, pure_eq_ok_iff] at built
  rcases built with ⟨inner, encoded, call, wrapped, rfl⟩
  have zero : inner.value = "0" := by
    rcases encodeOwnerAction_eq_ok_iff.mp encoded with ⟨-, -, -, -, -, rfl⟩
    rfl
  simp only [safeCall, mode, Option.getD_some] at wrapped
  split at wrapped
  · cases wrapped
  · split at wrapped
    · cases wrapped
    · rw [mapError_eq_ok_iff, wrapWithTimelockSchedule, zero] at wrapped
      simp only [bind_eq_ok_iff, buildTimelockScheduleCall,
        mapError_eq_ok_iff, pure_eq_ok_iff] at wrapped
      rcases wrapped with ⟨value, read, delay, seconds, data, scheduled, rfl⟩
      have nothing : value = 0 := by
        have known : bigIntOfValue "0" = .ok 0 := by decide
        rw [known] at read
        cases read
        rfl
      subst nothing
      exact ⟨_, encoded, rfl, rfl, rfl, rfl, rfl, scheduled⟩

/-! ## The execution of what is scheduled -/

/-- The arguments of the execution, taken from what was scheduled. -/
def TimelockScheduleParams.executeArgs (params : TimelockScheduleParams) :
    Payload :=
  [("target", .string params.target), ("value", .bigint params.value),
    ("data", .string params.data),
    ("predecessor", .string params.predecessor),
    ("salt", .string params.salt)]

/-- What the identifier of an operation is the hash of, in the calldata of a
schedule or of an execution. -/
def operationOf : Option (AbiFunction × List Item) → Option (List Item)
  | some (fn, items) =>
    if fn = TIMELOCK_CONTROLLER_ABI.schedule then some (items.take 5)
    else if fn = TIMELOCK_CONTROLLER_ABI.execute then some items
    else none
  | none => none

/-- Texts that the encoder of executions does not replace. -/
structure Kept (viem : Viem) (params : TimelockScheduleParams) : Prop where
  data : viem.isHex params.data = true ∨ params.data = "0x"
  predecessor : viem.isHex params.predecessor = true ∨ params.predecessor = zeroHash
  salt : viem.isHex params.salt = true ∧ params.salt.length = 66 ∨ params.salt = zeroHash

theorem hexOr_eq_iff {fallback text : Hex} : hexOr viem fallback (.string text) = text ↔
    viem.isHex text = true ∨ text = fallback := by
  rw [hexOr]
  by_cases hex : viem.isHex text = true
  · simp [hex]
  · simp [hex, eq_comm]

theorem saltOr_eq_iff {fallback text : Hex} : saltOr viem fallback (.string text) = text ↔
    viem.isHex text = true ∧ text.length = 66 ∨ text = fallback := by
  rw [saltOr]
  by_cases hex : viem.isHex text = true ∧ text.length = 66
  · rw [if_pos hex]
    exact iff_of_true rfl (.inl hex)
  · rw [if_neg hex, or_iff_right hex]
    exact eq_comm

end Mozetto.Governance

/-!
## The execution of what was scheduled

An execution that is encoded from the target, value, data, predecessor and
salt of a scheduled call has the same operation, as long as its encoder does
not replace one of the texts by a default.  Words and whole bytes are not
replaced.
-/

namespace Mozetto.Governance

open Mozetto.EventStore (AbiValue Hex)
open Mozetto.Library.AbiEncoding (Item)
open Mozetto.Library.Guarded
open Mozetto.Outbox (JsNumber JsValue Payload Runtime)

variable {viem : Viem} {runtime : Runtime}
variable {input : BuildProposalInput} {proposal : GovernanceProposal}
variable {timelock : String} {params : TimelockScheduleParams}

/-! ### Executions -/

/-- What the encoder of executions reads. -/
theorem readArguments_executeArgs (known : viem.isAddress params.target = true)
    (same : viem.getAddress params.target = params.target) :
    readArguments viem runtime params.executeArgs operationArguments = .ok
        [.hex params.target, .number params.value,
          .hex (hexOr viem "0x" (.string params.data)),
          .hex (hexOr viem zeroHash (.string params.predecessor)),
          .hex (saltOr viem zeroHash (.string params.salt))] := by
  have target :
      (Argument.address "target").read viem runtime
          (JsValue.get params.executeArgs "target") =
        .ok (.hex params.target) := by
    show (AbiValue.hex <$> requireAddress viem runtime (.string params.target) _) = _
    rw [requireAddress, if_pos known, same]
    rfl
  simp only [readArguments, operationArguments, List.mapM_cons, List.mapM_nil]
  rw [show (Argument.address "target").field = "target" from rfl, target]
  rfl

/-- The encoder of executions is given the operation that was scheduled
exactly if it keeps its texts. -/
theorem readArguments_executeArgs_iff (known : viem.isAddress params.target = true)
    (same : viem.getAddress params.target = params.target) :
    readArguments viem runtime params.executeArgs operationArguments = .ok params.operation ↔
      Kept viem params := by
  rw [readArguments_executeArgs known same, TimelockScheduleParams.operation]
  simp only [Except.ok.injEq, List.cons.injEq, AbiValue.hex.injEq, true_and,
    and_true, hexOr_eq_iff, saltOr_eq_iff]
  constructor
  · rintro ⟨data, predecessor, salt⟩
    exact ⟨data, predecessor, salt⟩
  · rintro ⟨data, predecessor, salt⟩
    exact ⟨data, predecessor, salt⟩

/-- The texts of the operation are whole bytes. -/
structure WholeBytes (params : TimelockScheduleParams) : Prop where
  data : (readBytes params.data).isSome = true
  predecessor : (readBytes params.predecessor).isSome = true
  salt : (readBytes params.salt).isSome = true

/-- An execution repeats a proposal through a timelock. -/
structure Executes (viem : Viem) (runtime : Runtime) (proposal : GovernanceProposal)
    (params : TimelockScheduleParams) : Prop where
  passed : readArguments viem runtime params.executeArgs operationArguments = .ok params.operation ↔
      Kept viem params
  same : WholeBytes params → ∀ timelock, viem.isAddress timelock = true → ∃ executed operation,
          encodeOwnerAction viem runtime .timelockExecute timelock
              params.executeArgs = .ok executed ∧
            operationOf (viem.decodeFunctionData executed.data) = some operation ∧
            operationOf (viem.decodeFunctionData proposal.safeTx.data) = some operation

theorem Schedules.target_eq (recognises : viem.Recognises)
    (schedules : Schedules viem runtime input proposal params) :
    viem.isAddress params.target = true ∧ viem.getAddress params.target = params.target := by
  rcases encodeOwnerAction_eq_ok_iff.mp schedules.inner with ⟨known, values, data, -, -, same⟩
  have checked := recognises.getAddress input.target known
  rw [schedules.target, ← same]
  exact ⟨checked.1, checked.2.1⟩

/-- Texts of whole bytes that are taken as words write words. -/
theorem exists_word (encodes : viem.Encodes) {text : Hex} (whole : (readBytes text).isSome = true)
    (taken : viem.fits .bytes32 (.hex text) = true) : ∃ item, readWord 64 text = some item := by
  rw [encodes.bytes32 text whole] at taken
  exact Option.isSome_iff_exists.mp taken

theorem kept_of_wholeBytes (recognises : viem.Recognises) (encodes : viem.Encodes)
    (whole : WholeBytes params) (salt : viem.fits .bytes32 (.hex params.salt) = true) :
    Kept viem params := by
  rcases Option.isSome_iff_exists.mp whole.data with ⟨data, wroteData⟩
  rcases Option.isSome_iff_exists.mp whole.predecessor with ⟨predecessor, wrotePredecessor⟩
  rcases exists_word encodes whole.salt salt with ⟨word, wroteSalt⟩
  exact ⟨.inl (recognised_of_readBytes recognises wroteData),
      .inl (recognised_of_readBytes recognises wrotePredecessor),
      .inl (recognised_of_readWord recognises wroteSalt)⟩

theorem Schedules.executes (recognises : viem.Recognises) (encodes : viem.Encodes)
    (schedules : Schedules viem runtime input proposal params) :
    Executes viem runtime proposal params := by
  rcases schedules.target_eq recognises with ⟨known, same⟩
  refine ⟨readArguments_executeArgs_iff known same, ?_⟩
  intro whole timelock address
  have member : TIMELOCK_CONTROLLER_ABI.schedule ∈ FUNCTIONS := by decide
  have executable : TIMELOCK_CONTROLLER_ABI.execute ∈ FUNCTIONS := by decide
  have fits := (encodes.taken _ member _).mp ⟨proposal.safeTx.data, schedules.encoded⟩
  simp only [TIMELOCK_CONTROLLER_ABI.schedule,
    TimelockScheduleParams.operation, List.cons_append, List.nil_append,
    List.forall₂_cons, List.forall₂_nil_left_iff] at fits
  rcases fits with ⟨first, value, data, predecessor, salt, delay, -⟩
  rcases Option.isSome_iff_exists.mp (recognises.isAddress _ known) with ⟨targetItem, wroteTarget⟩
  rcases Option.isSome_iff_exists.mp whole.data with ⟨dataItem, wroteData⟩
  rcases exists_word encodes whole.predecessor predecessor with ⟨predecessorItem, wrotePredecessor⟩
  rcases exists_word encodes whole.salt salt with ⟨saltItem, wroteSalt⟩
  have valueNonneg := ((encodes.uint _ _).mp value).1
  have delayNonneg := ((encodes.uint _ _).mp delay).1
  have reads : readArguments viem runtime params.executeArgs operationArguments =
      .ok params.operation :=
    (readArguments_executeArgs_iff known same).mpr
      (kept_of_wholeBytes recognises encodes whole salt)
  have taken : List.Forall₂ (fun type value => viem.fits type value = true)
      TIMELOCK_CONTROLLER_ABI.execute.inputs params.operation :=
    .cons first
      (.cons value (.cons data (.cons predecessor (.cons salt .nil))))
  rcases (encodes.taken _ executable _).mpr taken with ⟨calldata, encoded⟩
  have means : meanings TIMELOCK_CONTROLLER_ABI.execute.inputs params.operation = some
        [targetItem, .word params.value.toNat, dataItem, predecessorItem, saltItem] := by
    simp [meanings, meaning, TIMELOCK_CONTROLLER_ABI.execute,
      TimelockScheduleParams.operation, wroteTarget, valueNonneg, wroteData,
      wrotePredecessor, wroteSalt]
  have meansSchedule : meanings TIMELOCK_CONTROLLER_ABI.schedule.inputs
        (params.operation ++ [.number params.delay]) = some
        [targetItem, .word params.value.toNat, dataItem, predecessorItem,
          saltItem, .word params.delay.toNat] := by
    simp [meanings, meaning, TIMELOCK_CONTROLLER_ABI.schedule,
      TimelockScheduleParams.operation, wroteTarget, valueNonneg, wroteData,
      wrotePredecessor, wroteSalt, delayNonneg]
  refine
    ⟨⟨.timelockExecute, viem.getAddress timelock, calldata, "0", false⟩,
      [targetItem, .word params.value.toNat, dataItem, predecessorItem, saltItem],
      encodeOwnerAction_eq_ok_iff.mpr
        ⟨address, params.operation, calldata, reads, encoded, rfl⟩, ?_, ?_⟩
  · rw [encodes.decoded _ executable _ _ _ means encoded]
    rfl
  · rw [encodes.decoded _ member _ _ _ meansSchedule schedules.encoded]
    rfl

/-! ### Well-formed inputs -/

/-- The calldata of sound arguments is whole bytes. -/
theorem wholeBytes_of_sound (recognises : viem.Recognises) (encodes : viem.Encodes)
    {actionId : ActionId} {target : String} {args : Payload} {call : EncodedCall}
    (ok : encodeOwnerAction viem runtime actionId target args = .ok call)
    (sound : ∀ argument ∈ (ENCODERS actionId).arguments,
        argument.Sound (JsValue.get args argument.field)) :
    (readBytes call.data).isSome = true := by
  have types := types_ENCODERS actionId
  rcases encodeOwnerAction_eq_ok_iff.mp ok with ⟨-, values, data, reads, encoded, rfl⟩
  have fits := (encodes.taken _ types.1 values).mp ⟨data, encoded⟩
  rw [← types.2] at fits
  rcases exists_items recognises encodes (wellTyped_ENCODERS actionId) reads fits sound with
    ⟨items, written, -⟩
  rw [types.2] at written
  exact encodes.wholeBytes _ types.1 values items data written encoded

/-- The texts that were given for a timelock are whole bytes. -/
structure WholeTexts (input : BuildProposalInput) : Prop where
  salt : ∀ text ∈ input.timelockSalt, (readBytes text).isSome = true
  predecessor : ∀ text ∈ input.timelockPredecessor, (readBytes text).isSome = true

/-- A word is whole bytes. -/
theorem wholeBytes_of_word {text : Hex} (word : (readWord 64 text).isSome = true) :
    (readBytes text).isSome = true := by
  rcases Option.isSome_iff_exists.mp word with ⟨item, written⟩
  rcases readWord_eq_some_iff.mp written with ⟨digits, read, width, -⟩
  exact Option.isSome_iff_exists.mpr
      ⟨.bytes digits, readBytes_eq_some_iff.mpr ⟨digits, read, by omega, rfl⟩⟩

theorem Schedules.wholeBytes (recognises : viem.Recognises) (encodes : viem.Encodes)
    (schedules : Schedules viem runtime input proposal params)
    (sound : ∀ argument ∈ (ENCODERS input.actionId).arguments,
        argument.Sound (JsValue.get input.args argument.field))
    (texts : WholeTexts input) : WholeBytes params where
  data := by
    rw [schedules.data]
    exact wholeBytes_of_sound recognises encodes schedules.inner sound
  predecessor := by
    rw [schedules.predecessor]
    cases given : input.timelockPredecessor with
    | none => decide
    | some text => exact texts.predecessor text given
  salt := by
    rw [schedules.salt]
    cases given : input.timelockSalt with
    | none => exact wholeBytes_of_word (recognises.keccak256 _)
    | some text => exact texts.salt text given

/-! ### What the Safe signs -/

/-- Proposals through a timelock schedule an operation that can be executed
from its parts. -/
structure Proposes (viem : Viem) (runtime : Runtime) (input : BuildProposalInput)
    (proposal : GovernanceProposal) : Prop where
  scheduled : ∃ params, Schedules viem runtime input proposal params ∧
      Executes viem runtime proposal params ∧ ((∀ argument ∈ (ENCODERS input.actionId).arguments,
          argument.Sound (JsValue.get input.args argument.field)) →
        WholeTexts input → WholeBytes params)

/--
An action is encoded as it was asked exactly if it is refused anyway or its
arguments are sound; what a proposal schedules is what its execution executes,
exactly if the texts are kept, which whole bytes are.
-/
theorem governance_signs_what_was_asked
    (recognises : viem.Recognises) (encodes : viem.Encodes) :
    (∀ actionId target args,
      EncodesAsked viem runtime actionId target args ↔
        RefusedAnyway viem runtime actionId target args ∨
          ∀ argument ∈ (ENCODERS actionId).arguments,
            argument.Sound (JsValue.get args argument.field)) ∧
      ∀ input proposal, input.mode = some .timelockController →
        buildGovernanceProposal viem runtime input = .ok proposal →
          Proposes viem runtime input proposal := by
  refine
    ⟨fun actionId target args => encodesAsked_iff recognises encodes, ?_⟩
  intro input proposal mode built
  rcases exists_schedules mode built with ⟨params, schedules⟩
  exact
    ⟨params, schedules, schedules.executes recognises encodes,
      schedules.wholeBytes recognises encodes⟩

end Mozetto.Governance
