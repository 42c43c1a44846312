import Mozetto.Chain.Token

/-!
# ArenaAccount

The per-owner custody contract: the game permission of its owner, the
exposure it keeps for every open session, and the vault-only calls that lock
and release buy-ins.
-/

namespace Mozetto.Chain

open Mozetto.Library.Guarded
open Mozetto.Library.Mapping

/-- The active game permission together with its usage counters. -/
structure GameAuth where
  sessionSigner : Address
  usdc : Address
  vault : Address
  gameTemplateId : Bytes32
  leagueMask : Nat
  lifetimeCommittedCap : Nat
  lifetimeCommitted : Nat
  maxTotalAtRisk : Nat
  activeAtRisk : Nat
  maxSingleBuyIn : Nat
  validUntil : Nat
  maxConcurrentGames : Nat
  activeGames : Nat
  ratedOnly : Bool
  enabled : Bool
deriving DecidableEq, Repr, Inhabited

/-- The storage of one account. -/
structure ArenaAccount where
  owner : Address
  pendingOwner : Address
  factory : Address
  gameAuth : GameAuth
  gameAuthNonce : Nat
  sessionExposure : Bytes32 → Nat
  sessionVault : Bytes32 → Address
deriving Inhabited

/-- The arguments of `setGamePermission`. -/
structure GamePermission where
  sessionSigner : Address
  usdc : Address
  vault : Address
  gameTemplateId : Bytes32
  leagueMask : Nat
  lifetimeCommittedCap : Nat
  maxTotalAtRisk : Nat
  maxSingleBuyIn : Nat
  validUntil : Nat
  maxConcurrentGames : Nat
  ratedOnly : Bool
  nonce : Nat
  enabled : Bool
  signature : Bytes

namespace ArenaAccount

/-- A freshly cloned account after `initialize`. -/
def initializeAccount (owner factory : Address) : ArenaAccount where
  owner := owner
  pendingOwner := 0
  factory := factory
  gameAuth := default
  gameAuthNonce := 0
  sessionExposure := fun _ => 0
  sessionVault := fun _ => 0

/-- `GAME_PERMISSION_TYPEHASH`. -/
def gamePermissionTypehash (deployment : Deployment) : Bytes32 :=
  deployment.keccak256 (utf8
      ("GamePermission(address account,address sessionSigner,address usdc," ++
        "address vault,bytes32 gameTemplateId,uint32 leagueMask," ++
        "uint256 lifetimeCommittedCap,uint256 maxTotalAtRisk," ++
        "uint256 maxSingleBuyIn,uint64 validUntil," ++
        "uint16 maxConcurrentGames,bool ratedOnly,uint256 nonce,bool enabled)"))

/-- The EIP-712 digest an owner signs for a permission. -/
def permissionDigest (deployment : Deployment) (self : Address)
    (permission : GamePermission) : Bytes32 :=
  hashTypedDataV4 deployment "MozettoArenaAccount" "1" self (deployment.keccak256 (abiEncode
        [gamePermissionTypehash deployment, self, permission.sessionSigner,
          permission.usdc, permission.vault, permission.gameTemplateId,
          permission.leagueMask, permission.lifetimeCommittedCap,
          permission.maxTotalAtRisk, permission.maxSingleBuyIn,
          permission.validUntil, permission.maxConcurrentGames,
          boolWord permission.ratedOnly, permission.nonce, boolWord permission.enabled]))

/-- `_clearPermissionAuthority`: exposure counters stay. -/
def clearPermissionAuthority (account : ArenaAccount) : ArenaAccount :=
  { account with
    gameAuth := { account.gameAuth with
      sessionSigner := 0
      usdc := 0
      vault := 0
      gameTemplateId := 0
      leagueMask := 0
      lifetimeCommittedCap := 0
      maxTotalAtRisk := 0
      maxSingleBuyIn := 0
      validUntil := 0
      maxConcurrentGames := 0
      ratedOnly := false
      enabled := false } }

def setGamePermission (deployment : Deployment) (msg : Msg) (self : Address)
    (account : ArenaAccount) (permission : GamePermission) :
    Except Revert ArenaAccount := do
  revertIf (permission.nonce ≠ account.gameAuthNonce) .badNonce
  let digest := permissionDigest deployment self permission
  revertIf (msg.isValidSignatureNow account.owner digest permission.signature = false) .badSignature
  let nonce ← checkedAdd permission.nonce 1
  let bumped := { account with gameAuthNonce := nonce }
  if permission.enabled = false then
    return bumped.clearPermissionAuthority
  else
    revertIf (permission.sessionSigner = 0 ∨ permission.usdc = 0 ∨ permission.vault = 0)
      .zeroAddress
    revertIf (permission.lifetimeCommittedCap = 0 ∨ permission.maxTotalAtRisk = 0 ∨
        permission.maxSingleBuyIn = 0) .zeroAmount
    revertIf (permission.maxConcurrentGames = 0) .zeroAmount
    revertIf (permission.validUntil ≤ msg.timestamp) .permissionExpired
    revertIf (permission.gameTemplateId = 0) .templateNotAllowed
    return { bumped with
      gameAuth :=
        { sessionSigner := permission.sessionSigner
          usdc := permission.usdc
          vault := permission.vault
          gameTemplateId := permission.gameTemplateId
          leagueMask := permission.leagueMask
          lifetimeCommittedCap := permission.lifetimeCommittedCap
          lifetimeCommitted := account.gameAuth.lifetimeCommitted
          maxTotalAtRisk := permission.maxTotalAtRisk
          activeAtRisk := account.gameAuth.activeAtRisk
          maxSingleBuyIn := permission.maxSingleBuyIn
          validUntil := permission.validUntil
          maxConcurrentGames := permission.maxConcurrentGames
          activeGames := account.gameAuth.activeGames
          ratedOnly := permission.ratedOnly
          enabled := true } }

/-- `revokeGamePermission`, and its alias `emergencyInvalidatePermissions`. -/
def revokeGamePermission (msg : Msg) (account : ArenaAccount) :
    Except Revert ArenaAccount := do
  revertIf (msg.sender ≠ account.owner) .unauthorized
  let cleared := account.clearPermissionAuthority
  return { cleared with
    gameAuthNonce := (account.gameAuthNonce + 1) % uint256Size }

def transferOwnership (msg : Msg) (account : ArenaAccount) (newOwner : Address) :
    Except Revert ArenaAccount := do
  revertIf (msg.sender ≠ account.owner) .unauthorized
  revertIf (newOwner = 0) .zeroAddress
  return { account with pendingOwner := newOwner }

/-- Owner withdraws idle tokens of this account. -/
def withdraw (msg : Msg) (self : Address) (account : ArenaAccount) (tokens : Tokens)
    (token : Address) (amount : Nat) (recipient : Address) :
    Except Revert Tokens := do
  revertIf (msg.sender ≠ account.owner) .unauthorized
  revertIf (amount = 0) .zeroAmount
  revertIf (recipient = 0) .zeroAddress
  tokens.transfer token self recipient amount

/--
The permission checks that `lockBuyIn` and `increaseBuyIn` share, from
`PermissionInactive` to `AtRiskCapExceeded`; the result is the pair of the
new lifetime and at-risk sums.
-/
def requirePermission (msg : Msg) (auth : GameAuth) (buyIn : Nat) (gameTemplateId : Bytes32)
    (leagueBit : Nat) (rated : Bool) : Except Revert (Nat × Nat) := do
  revertIf (auth.enabled = false) .permissionInactive
  revertIf (auth.validUntil < msg.timestamp) .permissionExpired
  revertIf (msg.sender ≠ auth.vault) .wrongVault
  revertIf (gameTemplateId ≠ auth.gameTemplateId) .templateNotAllowed
  revertIf (leagueBit = 0 ∨ auth.leagueMask &&& leagueBit = 0) .leagueNotAllowed
  revertIf (auth.ratedOnly = true ∧ rated = false) .ratedRequired
  revertIf (auth.maxSingleBuyIn < buyIn) .buyInTooHigh
  let lifetime ← checkedAdd auth.lifetimeCommitted buyIn
  revertIf (auth.lifetimeCommittedCap < lifetime) .lifetimeCapExceeded
  let atRisk ← checkedAdd auth.activeAtRisk buyIn
  revertIf (auth.maxTotalAtRisk < atRisk) .atRiskCapExceeded
  return (lifetime, atRisk)

/-- Vault-only: pull a buy-in and reserve exposure for the session. -/
def lockBuyIn (msg : Msg) (self : Address) (account : ArenaAccount) (tokens : Tokens)
    (sessionId : Bytes32) (buyIn : Nat) (gameTemplateId : Bytes32)
    (leagueBit : Nat) (rated : Bool) : Except Revert (ArenaAccount × Tokens) := do
  let auth := account.gameAuth
  revertIf (buyIn = 0) .zeroAmount
  let (lifetime, atRisk) ← requirePermission msg auth buyIn gameTemplateId leagueBit rated
  revertIf (auth.maxConcurrentGames < auth.activeGames + 1) .concurrentGamesExceeded
  revertIf (account.sessionExposure sessionId ≠ 0) .sessionAlreadyOpen
  revertIf (tokens.balanceOf auth.usdc self < buyIn) .insufficientBalance
  let paid ← tokens.transfer auth.usdc self msg.sender buyIn
  return ({ account with
    gameAuth := { auth with
      lifetimeCommitted := lifetime
      activeAtRisk := atRisk
      activeGames := auth.activeGames + 1 }
    sessionExposure := write account.sessionExposure sessionId buyIn
    sessionVault := write account.sessionVault sessionId msg.sender }, paid)

/-- Vault-only: add chips to an already open session. -/
def increaseBuyIn (msg : Msg) (self : Address) (account : ArenaAccount) (tokens : Tokens)
    (sessionId : Bytes32) (buyIn : Nat) (gameTemplateId : Bytes32)
    (leagueBit : Nat) (rated : Bool) : Except Revert (ArenaAccount × Tokens) := do
  let auth := account.gameAuth
  revertIf (buyIn = 0) .zeroAmount
  revertIf (account.sessionExposure sessionId = 0) .sessionNotOpen
  revertIf (account.sessionVault sessionId ≠ msg.sender) .wrongVault
  let (lifetime, atRisk) ← requirePermission msg auth buyIn gameTemplateId leagueBit rated
  revertIf (tokens.balanceOf auth.usdc self < buyIn) .insufficientBalance
  let exposure ← checkedAdd (account.sessionExposure sessionId) buyIn
  let paid ← tokens.transfer auth.usdc self msg.sender buyIn
  return ({ account with
    gameAuth := { auth with
      lifetimeCommitted := lifetime
      activeAtRisk := atRisk }
    sessionExposure := write account.sessionExposure sessionId exposure }, paid)

/-- The account after `amount` of its exposure to a session is released. -/
def lowerExposure (account : ArenaAccount) (sessionId : Bytes32) (amount : Nat) :
    ArenaAccount :=
  let exposed := account.sessionExposure sessionId
  let auth := account.gameAuth
  let released :=
    if auth.activeAtRisk ≤ amount then { auth with activeAtRisk := 0 }
    else { auth with activeAtRisk := auth.activeAtRisk - amount }
  let lowered := { account with
    gameAuth := released
    sessionExposure := write account.sessionExposure sessionId (exposed - amount) }
  if exposed - amount = 0 then
    { lowered with
      sessionVault := write account.sessionVault sessionId 0
      gameAuth :=
        if 0 < released.activeGames then
          { released with activeGames := released.activeGames - 1 }
        else released }
  else
    lowered

/-- The vault that locked the session releases reserved exposure. -/
def releaseExposure (msg : Msg) (account : ArenaAccount) (sessionId : Bytes32)
    (amount : Nat) : Except Revert ArenaAccount := do
  revertIf (account.sessionVault sessionId ≠ msg.sender) .wrongVault
  revertIf (account.sessionExposure sessionId = 0) .unknownSession
  revertIf (account.sessionExposure sessionId < amount) .insufficientBalance
  return account.lowerExposure sessionId amount

/-! ## What the vault-only calls do -/

theorem requirePermission_eq_ok
    {msg : Msg} {auth : GameAuth} {buyIn : Nat} {gameTemplateId : Bytes32}
    {leagueBit : Nat} {rated : Bool} {sums : Nat × Nat}
    (permitted : requirePermission msg auth buyIn gameTemplateId leagueBit rated = .ok sums) :
    msg.sender = auth.vault ∧
      sums = (auth.lifetimeCommitted + buyIn, auth.activeAtRisk + buyIn) := by
  simp only [requirePermission, bind_eq_ok_iff, revertIf_eq_ok_iff,
    pure_eq_ok_iff, checkedAdd_eq_ok_iff, exists_const] at permitted
  obtain ⟨-, -, caller, -, -, -, -, lifetime, ⟨-, lifetimeSum⟩, -, atRisk,
    ⟨-, atRiskSum⟩, -, equal⟩ := permitted
  refine ⟨not_not.mp caller, ?_⟩
  rw [← equal, ← lifetimeSum, ← atRiskSum]

/-- A locked buy-in opens the session's exposure and moves the tokens. -/
theorem lockBuyIn_eq_ok {msg : Msg} {self : Address} {account : ArenaAccount}
    {tokens : Tokens} {sessionId : Bytes32} {buyIn : Nat}
    {gameTemplateId : Bytes32} {leagueBit : Nat} {rated : Bool} {result : ArenaAccount × Tokens}
    (locked : lockBuyIn msg self account tokens sessionId buyIn gameTemplateId
        leagueBit rated = .ok result) :
    buyIn ≠ 0 ∧ msg.sender = account.gameAuth.vault ∧ account.sessionExposure sessionId = 0 ∧
      tokens.transfer account.gameAuth.usdc self msg.sender buyIn = .ok result.2 ∧
      result.1 = { account with
        gameAuth := { account.gameAuth with
          lifetimeCommitted := account.gameAuth.lifetimeCommitted + buyIn
          activeAtRisk := account.gameAuth.activeAtRisk + buyIn
          activeGames := account.gameAuth.activeGames + 1 }
        sessionExposure := write account.sessionExposure sessionId buyIn
        sessionVault := write account.sessionVault sessionId msg.sender } := by
  simp only [lockBuyIn, bind_eq_ok_iff, revertIf_eq_ok_iff, pure_eq_ok_iff, exists_const] at locked
  obtain ⟨positive, sums, permitted, -, closed, -, paid, transferred, equal⟩ := locked
  obtain ⟨caller, rfl⟩ := requirePermission_eq_ok permitted
  subst equal
  exact ⟨positive, caller, not_not.mp closed, transferred, rfl⟩

/-- A rebuy raises the open exposure and moves the tokens. -/
theorem increaseBuyIn_eq_ok {msg : Msg} {self : Address} {account : ArenaAccount}
    {tokens : Tokens} {sessionId : Bytes32} {buyIn : Nat}
    {gameTemplateId : Bytes32} {leagueBit : Nat} {rated : Bool} {result : ArenaAccount × Tokens}
    (increased : increaseBuyIn msg self account tokens sessionId buyIn gameTemplateId
        leagueBit rated = .ok result) :
    account.sessionExposure sessionId ≠ 0 ∧ account.sessionVault sessionId = msg.sender ∧
      msg.sender = account.gameAuth.vault ∧
      tokens.transfer account.gameAuth.usdc self msg.sender buyIn = .ok result.2 ∧
      result.1 = { account with
        gameAuth := { account.gameAuth with
          lifetimeCommitted := account.gameAuth.lifetimeCommitted + buyIn
          activeAtRisk := account.gameAuth.activeAtRisk + buyIn }
        sessionExposure :=
          write account.sessionExposure sessionId
            (account.sessionExposure sessionId + buyIn) } := by
  simp only [increaseBuyIn, bind_eq_ok_iff, revertIf_eq_ok_iff,
    pure_eq_ok_iff, checkedAdd_eq_ok_iff, exists_const] at increased
  obtain ⟨-, opened, custodian, sums, permitted, -, exposure, ⟨-, rfl⟩, paid,
    transferred, equal⟩ := increased
  obtain ⟨caller, rfl⟩ := requirePermission_eq_ok permitted
  subst equal
  exact ⟨opened, not_not.mp custodian, caller, transferred, rfl⟩

theorem releaseExposure_eq_ok_iff {msg : Msg} {account after : ArenaAccount} {sessionId : Bytes32}
    {amount : Nat} : releaseExposure msg account sessionId amount = .ok after ↔
    account.sessionVault sessionId = msg.sender ∧ account.sessionExposure sessionId ≠ 0 ∧
      amount ≤ account.sessionExposure sessionId ∧
      account.lowerExposure sessionId amount = after := by
  simp only [releaseExposure, bind_eq_ok_iff, revertIf_eq_ok_iff,
    pure_eq_ok_iff, exists_const, ne_eq, not_not, Nat.not_lt]

@[simp]
theorem lowerExposure_sessionExposure
    (account : ArenaAccount) (sessionId : Bytes32) (amount : Nat) :
    (account.lowerExposure sessionId amount).sessionExposure =
      write account.sessionExposure sessionId (account.sessionExposure sessionId - amount) := by
  simp only [lowerExposure]
  split <;> rfl

/-- Only a release down to zero forgets which vault holds the session. -/
@[simp]
theorem lowerExposure_sessionVault (account : ArenaAccount) (sessionId : Bytes32) (amount : Nat) :
    (account.lowerExposure sessionId amount).sessionVault =
      if account.sessionExposure sessionId - amount = 0 then
        write account.sessionVault sessionId 0
      else account.sessionVault := by
  simp only [lowerExposure]
  split <;> rfl

end ArenaAccount

end Mozetto.Chain

/-!
## ArenaAccountFactory

Deterministic accounts per owner: the two mappings between owners and
accounts, and their update during a two-step ownership transfer.
-/

namespace Mozetto.Chain

open Mozetto.Library.Guarded
open Mozetto.Library.Mapping

/-- The storage of the factory. -/
structure ArenaAccountFactory where
  accountOf : Address → Address
  ownerOf : Address → Address

namespace ArenaAccountFactory

/-- `saltFor`: the owner address as a 32-byte word. -/
def saltFor (owner : Address) : Bytes32 := owner

def predictAddress (deployment : Deployment) (owner : Address) : Address :=
  deployment.predictDeterministicAddress (saltFor owner)

/--
`createAccount`: the existing account of the owner, or a fresh clone.  Cloning
fails when the predicted address already has code, that is when it was
deployed for this salt before.
-/
def createAccount (deployment : Deployment) (factory : ArenaAccountFactory)
    (accounts : Address → ArenaAccount) (owner : Address) :
    Except Revert (ArenaAccountFactory × (Address → ArenaAccount)) := do
  revertIf (owner = 0) .zeroAddress
  if factory.accountOf owner ≠ 0 then
    return (factory, accounts)
  else
    revertIf (factory.ownerOf (predictAddress deployment owner) ≠ 0) .callFailed
    let registered : ArenaAccountFactory :=
      { accountOf :=
          write factory.accountOf owner (predictAddress deployment owner)
        ownerOf := write factory.ownerOf (predictAddress deployment owner) owner }
    return (registered, write accounts (predictAddress deployment owner)
        (ArenaAccount.initializeAccount owner deployment.factory))

/-- `syncOwner`, called by an account during an ownership transfer. -/
def syncOwner (factory : ArenaAccountFactory) (sender previousOwner newOwner : Address) :
    Except Revert ArenaAccountFactory := do
  revertIf (factory.ownerOf sender ≠ previousOwner) .unauthorized
  revertIf (factory.accountOf previousOwner ≠ sender) .unknownAccount
  revertIf (newOwner = 0) .zeroAddress
  revertIf (factory.accountOf newOwner ≠ 0) .accountExists
  return {
    accountOf := write (write factory.accountOf previousOwner 0) newOwner sender
    ownerOf := write factory.ownerOf sender newOwner }

/-- `getOrPredict`. -/
def getOrPredict (deployment : Deployment) (factory : ArenaAccountFactory)
    (owner : Address) : Address × Bool :=
  if factory.accountOf owner ≠ 0 then (factory.accountOf owner, true)
  else (predictAddress deployment owner, false)

/-- `acceptOwnership` of an account, with its call back to the factory. -/
def acceptOwnership (msg : Msg) (self : Address) (account : ArenaAccount)
    (factory : ArenaAccountFactory) : Except Revert (ArenaAccount × ArenaAccountFactory) := do
  revertIf (msg.sender ≠ account.pendingOwner) .noPendingOwner
  let previous := account.owner
  let next := account.pendingOwner
  let synced ← factory.syncOwner self previous next
  return ({ account with pendingOwner := 0, owner := next }, synced)

/-! ### Ownership records are never cleared -/

theorem createAccount_ownerOf {deployment : Deployment} {factory : ArenaAccountFactory}
    {accounts : Address → ArenaAccount} {owner : Address}
    {result : ArenaAccountFactory × (Address → ArenaAccount)}
    (created : createAccount deployment factory accounts owner = .ok result) :
    result = (factory, accounts) ∨ (owner ≠ 0 ∧
        factory.ownerOf (predictAddress deployment owner) = 0 ∧ result.1.ownerOf =
          write factory.ownerOf (predictAddress deployment owner) owner ∧ result.2 =
          write accounts (predictAddress deployment owner)
            (ArenaAccount.initializeAccount owner deployment.factory)) := by
  simp only [createAccount, bind_eq_ok_iff, revertIf_eq_ok_iff, exists_const] at created
  obtain ⟨nonzero, created⟩ := created
  split at created
  · left
    exact (pure_eq_ok_iff.mp created).symm
  · right
    simp only [bind_eq_ok_iff, revertIf_eq_ok_iff, exists_const, pure_eq_ok_iff] at created
    obtain ⟨fresh, equal⟩ := created
    subst equal
    exact ⟨nonzero, not_not.mp fresh, rfl, rfl⟩

theorem syncOwner_ownerOf {factory after : ArenaAccountFactory}
    {sender previousOwner newOwner : Address}
    (synced : factory.syncOwner sender previousOwner newOwner = .ok after) :
    factory.ownerOf sender = previousOwner ∧ newOwner ≠ 0 ∧
      after.ownerOf = write factory.ownerOf sender newOwner := by
  simp only [syncOwner, bind_eq_ok_iff, revertIf_eq_ok_iff, exists_const, pure_eq_ok_iff] at synced
  obtain ⟨previous, -, nonzero, -, equal⟩ := synced
  subst equal
  exact ⟨not_not.mp previous, nonzero, rfl⟩

end ArenaAccountFactory

end Mozetto.Chain
