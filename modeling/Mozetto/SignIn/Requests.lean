import Mathlib.Data.List.SplitOn
import Mathlib.Data.List.Infix
import Mozetto.Replay.Attestations
import Mozetto.Library.TransitionSystem

/-!
# Texts that wallets sign

What the handlers read of a text that a wallet has signed: whether a part
occurs in it, its first line, and its nonce.  What the text was signed for
stands in its lines: the first one names the domain, and each of the fields
that follow has a name and a value.
-/

namespace Mozetto.SignIn

open Mozetto.Replay (trim)

/-- `text.includes(part)`. -/
def includes (text part : String) : Bool := part.toList <:+: text.toList

/-- `text.trim()`. -/
def trimmed (text : String) : String := String.ofList (trim text)

/-- Lower case, of the letters that can occur in an address. -/
def toLowerCase (text : String) : String := String.ofList (text.toList.map Char.toLower)

/-- `/^0x[a-f0-9]{40}$/`. -/
def isAddress (text : String) : Bool :=
  match text.toList with
  | '0' :: 'x' :: digits =>
    digits.length = 40 && digits.all fun char =>
      ('a' ≤ char && char ≤ 'f') || ('0' ≤ char && char ≤ '9')
  | _ => false

/-- The number of UTF-16 code units, which `length` is in JavaScript. -/
def codeUnits (text : String) : Nat :=
  (text.toList.map fun char => if char.toNat < 65536 then 1 else 2).sum

/-- `text.split("\n")[0]`. -/
def firstLine (text : String) : List Char := text.toList.takeWhile (· ≠ '\n')

/-- What follows `\nNonce: ` on its line. -/
def nonceLine (text : List Char) : List Char :=
  if "\nNonce: ".toList.isPrefixOf text then
    (text.drop "\nNonce: ".length).takeWhile (· ≠ '\n')
  else []

/-- The first match of `/\nNonce: ([^\n]+)/`. -/
def nonceMatch : List Char → Option (List Char)
  | [] => none
  | char :: rest =>
    if nonceLine (char :: rest) = [] then nonceMatch rest
    else some (nonceLine (char :: rest))

/-- The nonce of a message, unless there is none or it is empty. -/
def nonceOf (message : String) : Option String :=
  ((nonceMatch message.toList).map fun found =>
    trimmed (String.ofList found)).filter (· ≠ "")

/-! ## What a message was signed for -/

/-- The line that names the site. -/
def domainLine (domain : String) : String :=
  domain ++ " wants you to sign in with your Ethereum account:"

/-- The value of a field: the rest of the first line that begins with its name. -/
def fieldOf (name message : String) : Option (List Char) :=
  ((message.toList.splitOn '\n').find? fun line =>
    (name ++ ": ").toList.isPrefixOf line).map
    fun line => line.drop (name ++ ": ").length

/-- The message signs in to this domain and URI. -/
structure SignedFor (domain uri message : String) : Prop where
  domain : firstLine message = (domainLine domain).toList
  uri : fieldOf "URI" message = some uri.toList

instance (domain uri message : String) : Decidable (SignedFor domain uri message) :=
  decidable_of_iff (firstLine message = (domainLine domain).toList ∧
      fieldOf "URI" message = some uri.toList)
    ⟨fun fields => ⟨fields.1, fields.2⟩, fun signed => ⟨signed.1, signed.2⟩⟩

end Mozetto.SignIn

/-!
## Nonces, sign-ins and step-ups

The handlers of the wallet and admin nonces, of the two verify routes and of
the step-up route, as requests that run from one awaited statement to the
next.  A request goes on with what its statement returns; one that fails
throws.  Rows that only other code writes are read as the answer has them.
-/

namespace Mozetto.SignIn

open Mozetto.Library.TransitionSystem

/-- What the server is configured with; a signature check is the client's. -/
structure SignInConfig where
  domain : String
  uri : String
  adminSiweDomain : String
  adminSiweUri : String
  adminSiweChainId : Nat
  adminAuthConfigured : Bool
  adminSessionTtlMs : Nat
  isAllowlistedAddress : String → Bool
  hashAdminSecret : String → String
  verifyMessage : Nat → String → String → String → Bool

structure Refusal where
  code : Nat
  error : String
  message : Option String
deriving DecidableEq, Repr

inductive Response where
  | refused (refusal : Refusal)
  | threw
  | ok
deriving DecidableEq, Repr

/-! ### Tables -/

structure SiweNonce where
  address : String
  nonce : String
  expiresAt : Int
deriving DecidableEq, Repr

structure AdminSiweNonce where
  nonceHash : String
  expiresAt : Int
  consumedAt : Option Int
deriving DecidableEq, Repr

structure AdminSession where
  id : String
  walletAddress : String
  role : String
  expiresAt : Int
  revokedAt : Option Int
  lastSeenAt : Int
  stepUpAt : Option Int
deriving DecidableEq, Repr

structure AdminPrincipalRow where
  id : String
  role : String
deriving DecidableEq, Repr

/-! ### Bodies -/

structure VerifyBody where
  address : String
  chainId : Option Nat
  message : String
  signature : String
  displayName : String
deriving DecidableEq, Repr

/-- A body once it is read: a message said to be signed by an address. -/
structure Login where
  address : String
  chainId : Nat
  message : String
  signature : String
deriving DecidableEq, Repr

def VerifyBody.login (body : VerifyBody) (defaultChainId : Nat) : Login where
  address := toLowerCase (trimmed body.address)
  chainId := body.chainId.getD defaultChainId
  message := body.message
  signature := body.signature

/-- `displayName.length`, of what `trim` and `slice(0, 48)` leave. -/
def VerifyBody.displayNameLength (body : VerifyBody) : Nat :=
  min 48 (codeUnits (trimmed body.displayName))

/-- A step-up: who sends it, by cookie or token, and what it says. -/
structure StepUpBody where
  sessionId : Option String
  tokenRole : Option String
  message : String
  signature : String
  action : String
deriving DecidableEq, Repr

def StepUpBody.trimmedAction (body : StepUpBody) : String := trimmed body.action

/-! ### Requests -/

/-- What is done for an account once its nonce is deleted. -/
inductive AccountStatement where
  | bootstrapOnchainProfile
  | updateProfile
  | updateAgentIdentity
  | ensureModeAccounts
  | bootstrapArenaAccount
  | loadProfileById
deriving DecidableEq, Repr

/-- Where a wallet verify is. -/
inductive WalletVerifyStage where
  | selectAccount
  | selectNonce (isNewAccount : Bool) (nonce : String)
  | verifyMessage (isNewAccount : Bool) (nonce : String)
  | deleteNonce (isNewAccount : Bool) (nonce : String)
  | account (nonce : String) (left : List AccountStatement)
deriving DecidableEq, Repr

/-- Where an admin verify is. -/
inductive AdminVerifyStage where
  | consumeAdminNonce (nonce : String)
  | verifyMessage (nonce : String)
  | loadActiveAdminPrincipal (nonce : String)
  | createAdminWalletSession (nonce : String) (principal : AdminPrincipalRow)
deriving DecidableEq, Repr

/-- Where a step-up is. -/
inductive StepUpStage where
  | selectSession (sessionId : String)
  | updateLastSeen (session : AdminSession)
  | verifyMessage (session : AdminSession)
  | queryStepUp (session : AdminSession)
deriving DecidableEq, Repr

inductive Request where
  | deleteNonces (row : SiweNonce)
  | insertNonce (row : SiweNonce)
  | insertAdminNonce (nonceHash : String) (expiresAt : Int)
  | walletVerify (login : Login) (displayNameLength : Nat) (stage : WalletVerifyStage)
  | adminVerify (login : Login) (stage : AdminVerifyStage)
  | stepUp (body : StepUpBody) (stage : StepUpStage)
  | finished (response : Response)
deriving DecidableEq, Repr

/-! ### What has been granted -/

inductive Site where
  | arena
  | control
deriving DecidableEq, Repr

/-- A session that a login has opened, with its nonce and time. -/
structure OpenedSession where
  site : Site
  login : Login
  nonce : String
  openedAt : Int
deriving DecidableEq, Repr

/-- A step-up that has refreshed a session. -/
structure SteppedUp where
  session : AdminSession
  body : StepUpBody
  steppedUpAt : Int
deriving DecidableEq, Repr

/--
The tables, the requests in the order in which they came, and a record of the
wallet nonces issued, the sessions opened and the step-ups done.
-/
structure SignIns where
  clock : Int
  siweNonces : List SiweNonce
  adminSiweNonces : List AdminSiweNonce
  adminSessions : List AdminSession
  requests : List Request
  issued : List SiweNonce
  opened : List OpenedSession
  steppedUp : List SteppedUp

/-- What a statement returns that reads or draws what other code decides. -/
structure Answer where
  found : Bool
  principal : Option AdminPrincipalRow
  uuid : String
deriving DecidableEq, Repr

inductive Reply where
  | fails
  | executed (answer : Answer)
deriving DecidableEq, Repr

/-! ### What a handler does before it awaits -/

def refuse (code : Nat) (error : String) : Request := .finished (.refused ⟨code, error, none⟩)

def refuseWith (code : Nat) (error message : String) : Request :=
  .finished (.refused ⟨code, error, some message⟩)

def SUPPORTED_CHAIN_IDS : List Nat := [31337, 84532, 8453]

def ADMIN_SIWE_CHAIN_IDS : List Nat := [31337, 84532, 8453]

/-- `GET /v1/auth/wallet/nonce`, with the nonce that it draws. -/
def walletNonce (address : String) (chainId : Option Nat) (nonce : String) (now : Int) : Request :=
  let address := toLowerCase (trimmed address)
  if ¬ isAddress address then refuse 400 "invalid_address"
  else if ¬ SUPPORTED_CHAIN_IDS.contains (chainId.getD 84532) then
    refuseWith 400 "unsupported_chain"
      "Use Anvil (31337), Base Sepolia (84532), or Base (8453)."
  else .deleteNonces ⟨address, nonce, now + 10 * 60 * 1000⟩

/-- `POST /v1/auth/wallet/verify`. -/
def walletVerify (body : VerifyBody) : Request :=
  let login := body.login 0
  if ¬ isAddress login.address ∨ login.message = "" ∨ login.signature = "" then
    refuse 400 "invalid_request"
  else if ¬ SUPPORTED_CHAIN_IDS.contains login.chainId then
    refuse 400 "unsupported_chain"
  else if 0 < body.displayNameLength ∧ body.displayNameLength < 2 then
    refuseWith 400 "invalid_display_name"
      "Display name must be 2–48 characters."
  else .walletVerify login body.displayNameLength .selectAccount

/-- `hashAdminSecret` of the nonce that `GET /v1/admin/auth/nonce` draws. -/
def adminNonce (config : SignInConfig) (nonce : String) (now : Int) :
    Request :=
  if ¬ ADMIN_SIWE_CHAIN_IDS.contains config.adminSiweChainId then
    refuse 400 "unsupported_chain"
  else
    .insertAdminNonce (config.hashAdminSecret nonce) (now + 10 * 60 * 1000)

/-- `POST /v1/admin/auth/verify`. -/
def adminVerify (config : SignInConfig) (body : VerifyBody) : Request :=
  let login := body.login config.adminSiweChainId
  if ¬ isAddress login.address ∨ login.message = "" ∨ login.signature = "" then
    refuse 400 "invalid_request"
  else if ¬ ADMIN_SIWE_CHAIN_IDS.contains login.chainId then
    refuse 400 "unsupported_chain"
  else if firstLine login.message ≠ (domainLine config.adminSiweDomain).toList then
    refuse 401 "wrong_domain"
  else if ¬ includes login.message ("URI: " ++ config.adminSiweUri) then
    refuse 401 "wrong_uri"
  else if ¬ includes login.message ("Chain ID: " ++ toString login.chainId) then
    refuse 401 "wrong_chain"
  else
    match nonceOf login.message with
    | none => refuse 400 "missing_nonce"
    | some nonce => .adminVerify login (.consumeAdminNonce nonce)

/-- The roles that have the capability `mutate`. -/
def mayMutate (role : String) : Bool :=
  ["operator", "superadmin", "admin"].contains role

/-- A step-up with no session behind it: a token is not enough. -/
def stepUpByToken (tokenRole : Option String) : Request :=
  match tokenRole with
  | none => refuse 401 "unauthorized"
  | some role =>
    if mayMutate role then
      refuseWith 400 "step_up_requires_wallet_session"
        "Step-up is for wallet sessions only"
    else refuseWith 403 "forbidden" "mutate capability required"

/-- `POST /v1/admin/auth/step-up`. -/
def stepUp (config : SignInConfig) (body : StepUpBody) : Request :=
  if ¬ config.adminAuthConfigured then
    refuseWith 503 "admin_disabled"
      ("Configure ADMIN_SESSION_SECRET for wallet login and/or " ++
        "ADMIN_TOKEN / ADMIN_READ_TOKEN / ADMIN_MUTATE_TOKEN")
  else
    match body.sessionId with
    | none => stepUpByToken body.tokenRole
    | some sessionId => .stepUp body (.selectSession sessionId)

/-! ### Statements -/

namespace SignIns

/-- The request goes on with this before it. -/
def goTo (state : SignIns) (index : Nat) (request : Request) : SignIns :=
  { state with requests := state.requests.set index request }

section Handlers

variable (config : SignInConfig) (state : SignIns) (index : Nat)
variable (answer : Answer)

/-- `delete from siwe_nonces where address = $1 or expires_at < now()`. -/
def deleteNonces (row : SiweNonce) : SignIns :=
  { state with
    siweNonces :=
      state.siweNonces.filter fun other =>
        ¬ (other.address = row.address ∨ other.expiresAt < state.clock) }

/-- A nonce is inserted, unless its address has it already. -/
def insertNonce (row : SiweNonce) : SignIns :=
  if state.siweNonces.any fun other =>
    other.address = row.address ∧ other.nonce = row.nonce then
    state.goTo index (.finished .threw)
  else
    { state with
      siweNonces := row :: state.siweNonces
      issued := row :: state.issued }.goTo index (.finished .ok)

/-- An admin nonce is inserted, unless its hash is there already. -/
def insertAdminNonce (nonceHash : String) (expiresAt : Int) : SignIns :=
  if state.adminSiweNonces.any fun other => other.nonceHash = nonceHash then
    state.goTo index (.finished .threw)
  else
    { state with
      adminSiweNonces := ⟨nonceHash, expiresAt, none⟩ :: state.adminSiweNonces }.goTo index
      (.finished .ok)

/-- `delete from siwe_nonces where address = $1 and nonce = $2`. -/
def deleteNonce (address nonce : String) : SignIns :=
  { state with
    siweNonces :=
      state.siweNonces.filter fun other =>
        ¬ (other.address = address ∧ other.nonce = nonce) }

/-- What is left to do for an account. -/
def accountStatements (isNewAccount : Bool) (displayNameLength : Nat) :
    List AccountStatement :=
  [.bootstrapOnchainProfile] ++ (if isNewAccount ∧ 0 < displayNameLength then
      [.updateProfile, .updateAgentIdentity] else []) ++
    [.ensureModeAccounts, .bootstrapArenaAccount, .loadProfileById]

/-- What a statement for an account says when it returns no row. -/
def missing (statement : AccountStatement) (found : Bool) : Option Request :=
  match statement, found with
  | .bootstrapOnchainProfile, false => some (refuse 500 "bootstrap_failed")
  | .loadProfileById, false => some (refuse 500 "profile_missing")
  | _, _ => none

def executeWalletVerify (login : Login) (displayNameLength : Nat) : WalletVerifyStage → SignIns
  | .selectAccount =>
    if ¬ answer.found ∧ displayNameLength = 0 then
      state.goTo index
        (refuseWith 400 "display_name_required"
          "Choose a display name to create your on-chain account.")
    else
      match nonceOf login.message with
      | none => state.goTo index (refuse 400 "missing_nonce")
      | some nonce =>
        state.goTo index (.walletVerify login displayNameLength
            (.selectNonce (!answer.found) nonce))
  | .selectNonce isNewAccount nonce =>
    if ¬ state.siweNonces.any fun row =>
      row.address = login.address ∧ row.nonce = nonce ∧ state.clock < row.expiresAt then
      state.goTo index
        (refuseWith 401 "invalid_nonce"
          "Nonce expired or unknown. Request a new one.")
    else if ¬ includes (toLowerCase login.message) login.address then
      state.goTo index (refuse 401 "address_mismatch")
    else if
        ¬ includes login.message ("Chain ID: " ++ toString login.chainId) then
      state.goTo index (refuse 401 "chain_mismatch")
    else
      state.goTo index (.walletVerify login displayNameLength (.verifyMessage isNewAccount nonce))
  | .verifyMessage isNewAccount nonce =>
    if config.verifyMessage login.chainId login.address login.message login.signature then
      state.goTo index (.walletVerify login displayNameLength (.deleteNonce isNewAccount nonce))
    else state.goTo index (refuse 401 "invalid_signature")
  | .deleteNonce isNewAccount nonce =>
    (state.deleteNonce login.address nonce).goTo index (.walletVerify login displayNameLength
        (.account nonce (accountStatements isNewAccount displayNameLength)))
  | .account nonce (statement :: left) =>
    state.goTo index ((missing statement answer.found).getD
        (.walletVerify login displayNameLength (.account nonce left)))
  | .account nonce [] =>
    { state with
      opened := ⟨.arena, login, nonce, state.clock⟩ :: state.opened }.goTo
      index (.finished .ok)

/-- The row of a nonce that is there to be consumed. -/
def isConsumable (clock : Int) (nonceHash : String) (row : AdminSiweNonce) :
    Bool :=
  row.nonceHash = nonceHash ∧ row.consumedAt = none ∧ clock < row.expiresAt

def consumeAdminNonce (nonceHash : String) : SignIns :=
  { state with
    adminSiweNonces :=
      state.adminSiweNonces.map fun row =>
        if isConsumable state.clock nonceHash row then
          { row with consumedAt := some state.clock }
        else row }

def createAdminWalletSession (uuid walletAddress role : String) : SignIns :=
  { state with
    adminSessions :=
      { id := uuid
        walletAddress := toLowerCase walletAddress
        role := role
        expiresAt := state.clock + config.adminSessionTtlMs
        revokedAt := none
        lastSeenAt := state.clock
        stepUpAt := none } :: state.adminSessions }

def executeAdminVerify (login : Login) : AdminVerifyStage → SignIns
  | .consumeAdminNonce nonce =>
    if state.adminSiweNonces.any (isConsumable state.clock (config.hashAdminSecret nonce)) then
      (state.consumeAdminNonce (config.hashAdminSecret nonce)).goTo index
        (.adminVerify login (.verifyMessage nonce))
    else
      state.goTo index
        (refuseWith 401 "invalid_nonce"
          "Nonce expired, unknown, or already used.")
  | .verifyMessage nonce =>
    if ¬ config.verifyMessage login.chainId login.address login.message login.signature then
      state.goTo index (refuse 401 "invalid_signature")
    else if ¬ config.isAllowlistedAddress login.address then
      state.goTo index (refuseWith 403 "forbidden" "Wallet not allowlisted")
    else
      state.goTo index (.adminVerify login (.loadActiveAdminPrincipal nonce))
  | .loadActiveAdminPrincipal nonce =>
    match answer.principal with
    | none =>
      state.goTo index
        (refuseWith 403 "forbidden"
          "No active admin_principals row for wallet")
    | some principal =>
      state.goTo index (.adminVerify login (.createAdminWalletSession nonce principal))
  | .createAdminWalletSession nonce principal =>
    { state.createAdminWalletSession config answer.uuid login.address principal.role with
      opened := ⟨.control, login, nonce, state.clock⟩ :: state.opened }.goTo
      index (.finished .ok)

/-- The rows of a session, changed. -/
def updateSession (sessionId : String) (change : AdminSession → AdminSession) : SignIns :=
  { state with
    adminSessions :=
      state.adminSessions.map fun row =>
        if row.id = sessionId then change row else row }

def queryStepUp (sessionId : String) : SignIns :=
  state.updateSession sessionId fun row =>
    { row with stepUpAt := some state.clock }

/-- What a step-up is checked for once its session is known. -/
def stepUpChecked (body : StepUpBody) (session : AdminSession) : Request :=
  if ¬ mayMutate session.role then
    refuseWith 403 "forbidden" "mutate capability required"
  else if
      body.message = "" ∨ body.signature = "" ∨ body.trimmedAction = "" then
    refuse 400 "invalid_request"
  else if ¬ includes body.message "Mozetto Control privileged action" then
    refuse 400 "invalid_step_up_message"
  else if ¬ includes body.message ("Action: " ++ body.trimmedAction) then
    refuse 400 "action_digest_mismatch"
  else if session.walletAddress = "" then refuse 400 "missing_wallet"
  else .stepUp body (.verifyMessage session)

def executeStepUp (body : StepUpBody) : StepUpStage → SignIns
  | .selectSession sessionId =>
    match state.adminSessions.find? fun row =>
      row.id = sessionId ∧ row.revokedAt = none ∧ state.clock < row.expiresAt with
    | none => state.goTo index (stepUpByToken body.tokenRole)
    | some session =>
      state.goTo index (.stepUp body (.updateLastSeen session))
  | .updateLastSeen session =>
    (state.updateSession session.id fun row =>
      { row with lastSeenAt := state.clock }).goTo index
      (stepUpChecked body session)
  | .verifyMessage session =>
    if config.verifyMessage config.adminSiweChainId
        (toLowerCase session.walletAddress) body.message body.signature then
      state.goTo index (.stepUp body (.queryStepUp session))
    else state.goTo index (refuse 401 "invalid_signature")
  | .queryStepUp session =>
    { state.queryStepUp session.id with
      steppedUp := ⟨session, body, state.clock⟩ :: state.steppedUp }.goTo
      index (.finished .ok)

/-- The statement of a request is executed. -/
def execute : Request → Except Unit SignIns
  | .deleteNonces row =>
    .ok ((state.deleteNonces row).goTo index (.insertNonce row))
  | .insertNonce row => .ok (state.insertNonce index row)
  | .insertAdminNonce nonceHash expiresAt =>
    .ok (state.insertAdminNonce index nonceHash expiresAt)
  | .walletVerify login displayNameLength stage =>
    .ok (state.executeWalletVerify config index answer login displayNameLength stage)
  | .adminVerify login stage =>
    .ok (state.executeAdminVerify config index answer login stage)
  | .stepUp body stage => .ok (state.executeStepUp config index body stage)
  | .finished _ => .error ()

/-- A statement is executed, or fails and its request throws. -/
def perform (reply : Reply) : Except Unit SignIns :=
  match state.requests[index]? with
  | none => .error ()
  | some request =>
    match reply with
    | .executed answer => state.execute config index answer request
    | .fails =>
      match request with
      | .finished _ => .error ()
      | _ => .ok (state.goTo index (.finished .threw))

end Handlers

/-- A request comes in. -/
def join (state : SignIns) (request : Request) : SignIns :=
  { state with requests := state.requests ++ [request] }

/-- A session is revoked, unless it was before. -/
def revokeAdminSession (state : SignIns) (sessionId : String) : SignIns :=
  state.updateSession sessionId fun row =>
    { row with revokedAt := row.revokedAt.or (some state.clock) }

end SignIns

/-! ### Runs -/

inductive SignInAction where
  | tick (ms : Nat)
  | walletNonce (address : String) (chainId : Option Nat) (nonce : String)
  | walletVerify (body : VerifyBody)
  | adminNonce (nonce : String)
  | adminVerify (body : VerifyBody)
  | stepUp (body : StepUpBody)
  | revokeAdminSession (sessionId : String)
  | perform (index : Nat) (reply : Reply)
deriving DecidableEq, Repr

def SignIns.step (config : SignInConfig) (state : SignIns) : SignInAction → Except Unit SignIns
  | .tick ms => .ok { state with clock := state.clock + ms }
  | .walletNonce address chainId nonce =>
    .ok (state.join (walletNonce address chainId nonce state.clock))
  | .walletVerify body => .ok (state.join (walletVerify body))
  | .adminNonce nonce => .ok (state.join (adminNonce config nonce state.clock))
  | .adminVerify body => .ok (state.join (adminVerify config body))
  | .stepUp body => .ok (state.join (stepUp config body))
  | .revokeAdminSession sessionId => .ok (state.revokeAdminSession sessionId)
  | .perform index reply => state.perform config index reply

/-- No nonce has been issued and no request has come. -/
structure NoRequest (state : SignIns) : Prop where
  siweNonces : state.siweNonces = []
  adminSiweNonces : state.adminSiweNonces = []
  requests : state.requests = []
  issued : state.issued = []
  opened : state.opened = []
  steppedUp : state.steppedUp = []

/-- All interleavings of the requests' statements. -/
def signInRuns (config : SignInConfig) : System SignIns SignInAction Unit where
  initial := NoRequest
  step := SignIns.step config

end Mozetto.SignIn
