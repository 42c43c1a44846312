import Mozetto.SignIn.Requests
import Mozetto.Library.SingleUse

/-!
# One signature, one session

What it means that a wallet's signature authenticates once, and the care with
which it does: nonces do not repeat, a wallet nonce is not checked while
another request for it waits for its signature check or its deletion, a
message that verifies was signed for the site that it is sent to, a step-up is
sent once and under its own terms, and no request outlasts what admits it.
-/

namespace Mozetto.SignIn

open Mozetto.Library.TransitionSystem

/-- What a step-up message was signed for, besides the action that it names. -/
structure StepUpTerms where
  sessionId : String
  notBefore : Int
  notAfter : Int
deriving DecidableEq, Repr

/-- A nonce that a request has checked, and how far the request has come. -/
structure Grip where
  site : Site
  login : Login
  nonce : String
  verified : Bool
  spent : Bool
deriving DecidableEq, Repr

/-- A wallet verify has no nonce before it has looked for the row. -/
def WalletVerifyStage.grip (login : Login) : WalletVerifyStage → Option Grip
  | .verifyMessage _ nonce => some ⟨.arena, login, nonce, false, false⟩
  | .deleteNonce _ nonce => some ⟨.arena, login, nonce, true, false⟩
  | .account nonce _ => some ⟨.arena, login, nonce, true, true⟩
  | _ => none

/-- An admin verify has spent its nonce before it checks the signature. -/
def AdminVerifyStage.grip (login : Login) : AdminVerifyStage → Option Grip
  | .consumeAdminNonce _ => none
  | .verifyMessage nonce => some ⟨.control, login, nonce, false, true⟩
  | .loadActiveAdminPrincipal nonce => some ⟨.control, login, nonce, true, true⟩
  | .createAdminWalletSession nonce _ =>
    some ⟨.control, login, nonce, true, true⟩

def Request.grip : Request → Option Grip
  | .walletVerify login _ stage => stage.grip login
  | .adminVerify login stage => stage.grip login
  | _ => none

/-- The refresh of a session that only has to be written. -/
def Request.refresh : Request → Option (StepUpBody × AdminSession)
  | .stepUp body (.queryStepUp session) => some (body, session)
  | _ => none

section Law

variable (config : SignInConfig) (terms : String → StepUpTerms)
variable (state : SignIns)

/-! ## The law -/

/-- The signature of a login verifies. -/
def Login.Verifies (login : Login) : Prop :=
  config.verifyMessage login.chainId login.address login.message login.signature = true

/-- The message of a login was signed for this site. -/
def Login.IsFor (login : Login) : Site → Prop
  | .arena => SignedFor config.domain config.uri login.message
  | .control =>
    SignedFor config.adminSiweDomain config.adminSiweUri login.message

/-- The nonce was issued, to the address of an arena login, and lasts. -/
def SignIns.Lasts (login : Login) (nonce : String) (time : Int) : Site → Prop
  | .arena =>
    ∃ row ∈ state.issued, row.address = login.address ∧ row.nonce = nonce ∧ time < row.expiresAt
  | .control =>
    ∃ row ∈ state.adminSiweNonces,
      row.nonceHash = config.hashAdminSecret nonce ∧ time < row.expiresAt

/-- What admits a login to the session that it opened. -/
structure OpenedSession.Admitted (opened : OpenedSession) : Prop where
  nonce : nonceOf opened.login.message = some opened.nonce
  verifies : opened.login.Verifies config
  signed : opened.login.IsFor config opened.site
  unexpired : state.Lasts config opened.login opened.nonce opened.openedAt opened.site
  addressee : ∀ row ∈ state.issued, row.nonce = opened.nonce →
      opened.site = .arena ∧ row.address = opened.login.address

/-- A step-up message speaks for this session, action and time. -/
structure StepUpBody.Meets (body : StepUpBody) (session : AdminSession) (time : Int) : Prop where
  verifies : config.verifyMessage config.adminSiweChainId
      (toLowerCase session.walletAddress) body.message body.signature = true
  session : (terms body.message).sessionId = session.id
  action : fieldOf "Action" body.message = some body.trimmedAction.toList
  notBefore : (terms body.message).notBefore ≤ time
  notAfter : time ≤ (terms body.message).notAfter

/-- Each signed message opens one session, and refreshes one, as it says. -/
structure SignIns.AuthenticatesOnce : Prop where
  sessions : (state.opened.map (·.login.message)).Nodup
  admitted : ∀ opened ∈ state.opened, opened.Admitted config state
  refreshes : (state.steppedUp.map (·.body.message)).Nodup
  met : ∀ done ∈ state.steppedUp, done.body.Meets config terms done.session done.steppedUpAt

/-! ## Care -/

/-- A nonce with this hash has been issued. -/
def SignIns.HasIssued (nonceHash : String) : Prop :=
  (∃ row ∈ state.issued, config.hashAdminSecret row.nonce = nonceHash) ∨
    ∃ row ∈ state.adminSiweNonces, row.nonceHash = nonceHash

/-- Nobody waits for the signature check or the deletion of this nonce. -/
def SignIns.Unchecked (address nonce : String) : Prop :=
  ∀ request ∈ state.requests, ∀ grip ∈ request.grip,
    grip.login.address = address → grip.nonce = nonce → grip.spent = true

/-- No request has this step-up message before it or behind it. -/
def SignIns.FirstUse (message : String) : Prop :=
  (∀ request ∈ state.requests, ∀ refresh ∈ request.refresh, refresh.1.message ≠ message) ∧
    ∀ done ∈ state.steppedUp, done.body.message ≠ message

/-- When the next statement of a request is careful. -/
def SignIns.Careful : Request → Prop
  | .insertNonce row =>
    ¬ state.HasIssued config (config.hashAdminSecret row.nonce)
  | .insertAdminNonce nonceHash _ => ¬ state.HasIssued config nonceHash
  | .walletVerify login _ (.selectNonce _ nonce) =>
    state.Unchecked login.address nonce
  | .walletVerify login _ (.verifyMessage _ _) =>
    login.Verifies config → login.IsFor config .arena
  | .adminVerify login (.verifyMessage _) =>
    login.Verifies config → login.IsFor config .control
  | .stepUp body (.verifyMessage session) =>
    config.verifyMessage config.adminSiweChainId
        (toLowerCase session.walletAddress) body.message body.signature = true →
      state.FirstUse body.message ∧ body.Meets config terms session state.clock
  | _ => True

/-- A nonce that has been checked lasts until this time, where it was issued. -/
def SignIns.NonceLasts (grip : Grip) (time : Int) : Prop :=
  match grip.site with
  | .arena =>
    ∀ row ∈ state.issued, row.address = grip.login.address → row.nonce = grip.nonce →
        time < row.expiresAt
  | .control =>
    ∀ row ∈ state.adminSiweNonces, row.nonceHash = config.hashAdminSecret grip.nonce →
        time < row.expiresAt

/-- What admits a request that has been checked lasts until this time. -/
def SignIns.AdmitsUntil (time : Int) (request : Request) : Prop :=
  (∀ grip ∈ request.grip, state.NonceLasts config grip time) ∧
    ∀ refresh ∈ request.refresh, time ≤ (terms refresh.1.message).notAfter

/-- Signatures are used with care. -/
def SignIns.InTurn : SignInAction → Prop
  | .tick ms =>
    ∀ request ∈ state.requests, state.AdmitsUntil config terms (state.clock + ms) request
  | .perform index (.executed _) =>
    ∀ request ∈ state.requests[index]?, state.Careful config terms request
  | _ => True

end Law

/-! ### Care can be checked -/

section Decidable

variable (config : SignInConfig) (terms : String → StepUpTerms)
variable (state : SignIns)

instance (login : Login) : Decidable (login.Verifies config) :=
  inferInstanceAs (Decidable (_ = true))

instance (login : Login) (site : Site) : Decidable (login.IsFor config site) :=
  match site with
  | .arena => inferInstanceAs (Decidable (SignedFor _ _ _))
  | .control => inferInstanceAs (Decidable (SignedFor _ _ _))

instance (body : StepUpBody) (session : AdminSession) (time : Int) :
    Decidable (body.Meets config terms session time) :=
  decidable_of_iff (config.verifyMessage config.adminSiweChainId
        (toLowerCase session.walletAddress) body.message body.signature = true ∧
      (terms body.message).sessionId = session.id ∧
        fieldOf "Action" body.message = some body.trimmedAction.toList ∧
          (terms body.message).notBefore ≤ time ∧ time ≤ (terms body.message).notAfter)
    ⟨fun ⟨verifies, session, action, notBefore, notAfter⟩ =>
      ⟨verifies, session, action, notBefore, notAfter⟩,
    fun meets =>
      ⟨meets.verifies, meets.session, meets.action, meets.notBefore, meets.notAfter⟩⟩

instance (nonceHash : String) : Decidable (state.HasIssued config nonceHash) :=
  inferInstanceAs (Decidable (_ ∨ _))

instance (address nonce : String) : Decidable (state.Unchecked address nonce) :=
  inferInstanceAs (Decidable (∀ request ∈ state.requests, ∀ grip ∈ request.grip,
        grip.login.address = address → grip.nonce = nonce → grip.spent = true))

instance (message : String) : Decidable (state.FirstUse message) :=
  inferInstanceAs (Decidable ((∀ request ∈ state.requests, ∀ refresh ∈ request.refresh,
          refresh.1.message ≠ message) ∧ ∀ done ∈ state.steppedUp, done.body.message ≠ message))

instance (request : Request) : Decidable (state.Careful config terms request) :=
  match request with
  | .insertNonce _ => inferInstanceAs (Decidable (¬ _))
  | .insertAdminNonce _ _ => inferInstanceAs (Decidable (¬ _))
  | .walletVerify login _ (.selectNonce _ nonce) =>
    inferInstanceAs (Decidable (state.Unchecked login.address nonce))
  | .walletVerify _ _ (.verifyMessage _ _) =>
    inferInstanceAs (Decidable (_ → _))
  | .adminVerify _ (.verifyMessage _) => inferInstanceAs (Decidable (_ → _))
  | .stepUp body (.verifyMessage session) =>
    inferInstanceAs (Decidable (_ → state.FirstUse body.message ∧
          body.Meets config terms session state.clock))
  | .walletVerify _ _ .selectAccount => .isTrue trivial
  | .walletVerify _ _ (.deleteNonce _ _) => .isTrue trivial
  | .walletVerify _ _ (.account _ _) => .isTrue trivial
  | .adminVerify _ (.consumeAdminNonce _) => .isTrue trivial
  | .adminVerify _ (.loadActiveAdminPrincipal _) => .isTrue trivial
  | .adminVerify _ (.createAdminWalletSession _ _) => .isTrue trivial
  | .stepUp _ (.selectSession _) => .isTrue trivial
  | .stepUp _ (.updateLastSeen _) => .isTrue trivial
  | .stepUp _ (.queryStepUp _) => .isTrue trivial
  | .deleteNonces _ => .isTrue trivial
  | .finished _ => .isTrue trivial

instance (grip : Grip) (time : Int) : Decidable (state.NonceLasts config grip time) :=
  match grip with
  | ⟨.arena, login, nonce, _, _⟩ =>
    inferInstanceAs (Decidable (∀ row ∈ state.issued,
          row.address = login.address → row.nonce = nonce → time < row.expiresAt))
  | ⟨.control, _, nonce, _, _⟩ =>
    inferInstanceAs (Decidable (∀ row ∈ state.adminSiweNonces,
          row.nonceHash = config.hashAdminSecret nonce → time < row.expiresAt))

instance (time : Int) (request : Request) :
    Decidable (state.AdmitsUntil config terms time request) := inferInstanceAs (Decidable (_ ∧ _))

instance (action : SignInAction) : Decidable (state.InTurn config terms action) :=
  match action with
  | .tick ms =>
    inferInstanceAs (Decidable (∀ request ∈ state.requests,
          state.AdmitsUntil config terms (state.clock + ms) request))
  | .perform index (.executed _) =>
    inferInstanceAs (Decidable (∀ request ∈ state.requests[index]?,
          state.Careful config terms request))
  | .perform _ .fails => .isTrue trivial
  | .walletNonce _ _ _ => .isTrue trivial
  | .walletVerify _ => .isTrue trivial
  | .adminNonce _ => .isTrue trivial
  | .adminVerify _ => .isTrue trivial
  | .stepUp _ => .isTrue trivial
  | .revokeAdminSession _ => .isTrue trivial

end Decidable

end Mozetto.SignIn

/-!
## Nonces that are spent once

While signatures are used with care, a nonce is held by one request from its
check on and opens at most one session.  A nonce is live as long as its row
can still be found: a wallet nonce until its row is deleted, an admin nonce
until it is consumed; what is live has not been spent.
-/

namespace Mozetto.SignIn

open Mozetto.Library.SingleUse

section Definitions

variable (config : SignInConfig) (state : SignIns)

/-- The nonce, as the admin table has it. -/
def Grip.hash (grip : Grip) : String := config.hashAdminSecret grip.nonce

def Request.gripHash (request : Request) : Option String := request.grip.map (·.hash config)

/-- What the request held that opened the session. -/
def OpenedSession.grip (opened : OpenedSession) : Grip where
  site := opened.site
  login := opened.login
  nonce := opened.nonce
  verified := true
  spent := true

/-- A request that is about to look for its nonce has read it of its message. -/
def Request.Reads : Request → Prop
  | .walletVerify login _ (.selectNonce _ nonce) =>
    nonceOf login.message = some nonce
  | .adminVerify login (.consumeAdminNonce nonce) =>
    nonceOf login.message = some nonce
  | _ => True

/-- A request that holds no nonce. -/
structure Request.Idle (request : Request) : Prop where
  grip : request.grip = none
  reads : request.Reads

/-- A row with this hash can still be found. -/
def SignIns.Live (nonceHash : String) : Prop :=
  (∃ row ∈ state.siweNonces, config.hashAdminSecret row.nonce = nonceHash) ∨
    ∃ row ∈ state.adminSiweNonces, row.nonceHash = nonceHash ∧ row.consumedAt = none

/-- What is known of a nonce that was checked. -/
structure SignIns.Holds (grip : Grip) (time : Int) : Prop where
  nonce : nonceOf grip.login.message = some grip.nonce
  lasts : state.Lasts config grip.login grip.nonce time grip.site
  verified : grip.verified = true → grip.login.Verifies config ∧ grip.login.IsFor config grip.site
  spent : grip.spent = true → ¬ state.Live config (grip.hash config)

/-- The hashes of the nonces that have been issued. -/
def SignIns.issuedHashes : List String :=
  state.issued.map (fun row => config.hashAdminSecret row.nonce) ++
    state.adminSiweNonces.map (·.nonceHash)

structure SignIns.SpentOnce : Prop where
  rows : ∀ row ∈ state.siweNonces, row ∈ state.issued
  issuedOnce : (state.issuedHashes config).Nodup
  reads : ∀ request ∈ state.requests, request.Reads
  grips : ∀ request ∈ state.requests, ∀ grip ∈ request.grip, state.Holds config grip state.clock
  opened : ∀ opened ∈ state.opened, state.Holds config opened.grip opened.openedAt
  once : UsedOnce (·.gripHash config) state.requests (state.opened.map (·.grip.hash config))

end Definitions

variable {config : SignInConfig} {state after : SignIns}
variable {old new : Request} {index : Nat} {grip : Grip} {time : Int}

/-! ### Issued nonces -/

theorem mem_issuedHashes {nonceHash : String} : nonceHash ∈ state.issuedHashes config ↔
    state.HasIssued config nonceHash := by
  rw [SignIns.issuedHashes, List.mem_append, List.mem_map, List.mem_map]
  rfl

/-- A nonce that was checked has been issued. -/
theorem SignIns.Holds.hasIssued (holds : state.Holds config grip time) :
    state.HasIssued config (grip.hash config) := by
  have lasts := holds.lasts
  cases site : grip.site with
  | arena =>
    rw [site] at lasts
    rcases lasts with ⟨row, member, -, same, -⟩
    refine Or.inl ⟨row, member, ?_⟩
    rw [same, Grip.hash]
  | control =>
    rw [site] at lasts
    rcases lasts with ⟨row, member, same, -⟩
    exact Or.inr ⟨row, member, same⟩

/-- What is known of a nonce stays known while its row is not live again. -/
theorem SignIns.Holds.mono (holds : state.Holds config grip time)
    (issued : ∀ row ∈ state.issued, row ∈ after.issued)
    (adminSiweNonces : ∀ row ∈ state.adminSiweNonces, ∃ kept ∈ after.adminSiweNonces,
        kept.nonceHash = row.nonceHash ∧ kept.expiresAt = row.expiresAt)
    (live : after.Live config (grip.hash config) → state.Live config (grip.hash config)) :
    after.Holds config grip time where
  nonce := holds.nonce
  lasts := by
    have lasts := holds.lasts
    cases site : grip.site with
    | arena =>
      rw [site] at lasts
      rcases lasts with ⟨row, member, known⟩
      exact ⟨row, issued row member, known⟩
    | control =>
      rw [site] at lasts
      rcases lasts with ⟨row, member, same, unexpired⟩
      rcases adminSiweNonces row member with ⟨kept, stays, hash, expiry⟩
      refine ⟨kept, stays, hash.trans same, ?_⟩
      rw [expiry]
      exact unexpired
  verified := holds.verified
  spent spent revived := holds.spent spent (live revived)

theorem SignIns.Holds.transfer (holds : state.Holds config grip time)
    (issued : after.issued = state.issued)
    (adminSiweNonces : after.adminSiweNonces = state.adminSiweNonces)
    (rows : ∀ row ∈ after.siweNonces, row ∈ state.siweNonces) :
    after.Holds config grip time := by
  refine holds.mono ?_ ?_ ?_
  · rw [issued]
    exact fun _ => id
  · rw [adminSiweNonces]
    exact fun row member => ⟨row, member, rfl, rfl⟩
  · rintro (⟨row, member, same⟩ | ⟨row, member, known⟩)
    · exact Or.inl ⟨row, rows row member, same⟩
    · exact Or.inr ⟨row, adminSiweNonces ▸ member, known⟩

/-- Only a wallet verify holds a nonce that it has not spent. -/
theorem Request.site_of_unspent (holds : old.grip = some grip) (unspent : grip.spent ≠ true) :
    grip.site = .arena := by
  cases old with
  | walletVerify login displayNameLength stage =>
    cases stage <;> cases holds <;> rfl
  | adminVerify login stage =>
    cases stage <;> cases holds <;> exact absurd rfl unspent
  | _ => cases holds

namespace SignIns.SpentOnce

variable (inv : state.SpentOnce config)

include inv

/-- Wallet nonces are told apart by their hashes. -/
theorem issued_eq {row other : SiweNonce} (member : row ∈ state.issued)
    (known : other ∈ state.issued)
    (same : config.hashAdminSecret row.nonce = config.hashAdminSecret other.nonce) :
    row = other :=
  List.inj_on_of_nodup_map (List.nodup_append.mp inv.issuedOnce).1 member known same

theorem admin_eq {row other : AdminSiweNonce} (member : row ∈ state.adminSiweNonces)
    (known : other ∈ state.adminSiweNonces)
    (same : row.nonceHash = other.nonceHash) : row = other :=
  List.inj_on_of_nodup_map (List.nodup_append.mp inv.issuedOnce).2.1 member known same

/-- No admin nonce has the hash of a wallet nonce. -/
theorem issued_ne_admin {row : SiweNonce} {other : AdminSiweNonce} (member : row ∈ state.issued)
    (known : other ∈ state.adminSiweNonces) : config.hashAdminSecret row.nonce ≠ other.nonceHash :=
  (List.nodup_append.mp inv.issuedOnce).2.2 _ (List.mem_map_of_mem (f := fun row : SiweNonce =>
    config.hashAdminSecret row.nonce) member) _
    (List.mem_map_of_mem (f := AdminSiweNonce.nonceHash) known)

/-- Nobody but a waiting wallet verify holds a nonce that is live. -/
theorem site_of_live {request : Request} (member : request ∈ state.requests)
    (holds : request.grip = some grip) (live : state.Live config (grip.hash config)) :
    grip.spent ≠ true ∧ grip.site = .arena := by
  have unspent : grip.spent ≠ true := fun spent =>
    (inv.grips request member grip holds).spent spent live
  exact ⟨unspent, Request.site_of_unspent holds unspent⟩

/-- What is live has not opened a session. -/
theorem unused_of_live {nonceHash : String} (live : state.Live config nonceHash) :
    nonceHash ∉ state.opened.map (·.grip.hash config) := by
  intro member
  rcases List.mem_map.mp member with ⟨opened, known, rfl⟩
  exact (inv.opened opened known).spent rfl live

omit inv

/-! ### One request goes on -/

/-- A request goes on, and what it holds is used at most once. -/
theorem goTo (inv : state.SpentOnce config) (reads : new.Reads)
    (holds : ∀ grip ∈ new.grip, state.Holds config grip state.clock)
    (once : UsedOnce (·.gripHash config) (state.requests.set index new)
        (state.opened.map (·.grip.hash config))) :
    (state.goTo index new).SpentOnce config where
  rows := inv.rows
  issuedOnce := inv.issuedOnce
  reads := by
    intro request member
    rcases List.mem_or_eq_of_mem_set member with known | rfl
    · exact inv.reads request known
    · exact reads
  grips := by
    intro request member grip held
    rcases List.mem_or_eq_of_mem_set member with known | rfl
    · exact (inv.grips request known grip held).transfer rfl rfl fun _ => id
    · exact (holds grip held).transfer rfl rfl fun _ => id
  opened session member := (inv.opened session member).transfer rfl rfl fun _ => id
  once := once

/-- A request lets its nonce go, or has none. -/
theorem release (inv : state.SpentOnce config)
    (found : state.requests[index]? = some old) (idle : new.Idle) :
    (state.goTo index new).SpentOnce config := by
  refine inv.goTo idle.reads ?_ (inv.once.release found ?_)
  · intro grip held
    rw [idle.grip] at held
    cases held
  · rw [Request.gripHash, idle.grip]
    rfl

/-- A request ends. -/
theorem finish (inv : state.SpentOnce config)
    (found : state.requests[index]? = some old) {response : Response} :
    (state.goTo index (.finished response)).SpentOnce config := inv.release found ⟨rfl, trivial⟩

/-- A request goes on with the nonce that it holds. -/
theorem keep (inv : state.SpentOnce config) (found : state.requests[index]? = some old)
    {before : Grip} (held : old.grip = some before)
    (holds : new.grip = some grip) (same : grip.nonce = before.nonce)
    (reads : new.Reads) (known : state.Holds config grip state.clock) :
    (state.goTo index new).SpentOnce config := by
  refine inv.goTo reads ?_ (inv.once.keep found ?_)
  · intro other held
    rw [holds] at held
    cases held
    exact known
  · simp only [Request.gripHash, Grip.hash, held, holds, same, Option.map_some]

/-- A request takes a nonce that is live and that nobody holds. -/
theorem take (inv : state.SpentOnce config)
    (found : state.requests[index]? = some old) (empty : old.grip = none)
    (holds : new.grip = some grip) (reads : new.Reads) (known : state.Holds config grip state.clock)
    (free : ∀ request ∈ state.requests, ∀ other ∈ request.grip,
        other.hash config ≠ grip.hash config)
    (unused : grip.hash config ∉ state.opened.map (·.grip.hash config)) :
    (state.goTo index new).SpentOnce config := by
  refine inv.goTo reads ?_ ?_
  · intro other held
    rw [holds] at held
    cases held
    exact known
  · have none : old.gripHash config = none := by
      rw [Request.gripHash, empty]
      rfl
    have taken : new.gripHash config = some (grip.hash config) := by
      rw [Request.gripHash, holds]
      rfl
    refine inv.once.take found none taken ?_ unused
    intro request member same
    rcases Option.map_eq_some_iff.mp same with ⟨other, held, equal⟩
    exact free request member other held equal

/-- A request opens a session with its nonce. -/
theorem use (inv : state.SpentOnce config) (found : state.requests[index]? = some old)
    {site : Site} {login : Login} {nonce : String} {response : Response}
    (held : old.grip = some ⟨site, login, nonce, true, true⟩) :
    ({ state with
        opened := ⟨site, login, nonce, state.clock⟩ :: state.opened }.goTo
      index (.finished response)).SpentOnce config where
  rows := inv.rows
  issuedOnce := inv.issuedOnce
  reads := by
    intro request member
    rcases List.mem_or_eq_of_mem_set member with known | rfl
    · exact inv.reads request known
    · trivial
  grips := by
    intro request member grip holds
    rcases List.mem_or_eq_of_mem_set member with known | rfl
    · exact (inv.grips request known grip holds).transfer rfl rfl fun _ => id
    · cases holds
  opened := by
    intro opened member
    rcases List.mem_cons.mp member with rfl | known
    · have last := inv.grips old (List.mem_of_getElem? found) _ held
      exact last.transfer rfl rfl fun _ => id
    · exact (inv.opened opened known).transfer rfl rfl fun _ => id
  once := by
    refine inv.once.use found ?_ rfl
    rw [Request.gripHash, held]
    rfl

/-- A request joins. -/
theorem join (inv : state.SpentOnce config) (idle : new.Idle) :
    (state.join new).SpentOnce config where
  rows := inv.rows
  issuedOnce := inv.issuedOnce
  reads := by
    intro request member
    rcases List.mem_append.mp member with known | joined
    · exact inv.reads request known
    · rw [List.mem_singleton.mp joined]
      exact idle.reads
  grips := by
    intro request member grip holds
    rcases List.mem_append.mp member with known | joined
    · exact (inv.grips request known grip holds).transfer rfl rfl fun _ => id
    · rw [List.mem_singleton.mp joined, idle.grip] at holds
      cases holds
  opened session member := (inv.opened session member).transfer rfl rfl fun _ => id
  once := by
    refine inv.once.join ?_
    rw [Request.gripHash, idle.grip]
    rfl

/-! ### The tables change -/

/-- The tables change and keep what is known of the nonces that were checked. -/
theorem change (inv : state.SpentOnce config) (requests : after.requests = state.requests)
    (opened : after.opened = state.opened) (rows : ∀ row ∈ after.siweNonces, row ∈ after.issued)
    (issuedOnce : (after.issuedHashes config).Nodup)
    (current : ∀ grip, state.Holds config grip state.clock →
        ∀ request ∈ state.requests, request.grip = some grip → after.Holds config grip after.clock)
    (past : ∀ grip time, state.Holds config grip time → after.Holds config grip time) :
    after.SpentOnce config where
  rows := rows
  issuedOnce := issuedOnce
  reads := by
    rw [requests]
    exact inv.reads
  grips := by
    rw [requests]
    intro request member grip holds
    exact current grip (inv.grips request member grip holds) request member holds
  opened := by
    rw [opened]
    intro session member
    exact past _ _ (inv.opened session member)
  once := by
    rw [requests, opened]
    exact inv.once

/-- Rows of wallet nonces are deleted. -/
theorem shrink (inv : state.SpentOnce config) {rows : List SiweNonce}
    (subset : ∀ row ∈ rows, row ∈ state.siweNonces) :
    SignIns.SpentOnce config { state with siweNonces := rows } := by
  have past (grip : Grip) (time : Int) (holds : state.Holds config grip time) :
      SignIns.Holds config { state with siweNonces := rows } grip time :=
    holds.transfer rfl rfl subset
  exact inv.change rfl rfl (fun row member => inv.rows row (subset row member))
    inv.issuedOnce (fun grip holds _ _ _ => past grip _ holds) past

/-- A wallet nonce is issued that was not issued before. -/
theorem issue (inv : state.SpentOnce config) {row : SiweNonce}
    (fresh : ¬ state.HasIssued config (config.hashAdminSecret row.nonce)) :
    SignIns.SpentOnce config
      { state with
        siweNonces := row :: state.siweNonces
        issued := row :: state.issued } := by
  have past (grip : Grip) (time : Int) (holds : state.Holds config grip time) :
      SignIns.Holds config
        { state with
          siweNonces := row :: state.siweNonces
          issued := row :: state.issued } grip time := by
    refine holds.mono (fun _ => List.mem_cons_of_mem _)
      (fun other member => ⟨other, member, rfl, rfl⟩) ?_
    rintro (⟨other, member, same⟩ | live)
    · rcases List.mem_cons.mp member with rfl | known
      · rw [same] at fresh
        exact absurd holds.hasIssued fresh
      · exact Or.inl ⟨other, known, same⟩
    · exact Or.inr live
  refine inv.change rfl rfl ?_ ?_ (fun grip holds _ _ _ => past grip _ holds) past
  · intro other member
    rcases List.mem_cons.mp member with rfl | known
    · exact List.mem_cons_self
    · exact List.mem_cons_of_mem _ (inv.rows other known)
  · exact List.nodup_cons.mpr ⟨fun member => fresh (mem_issuedHashes.mp member), inv.issuedOnce⟩

/-- An admin nonce is issued whose hash is that of no other nonce. -/
theorem issueAdmin (inv : state.SpentOnce config) {nonceHash : String} {expiresAt : Int}
    (fresh : ¬ state.HasIssued config nonceHash) :
    SignIns.SpentOnce config
      { state with
        adminSiweNonces := ⟨nonceHash, expiresAt, none⟩ :: state.adminSiweNonces } := by
  have past (grip : Grip) (time : Int) (holds : state.Holds config grip time) :
      SignIns.Holds config
        { state with
          adminSiweNonces := ⟨nonceHash, expiresAt, none⟩ :: state.adminSiweNonces } grip
        time := by
    refine holds.mono (fun _ => id)
      (fun other member => ⟨other, List.mem_cons_of_mem _ member, rfl, rfl⟩) ?_
    rintro (live | ⟨other, member, same, unconsumed⟩)
    · exact Or.inl live
    · rcases List.mem_cons.mp member with rfl | known
      · rw [show nonceHash = _ from same] at fresh
        exact absurd holds.hasIssued fresh
      · exact Or.inr ⟨other, known, same, unconsumed⟩
  refine inv.change rfl rfl inv.rows ?_ (fun grip holds _ _ _ => past grip _ holds) past
  refine List.perm_middle.nodup_iff.mpr ?_
  exact List.nodup_cons.mpr ⟨fun member => fresh (mem_issuedHashes.mp member), inv.issuedOnce⟩

/-- An admin nonce is consumed. -/
theorem consume (inv : state.SpentOnce config) {nonceHash : String} :
    (state.consumeAdminNonce nonceHash).SpentOnce config := by
  have consumed (row : AdminSiweNonce) :
      (if SignIns.isConsumable state.clock nonceHash row then
          { row with consumedAt := some state.clock }
        else row).nonceHash = row.nonceHash ∧
        (if SignIns.isConsumable state.clock nonceHash row then
          { row with consumedAt := some state.clock }
        else row).expiresAt = row.expiresAt := by
    split
    · exact ⟨rfl, rfl⟩
    · exact ⟨rfl, rfl⟩
  have past (grip : Grip) (time : Int) (holds : state.Holds config grip time) :
      (state.consumeAdminNonce nonceHash).Holds config grip time := by
    refine holds.mono (fun _ => id) ?_ ?_
    · intro row member
      exact ⟨_, List.mem_map_of_mem member, consumed row⟩
    · rintro (live | ⟨row, member, same, unconsumed⟩)
      · exact Or.inl live
      · rcases List.mem_map.mp member with ⟨before, known, rfl⟩
        refine Or.inr ⟨before, known, (consumed before).1.symm.trans same, ?_⟩
        split at unconsumed
        · cases unconsumed
        · exact unconsumed
  refine inv.change rfl rfl inv.rows ?_ (fun grip holds _ _ _ => past grip _ holds) past
  have hashes : (state.consumeAdminNonce nonceHash).issuedHashes config =
      state.issuedHashes config := by
    rw [SignIns.issuedHashes, SignIns.consumeAdminNonce, List.map_map]
    refine congrArg (_ ++ ·) (List.map_congr_left fun row _ => ?_)
    exact (consumed row).1
  rw [hashes]
  exact inv.issuedOnce

/-- A nonce that has been consumed is not live. -/
theorem not_live_of_consumed (inv : state.SpentOnce config) {row : AdminSiweNonce}
    (member : row ∈ state.adminSiweNonces)
    (consumable : SignIns.isConsumable state.clock row.nonceHash row = true) :
    ¬ (state.consumeAdminNonce row.nonceHash).Live config row.nonceHash := by
  rintro (⟨other, known, same⟩ | ⟨other, known, same, unconsumed⟩)
  · exact inv.issued_ne_admin (inv.rows other known) member same
  · rcases List.mem_map.mp known with ⟨before, listed, rfl⟩
    split at unconsumed
    case isTrue => cases unconsumed
    case isFalse spared =>
      rw [if_neg spared] at same
      rw [inv.admin_eq listed member same] at spared
      exact spared consumable

/-- A wallet nonce that has been deleted is not live. -/
theorem not_live_of_deleted (inv : state.SpentOnce config) {row : SiweNonce}
    (member : row ∈ state.issued) : ¬ (state.deleteNonce row.address row.nonce).Live config
    (config.hashAdminSecret row.nonce) := by
  rintro (⟨other, known, same⟩ | ⟨other, known, same, -⟩)
  · rcases List.mem_filter.mp known with ⟨listed, kept⟩
    rw [inv.issued_eq (inv.rows other listed) member same] at kept
    exact absurd ⟨rfl, rfl⟩ (of_decide_eq_true kept)
  · exact inv.issued_ne_admin member known same.symm

/-- Time passes while what has been checked lasts. -/
theorem tick (inv : state.SpentOnce config) {terms : String → StepUpTerms} {ms : Nat}
    (lasts : ∀ request ∈ state.requests,
        state.AdmitsUntil config terms (state.clock + ms) request) :
    SignIns.SpentOnce config { state with clock := state.clock + ms } := by
  refine inv.change rfl rfl inv.rows inv.issuedOnce ?_ ?_
  · intro grip holds request member held
    have later := (lasts request member).1 grip held
    refine ⟨holds.nonce, ?_, holds.verified, holds.spent⟩
    have issued := holds.lasts
    rw [SignIns.NonceLasts] at later
    cases site : grip.site with
    | arena =>
      rw [site] at issued later
      rcases issued with ⟨row, member, address, nonce, -⟩
      exact ⟨row, member, address, nonce, later row member address nonce⟩
    | control =>
      rw [site] at issued later
      rcases issued with ⟨row, member, same, -⟩
      exact ⟨row, member, same, later row member same⟩
  · intro grip time holds
    exact holds.transfer rfl rfl fun _ => id

/-- Other tables and records do not matter. -/
theorem elsewhere (inv : state.SpentOnce config) (adminSessions : List AdminSession)
    (steppedUp : List SteppedUp) :
    SignIns.SpentOnce config
      { state with adminSessions := adminSessions, steppedUp := steppedUp } :=
  inv.change rfl rfl inv.rows inv.issuedOnce
    (fun _ holds _ _ _ => holds.transfer rfl rfl fun _ => id)
    fun _ _ holds => holds.transfer rfl rfl fun _ => id

end SignIns.SpentOnce

end Mozetto.SignIn
