import Mozetto.SignIn.NonceUse
import Mozetto.Library.SingleUse

/-!
# Handlers and their nonces

Each statement of a handler spends at most the nonce that its request holds.
A wallet verify takes a nonce when it finds its row, and its signature check
and its deletion go on with it; an admin verify takes the nonce that it
consumes.  Nothing else takes one.
-/

namespace Mozetto.SignIn

variable {config : SignInConfig} {state after : SignIns}
variable {old : Request} {index : Nat} {answer : Answer}

namespace SignIns.SpentOnce

/-! ## Nonces -/

theorem keptByInsertNonce (inv : state.SpentOnce config) (found : state.requests[index]? = some old)
    {row : SiweNonce} (fresh : ¬ state.HasIssued config (config.hashAdminSecret row.nonce)) :
    (state.insertNonce index row).SpentOnce config := by
  rw [SignIns.insertNonce]
  split
  · exact inv.finish found
  · exact (inv.issue fresh).finish found

theorem keptByInsertAdminNonce
    (inv : state.SpentOnce config) (found : state.requests[index]? = some old)
    {nonceHash : String} {expiresAt : Int} (fresh : ¬ state.HasIssued config nonceHash) :
    (state.insertAdminNonce index nonceHash expiresAt).SpentOnce config := by
  rw [SignIns.insertAdminNonce]
  split
  · exact inv.finish found
  · exact (inv.issueAdmin fresh).finish found

/-! ## Wallet verifies -/

/-- A wallet verify takes the nonce whose row it finds. -/
theorem keptBySelectNonce (inv : state.SpentOnce config)
    {login : Login} {displayNameLength : Nat} {isNewAccount : Bool}
    {nonce : String} {row : SiweNonce}
    (found : state.requests[index]? = some (.walletVerify login displayNameLength
          (.selectNonce isNewAccount nonce)))
    (member : row ∈ state.siweNonces) (address : row.address = login.address)
    (same : row.nonce = nonce) (unexpired : state.clock < row.expiresAt)
    (unchecked : state.Unchecked login.address nonce) :
    (state.goTo index (.walletVerify login displayNameLength
        (.verifyMessage isNewAccount nonce))).SpentOnce config := by
  have issued := inv.rows row member
  have live : state.Live config (config.hashAdminSecret nonce) := by
    rw [← same]
    exact Or.inl ⟨row, member, rfl⟩
  have read := inv.reads _ (List.mem_of_getElem? found)
  refine inv.take found rfl rfl trivial ⟨read, ⟨row, issued, address, same, unexpired⟩, ?_, ?_⟩ ?_
    (inv.unused_of_live live)
  · intro verified
    cases verified
  · intro spent
    cases spent
  · intro request known grip held equal
    have waits := inv.site_of_live known held (equal ▸ live)
    have lasts := (inv.grips request known grip held).lasts
    rw [waits.2] at lasts
    rcases lasts with ⟨other, listed, sameAddress, sameNonce, -⟩
    have hashes : config.hashAdminSecret other.nonce = config.hashAdminSecret row.nonce := by
      rw [sameNonce, same]
      exact equal
    rw [inv.issued_eq listed issued hashes] at sameAddress sameNonce
    refine waits.1 (unchecked request known grip held ?_ ?_)
    · exact sameAddress.symm.trans address
    · exact sameNonce.symm.trans same

theorem keptByExecuteWalletVerify (inv : state.SpentOnce config) {terms : String → StepUpTerms}
    {login : Login} {displayNameLength : Nat} {stage : WalletVerifyStage}
    (found : state.requests[index]? = some (.walletVerify login displayNameLength stage))
    (careful : state.Careful config terms (.walletVerify login displayNameLength stage)) :
    (state.executeWalletVerify config index answer login displayNameLength
      stage).SpentOnce config := by
  have member := List.mem_of_getElem? found
  cases stage with
  | selectAccount =>
    simp only [SignIns.executeWalletVerify]
    split
    · exact inv.finish found
    · split
      · exact inv.finish found
      · rename_i nonce read
        exact inv.release found ⟨rfl, read⟩
  | selectNonce isNewAccount nonce =>
    simp only [SignIns.executeWalletVerify]
    split
    · exact inv.finish found
    · rename_i present
      split
      · exact inv.finish found
      · split
        · exact inv.finish found
        · rcases List.any_eq_true.mp (not_not.mp present) with ⟨row, listed, matched⟩
          rcases of_decide_eq_true matched with ⟨address, same, unexpired⟩
          exact inv.keptBySelectNonce found listed address same unexpired careful
  | verifyMessage isNewAccount nonce =>
    simp only [SignIns.executeWalletVerify]
    split
    · rename_i valid
      have holds := inv.grips _ member _ rfl
      refine inv.keep found rfl rfl rfl trivial
        ⟨holds.nonce, holds.lasts, fun _ => ⟨valid, careful valid⟩, ?_⟩
      intro spent
      cases spent
    · exact inv.finish found
  | deleteNonce isNewAccount nonce =>
    have holds := inv.grips _ member _ rfl
    rcases holds.lasts with ⟨row, issued, address, same, unexpired⟩
    have deleted := inv.not_live_of_deleted issued
    simp only at address same
    rw [address, same] at deleted
    have shrunk : (state.deleteNonce login.address nonce).SpentOnce config :=
      inv.shrink fun _ kept => (List.mem_filter.mp kept).1
    exact shrunk.keep found rfl rfl rfl trivial
      ⟨holds.nonce, ⟨row, issued, address, same, unexpired⟩, holds.verified, fun _ => deleted⟩
  | account nonce left =>
    cases left with
    | nil => exact inv.use found rfl
    | cons statement left =>
      rw [SignIns.executeWalletVerify]
      cases stops : SignIns.missing statement answer.found with
      | none =>
        exact inv.keep found rfl rfl rfl trivial (inv.grips _ member _ rfl)
      | some ended =>
        have refused : ∃ response, ended = .finished response := by
          rw [SignIns.missing.eq_def] at stops
          split at stops
          · cases stops
            exact ⟨_, rfl⟩
          · cases stops
            exact ⟨_, rfl⟩
          · cases stops
        rcases refused with ⟨response, rfl⟩
        exact inv.finish found

/-! ## Admin verifies -/

/-- An admin verify takes the nonce that it consumes. -/
theorem keptByConsumeAdminNonce (inv : state.SpentOnce config)
    {login : Login} {nonce : String} {row : AdminSiweNonce}
    (found : state.requests[index]? = some (.adminVerify login (.consumeAdminNonce nonce)))
    (member : row ∈ state.adminSiweNonces)
    (same : row.nonceHash = config.hashAdminSecret nonce)
    (consumable : SignIns.isConsumable state.clock row.nonceHash row = true) :
    ((state.consumeAdminNonce row.nonceHash).goTo index
      (.adminVerify login (.verifyMessage nonce))).SpentOnce config := by
  rcases of_decide_eq_true consumable with ⟨-, unconsumed, unexpired⟩
  have live : state.Live config (config.hashAdminSecret nonce) :=
    Or.inr ⟨row, member, same, unconsumed⟩
  have spent := inv.not_live_of_consumed member consumable
  have read := inv.reads _ (List.mem_of_getElem? found)
  have lasts : ∃ kept ∈ (state.consumeAdminNonce row.nonceHash).adminSiweNonces,
      kept.nonceHash = config.hashAdminSecret nonce ∧ state.clock < kept.expiresAt := by
    refine ⟨_, List.mem_map_of_mem member, ?_⟩
    rw [if_pos consumable]
    exact ⟨same, unexpired⟩
  refine (inv.consume).take found rfl rfl trivial ⟨read, lasts, ?_, ?_⟩ ?_ (inv.unused_of_live live)
  · intro verified
    cases verified
  · intro _ revived
    rw [same] at spent revived
    exact spent revived
  · intro request known grip held equal
    have waits := inv.site_of_live known held (equal ▸ live)
    have issued := (inv.grips request known grip held).lasts
    rw [waits.2] at issued
    rcases issued with ⟨other, listed, -, sameNonce, -⟩
    refine inv.issued_ne_admin listed member ?_
    rw [sameNonce, same]
    exact equal

theorem keptByExecuteAdminVerify (inv : state.SpentOnce config) {terms : String → StepUpTerms}
    {login : Login} {stage : AdminVerifyStage}
    (found : state.requests[index]? = some (.adminVerify login stage))
    (careful : state.Careful config terms (.adminVerify login stage)) :
    (state.executeAdminVerify config index answer login stage).SpentOnce
      config := by
  have member := List.mem_of_getElem? found
  cases stage with
  | consumeAdminNonce nonce =>
    simp only [SignIns.executeAdminVerify]
    split
    · rename_i present
      rcases List.any_eq_true.mp present with ⟨row, listed, consumable⟩
      have same := (of_decide_eq_true consumable).1
      rw [← same] at consumable ⊢
      exact inv.keptByConsumeAdminNonce found listed same consumable
    · exact inv.finish found
  | verifyMessage nonce =>
    simp only [SignIns.executeAdminVerify]
    split
    · exact inv.finish found
    · rename_i valid
      split
      · exact inv.finish found
      · have holds := inv.grips _ member _ rfl
        have verified := not_not.mp valid
        exact inv.keep found rfl rfl rfl trivial ⟨holds.nonce, holds.lasts,
            fun _ => ⟨verified, careful verified⟩, holds.spent⟩
  | loadActiveAdminPrincipal nonce =>
    rw [SignIns.executeAdminVerify]
    cases answer.principal with
    | none => exact inv.finish found
    | some principal =>
      exact inv.keep found rfl rfl rfl trivial (inv.grips _ member _ rfl)
  | createAdminWalletSession nonce principal =>
    have created : (state.createAdminWalletSession config answer.uuid login.address
        principal.role).SpentOnce config := inv.elsewhere _ _
    exact created.use found rfl

/-! ## Step-ups -/

theorem keptByExecuteStepUp (inv : state.SpentOnce config) {body : StepUpBody} {stage : StepUpStage}
    (found : state.requests[index]? = some (.stepUp body stage)) :
    (state.executeStepUp config index body stage).SpentOnce config := by
  have byToken (role : Option String) : (stepUpByToken role).Idle := by
    rw [stepUpByToken.eq_def]
    split
    · exact ⟨rfl, trivial⟩
    · split
      · exact ⟨rfl, trivial⟩
      · exact ⟨rfl, trivial⟩
  have checked (session : AdminSession) : (SignIns.stepUpChecked body session).Idle := by
    rw [SignIns.stepUpChecked]
    repeat' split
    all_goals exact ⟨rfl, trivial⟩
  cases stage with
  | selectSession sessionId =>
    rw [SignIns.executeStepUp]
    split
    · exact inv.release found (byToken _)
    · exact inv.release found ⟨rfl, trivial⟩
  | updateLastSeen session =>
    have touched :
        (state.updateSession session.id fun row =>
          { row with lastSeenAt := state.clock }).SpentOnce config :=
      inv.elsewhere _ _
    exact touched.release found (checked session)
  | verifyMessage session =>
    rw [SignIns.executeStepUp]
    split
    · exact inv.release found ⟨rfl, trivial⟩
    · exact inv.finish found
  | queryStepUp session =>
    have refreshed :
        SignIns.SpentOnce config
          { state.queryStepUp session.id with
            steppedUp := ⟨session, body, state.clock⟩ :: state.steppedUp } :=
      inv.elsewhere _ _
    exact refreshed.finish found

/-! ## Requests that come in -/

theorem idle_walletNonce (address : String) (chainId : Option Nat) (nonce : String) (now : Int) :
    (walletNonce address chainId nonce now).Idle := by
  simp only [walletNonce]
  repeat' split
  all_goals exact ⟨rfl, trivial⟩

theorem idle_walletVerify (body : VerifyBody) : (walletVerify body).Idle := by
  simp only [walletVerify]
  repeat' split
  all_goals exact ⟨rfl, trivial⟩

theorem idle_adminNonce (config : SignInConfig) (nonce : String) (now : Int) :
    (adminNonce config nonce now).Idle := by
  rw [adminNonce]
  split
  · exact ⟨rfl, trivial⟩
  · exact ⟨rfl, trivial⟩

theorem idle_adminVerify (config : SignInConfig) (body : VerifyBody) :
    (adminVerify config body).Idle := by
  simp only [adminVerify]
  repeat' split
  case h_2 nonce read => exact ⟨rfl, read⟩
  all_goals exact ⟨rfl, trivial⟩

theorem idle_stepUp (config : SignInConfig) (body : StepUpBody) : (stepUp config body).Idle := by
  simp only [stepUp, stepUpByToken]
  repeat' split
  all_goals exact ⟨rfl, trivial⟩

/-! ## Steps -/

/-- A careful step spends each nonce at most once. -/
theorem step (inv : state.SpentOnce config) {terms : String → StepUpTerms}
    {action : SignInAction} (inTurn : state.InTurn config terms action)
    (accepted : state.step config action = .ok after) :
    after.SpentOnce config := by
  cases action with
  | tick ms =>
    cases accepted
    exact inv.tick inTurn
  | walletNonce address chainId nonce =>
    cases accepted
    exact inv.join (idle_walletNonce address chainId nonce state.clock)
  | walletVerify body =>
    cases accepted
    exact inv.join (idle_walletVerify body)
  | adminNonce nonce =>
    cases accepted
    exact inv.join (idle_adminNonce config nonce state.clock)
  | adminVerify body =>
    cases accepted
    exact inv.join (idle_adminVerify config body)
  | stepUp body =>
    cases accepted
    exact inv.join (idle_stepUp config body)
  | revokeAdminSession sessionId =>
    cases accepted
    exact inv.elsewhere _ _
  | perform index reply =>
    simp only [SignIns.step, SignIns.perform] at accepted
    cases found : state.requests[index]? with
    | none =>
      rw [found] at accepted
      cases accepted
    | some request =>
      rw [found] at accepted
      cases reply with
      | fails =>
        have thrown : (state.goTo index (.finished .threw)).SpentOnce config :=
          inv.finish found
        cases request <;> cases accepted <;> exact thrown
      | executed answer =>
        have careful := inTurn request found
        cases request with
        | deleteNonces row =>
          cases accepted
          have shrunk : (state.deleteNonces row).SpentOnce config :=
            inv.shrink fun _ kept => (List.mem_filter.mp kept).1
          exact shrunk.release found ⟨rfl, trivial⟩
        | insertNonce row =>
          cases accepted
          exact inv.keptByInsertNonce found careful
        | insertAdminNonce nonceHash expiresAt =>
          cases accepted
          exact inv.keptByInsertAdminNonce found careful
        | walletVerify login displayNameLength stage =>
          cases accepted
          exact inv.keptByExecuteWalletVerify found careful
        | adminVerify login stage =>
          cases accepted
          exact inv.keptByExecuteAdminVerify found careful
        | stepUp body stage =>
          cases accepted
          exact inv.keptByExecuteStepUp found
        | finished response => cases accepted

end SignIns.SpentOnce

end Mozetto.SignIn

/-!
## Step-ups that are used once

While signatures are used with care, a step-up message waits in at most one
request and refreshes at most one session, under the terms it was signed for.
Only the signature check of a step-up takes a message, and only its last
statement uses one.
-/

namespace Mozetto.SignIn

open Mozetto.Library.SingleUse

/-- The step-up message that a request is about to use. -/
def Request.stepUpMessage (request : Request) : Option String := request.refresh.map (·.1.message)

/-- What has been stepped up, and what is about to be. -/
structure SignIns.RefreshedOnce
    (config : SignInConfig) (terms : String → StepUpTerms) (state : SignIns) : Prop where
  once : UsedOnce Request.stepUpMessage state.requests (state.steppedUp.map (·.body.message))
  waiting : ∀ request ∈ state.requests, ∀ refresh ∈ request.refresh,
      refresh.1.Meets config terms refresh.2 state.clock
  done : ∀ done ∈ state.steppedUp, done.body.Meets config terms done.session done.steppedUpAt

variable {config : SignInConfig} {terms : String → StepUpTerms}
variable {state after : SignIns} {old new : Request} {index : Nat}
variable {answer : Answer}

/-! ### Requests that refresh nothing -/

/-- One request goes on and is not about to refresh a session. -/
structure GoesOn (state : SignIns) (index : Nat) (after : SignIns) : Prop where
  clock : after.clock = state.clock
  steppedUp : after.steppedUp = state.steppedUp
  requests : ∃ new, new.refresh = none ∧ after.requests = state.requests.set index new

theorem goesOn_executeWalletVerify
    {login : Login} {displayNameLength : Nat} {stage : WalletVerifyStage} : GoesOn state index
    (state.executeWalletVerify config index answer login displayNameLength stage) := by
  cases stage with
  | account nonce left =>
    cases left with
    | nil => exact ⟨rfl, rfl, _, rfl, rfl⟩
    | cons statement left =>
      refine ⟨rfl, rfl, _, ?_, rfl⟩
      rw [SignIns.missing.eq_def]
      split
      · rfl
      · rfl
      · rfl
  | _ =>
    simp only [SignIns.executeWalletVerify]
    repeat' split
    all_goals exact ⟨rfl, rfl, _, rfl, rfl⟩

theorem goesOn_executeAdminVerify {login : Login} {stage : AdminVerifyStage} : GoesOn state index
    (state.executeAdminVerify config index answer login stage) := by
  cases stage <;> simp only [SignIns.executeAdminVerify]
  all_goals repeat' split
  all_goals exact ⟨rfl, rfl, _, rfl, rfl⟩

theorem refresh_stepUpByToken (role : Option String) : (stepUpByToken role).refresh = none := by
  rw [stepUpByToken.eq_def]
  split
  · rfl
  · split
    · rfl
    · rfl

theorem refresh_stepUpChecked (body : StepUpBody) (session : AdminSession) :
    (SignIns.stepUpChecked body session).refresh = none := by
  rw [SignIns.stepUpChecked]
  repeat' split
  all_goals rfl

namespace SignIns.RefreshedOnce

theorem goesOn (inv : state.RefreshedOnce config terms) (found : state.requests[index]? = some old)
    (goes : GoesOn state index after) :
    after.RefreshedOnce config terms := by
  rcases goes with ⟨clock, steppedUp, new, empty, requests⟩
  have released : new.stepUpMessage = none := by
    rw [Request.stepUpMessage, empty]
    rfl
  refine ⟨?_, ?_, ?_⟩
  · rw [requests, steppedUp]
    exact inv.once.release found released
  · rw [requests, clock]
    intro request member refresh held
    rcases List.mem_or_eq_of_mem_set member with known | rfl
    · exact inv.waiting request known refresh held
    · rw [empty] at held
      cases held
  · rw [steppedUp]
    exact inv.done

/-- A request joins that is not about to refresh a session. -/
theorem join (inv : state.RefreshedOnce config terms) (empty : new.refresh = none) :
    (state.join new).RefreshedOnce config terms where
  once := by
    refine inv.once.join ?_
    rw [Request.stepUpMessage, empty]
    rfl
  waiting := by
    intro request member refresh held
    rcases List.mem_append.mp member with known | joined
    · exact inv.waiting request known refresh held
    · rw [List.mem_singleton.mp joined, empty] at held
      cases held
  done := inv.done

theorem tick (inv : state.RefreshedOnce config terms) {ms : Nat}
    (lasts : ∀ request ∈ state.requests,
        state.AdmitsUntil config terms (state.clock + ms) request) :
    SignIns.RefreshedOnce config terms { state with clock := state.clock + ms } where
  once := inv.once
  waiting := by
    intro request member refresh held
    have meets := inv.waiting request member refresh held
    have later : state.clock ≤ state.clock + ms :=
      Int.le_add_of_nonneg_right (Int.natCast_nonneg ms)
    exact
      { meets with
        notBefore := meets.notBefore.trans later
        notAfter := (lasts request member).2 refresh held }
  done := inv.done

/-- A signature check takes a message that nobody has used. -/
theorem take (inv : state.RefreshedOnce config terms) {body : StepUpBody} {session : AdminSession}
    (found : state.requests[index]? = some (.stepUp body (.verifyMessage session)))
    (first : state.FirstUse body.message)
    (meets : body.Meets config terms session state.clock) :
    (state.goTo index (.stepUp body (.queryStepUp session))).RefreshedOnce config terms where
  once := by
    refine inv.once.take found rfl rfl ?_ ?_
    · intro request member same
      rcases Option.map_eq_some_iff.mp same with ⟨refresh, held, equal⟩
      exact first.1 request member refresh held equal
    · intro member
      rcases List.mem_map.mp member with ⟨done, known, same⟩
      exact first.2 done known same
  waiting := by
    intro request member refresh held
    rcases List.mem_or_eq_of_mem_set member with known | rfl
    · exact inv.waiting request known refresh held
    · cases held
      exact meets
  done := inv.done

/-- A step-up refreshes its session. -/
theorem use (inv : state.RefreshedOnce config terms) {body : StepUpBody} {session : AdminSession}
    (found : state.requests[index]? = some (.stepUp body (.queryStepUp session))) :
    (state.executeStepUp config index body (.queryStepUp session)).RefreshedOnce config terms where
  once := inv.once.use found rfl rfl
  waiting := by
    intro request member refresh held
    rcases List.mem_or_eq_of_mem_set member with known | rfl
    · exact inv.waiting request known refresh held
    · cases held
  done := by
    intro done member
    rcases List.mem_cons.mp member with rfl | known
    · exact inv.waiting _ (List.mem_of_getElem? found) (body, session) rfl
    · exact inv.done done known

theorem keptByExecuteStepUp (inv : state.RefreshedOnce config terms)
    {body : StepUpBody} {stage : StepUpStage}
    (found : state.requests[index]? = some (.stepUp body stage))
    (careful : state.Careful config terms (.stepUp body stage)) :
    (state.executeStepUp config index body stage).RefreshedOnce config
      terms := by
  cases stage with
  | selectSession sessionId =>
    rw [SignIns.executeStepUp]
    split
    · exact inv.goesOn found ⟨rfl, rfl, _, refresh_stepUpByToken _, rfl⟩
    · exact inv.goesOn found ⟨rfl, rfl, _, rfl, rfl⟩
  | updateLastSeen session =>
    exact inv.goesOn found ⟨rfl, rfl, _, refresh_stepUpChecked body session, rfl⟩
  | verifyMessage session =>
    rw [SignIns.executeStepUp]
    split
    · rename_i valid
      rcases careful valid with ⟨first, meets⟩
      exact inv.take found first meets
    · exact inv.goesOn found ⟨rfl, rfl, _, rfl, rfl⟩
  | queryStepUp session => exact inv.use found

/-- A careful step uses each step-up message at most once. -/
theorem step (inv : state.RefreshedOnce config terms)
    {action : SignInAction} (inTurn : state.InTurn config terms action)
    (accepted : state.step config action = .ok after) :
    after.RefreshedOnce config terms := by
  cases action with
  | tick ms =>
    cases accepted
    exact inv.tick inTurn
  | walletNonce address chainId nonce =>
    cases accepted
    refine inv.join ?_
    simp only [walletNonce]
    repeat' split
    all_goals rfl
  | walletVerify body =>
    cases accepted
    refine inv.join ?_
    simp only [walletVerify]
    repeat' split
    all_goals rfl
  | adminNonce nonce =>
    cases accepted
    refine inv.join ?_
    rw [adminNonce]
    split
    · rfl
    · rfl
  | adminVerify body =>
    cases accepted
    refine inv.join ?_
    simp only [adminVerify]
    repeat' split
    all_goals rfl
  | stepUp body =>
    cases accepted
    refine inv.join ?_
    rw [stepUp]
    split
    · rfl
    · split
      · exact refresh_stepUpByToken _
      · rfl
  | revokeAdminSession sessionId =>
    cases accepted
    exact ⟨inv.once, inv.waiting, inv.done⟩
  | perform index reply =>
    simp only [SignIns.step, SignIns.perform] at accepted
    cases found : state.requests[index]? with
    | none =>
      rw [found] at accepted
      cases accepted
    | some request =>
      rw [found] at accepted
      cases reply with
      | fails =>
        have thrown : (state.goTo index (.finished .threw)).RefreshedOnce config
            terms :=
          inv.goesOn found ⟨rfl, rfl, _, rfl, rfl⟩
        cases request <;> cases accepted <;> exact thrown
      | executed answer =>
        have careful := inTurn request found
        cases request with
        | deleteNonces row =>
          cases accepted
          exact inv.goesOn found ⟨rfl, rfl, _, rfl, rfl⟩
        | insertNonce row =>
          cases accepted
          refine inv.goesOn found ?_
          rw [SignIns.insertNonce]
          split
          · exact ⟨rfl, rfl, _, rfl, rfl⟩
          · exact ⟨rfl, rfl, _, rfl, rfl⟩
        | insertAdminNonce nonceHash expiresAt =>
          cases accepted
          refine inv.goesOn found ?_
          rw [SignIns.insertAdminNonce]
          split
          · exact ⟨rfl, rfl, _, rfl, rfl⟩
          · exact ⟨rfl, rfl, _, rfl, rfl⟩
        | walletVerify login displayNameLength stage =>
          cases accepted
          exact inv.goesOn found goesOn_executeWalletVerify
        | adminVerify login stage =>
          cases accepted
          exact inv.goesOn found goesOn_executeAdminVerify
        | stepUp body stage =>
          cases accepted
          exact inv.keptByExecuteStepUp found careful
        | finished response => cases accepted

end SignIns.RefreshedOnce

end Mozetto.SignIn
