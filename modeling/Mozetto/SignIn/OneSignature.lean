import Mozetto.SignIn.StepUpUse

/-!
# Signatures that authenticate once

In every interleaving in which signatures are used with care, each signed
message opens at most one session, while its nonce lasts, for the site and the
address that it was issued and signed for, and each step-up message refreshes
one session, as it says.  Without care neither is so: two verify requests may
both find a nonce before either deletes its row, an arena login is not asked
which site it was signed for, and a step-up leaves no trace of its message.
-/

namespace Mozetto.SignIn

open Mozetto.Library.TransitionSystem

variable {config : SignInConfig} {state : SignIns}

/-! ## The law holds with care -/

namespace SignIns.SpentOnce

/-- A nonce that has opened a session was issued to no other address. -/
theorem addressee (inv : state.SpentOnce config) {opened : OpenedSession}
    (member : opened ∈ state.opened) {row : SiweNonce}
    (issued : row ∈ state.issued) (same : row.nonce = opened.nonce) :
    opened.site = .arena ∧ row.address = opened.login.address := by
  have lasts := (inv.opened opened member).lasts
  cases opened with
  | mk site login nonce openedAt =>
    cases site with
    | arena =>
      rcases lasts with ⟨other, listed, address, sameNonce, -⟩
      have hashes : config.hashAdminSecret row.nonce = config.hashAdminSecret other.nonce :=
        congrArg _ (same.trans sameNonce.symm)
      rw [inv.issued_eq issued listed hashes]
      exact ⟨rfl, address⟩
    | control =>
      rcases lasts with ⟨other, listed, hash, -⟩
      refine absurd ?_ (inv.issued_ne_admin issued listed)
      rw [hash, same]
      rfl

theorem admitted (inv : state.SpentOnce config) {opened : OpenedSession}
    (member : opened ∈ state.opened) : opened.Admitted config state where
  nonce := (inv.opened opened member).nonce
  verifies := ((inv.opened opened member).verified rfl).1
  signed := ((inv.opened opened member).verified rfl).2
  unexpired := (inv.opened opened member).lasts
  addressee _ issued same := inv.addressee member issued same

/-- A message opens one session, since it has one nonce. -/
theorem messages_nodup (inv : state.SpentOnce config) :
    (state.opened.map (·.login.message)).Nodup := by
  have hashes := List.pairwise_map.mp inv.once.used_nodup
  refine List.pairwise_map.mpr (hashes.imp_of_mem ?_)
  intro first second listed known different same
  have read := (inv.opened first listed).nonce
  have again := (inv.opened second known).nonce
  have message : first.grip.login.message = second.grip.login.message := same
  rw [message, again] at read
  refine different ?_
  rw [Grip.hash, Grip.hash, Option.some.inj read]

theorem initially (empty : NoRequest state) : state.SpentOnce config where
  rows := by
    rw [empty.siweNonces]
    exact fun _ member => absurd member List.not_mem_nil
  issuedOnce := by
    rw [SignIns.issuedHashes, empty.issued, empty.adminSiweNonces]
    exact List.nodup_nil
  reads := by
    rw [empty.requests]
    exact fun _ member => absurd member List.not_mem_nil
  grips := by
    rw [empty.requests]
    exact fun _ member => absurd member List.not_mem_nil
  opened := by
    rw [empty.opened]
    exact fun _ member => absurd member List.not_mem_nil
  once := by
    rw [empty.requests, empty.opened]
    exact .nil _

end SignIns.SpentOnce

theorem SignIns.RefreshedOnce.initially {terms : String → StepUpTerms} (empty : NoRequest state) :
    state.RefreshedOnce config terms where
  once := by
    rw [empty.requests, empty.steppedUp]
    exact .nil _
  waiting := by
    rw [empty.requests]
    exact fun _ member => absurd member List.not_mem_nil
  done := by
    rw [empty.steppedUp]
    exact fun _ member => absurd member List.not_mem_nil

namespace Replays

/-- A signature is the text that it stands for. -/
def plainConfig : SignInConfig where
  domain := "arena"
  uri := "https://arena"
  adminSiweDomain := "control"
  adminSiweUri := "https://control"
  adminSiweChainId := 84532
  adminAuthConfigured := true
  adminSessionTtlMs := 21600000
  isAllowlistedAddress _ := true
  hashAdminSecret := id
  verifyMessage _ address message signature :=
    signature = address ++ " signs " ++ message

def wallet : String := "0x00000000000000000000000000000000000000a1"

def loginMessage (site nonce : String) : String :=
  domainLine site ++ "\n" ++ wallet ++ "\n\nURI: https://" ++ site ++
    "\nVersion: 1\nChain ID: 84532\nNonce: " ++ nonce

/-- A login that the wallet has signed for a site. -/
def loginBody (site nonce : String) : VerifyBody where
  address := wallet
  chainId := some 84532
  message := loginMessage site nonce
  signature := wallet ++ " signs " ++ loginMessage site nonce
  displayName := ""

def stepUpMessage : String :=
  "Mozetto Control privileged action\nAction: PAUSE_RANKED_MATCHMAKING"

def stepUpBody : StepUpBody where
  sessionId := some "s"
  tokenRole := none
  message := stepUpMessage
  signature := wallet ++ " signs " ++ stepUpMessage
  action := "PAUSE_RANKED_MATCHMAKING"

/-- All step-ups are signed for one session and one second. -/
def plainTerms : String → StepUpTerms := fun _ => ⟨"s", 0, 1000⟩

def noRequest : SignIns := ⟨0, [], [], [], [], [], [], []⟩

theorem noRequest_initial : NoRequest noRequest := ⟨rfl, rfl, rfl, rfl, rfl, rfl⟩

/-- Statements of a request, one after the other. -/
def statements (count index : Nat) : List SignInAction :=
  List.replicate count
    (.perform index (.executed ⟨true, some ⟨"p", "admin"⟩, "s"⟩))

/-- Two tabs send one login, and both find its nonce. -/
def overlappingLogins : List SignInAction :=
  .walletNonce wallet none "moz1" :: statements 2 0 ++
    [.walletVerify (loginBody "arena" "moz1"),
      .walletVerify (loginBody "arena" "moz1")] ++
    statements 2 1 ++ statements 2 2 ++ statements 7 1 ++ statements 7 2

/-- A login that was signed for another site. -/
def foreignLogin : List SignInAction :=
  .walletNonce wallet none "moz1" :: statements 2 0 ++
    .walletVerify (loginBody "elsewhere" "moz1") :: statements 9 1

/-- An admin signs in, and steps up so many times with one signature. -/
def adminRun (times : Nat) : List SignInAction :=
  .adminNonce "ctl1" :: statements 1 0 ++
    .adminVerify (loginBody "control" "ctl1") :: statements 4 1 ++
    (List.range times).flatMap fun time =>
      .stepUp stepUpBody :: statements 4 (time + 2)

/-- A player and an admin sign in, and the admin steps up. -/
def carefulRun : List SignInAction :=
  adminRun 1 ++
    .walletNonce wallet none "moz1" :: statements 2 3 ++
      .walletVerify (loginBody "arena" "moz1") :: statements 9 4

end Replays

end Mozetto.SignIn
