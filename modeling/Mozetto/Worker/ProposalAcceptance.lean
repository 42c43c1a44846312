import Mozetto.Chain.Payouts
import Mozetto.Chain.Settleable
import Mozetto.Library.ProportionalSplit
import Mozetto.Worker.Proposal

/-!
# Which proposals the vault accepts

The rows of a proposal keep the stored buy-in of a player without a lock, and
the vault compares that buy-in with the lock.  The totals always agree; the
end balances are split by the displayed stacks, which an emergency exit does
not touch.
-/

namespace Mozetto.Worker

open Mozetto.Chain
open Mozetto.Matchmaking
open Mozetto.Library.ProportionalSplit
open Mozetto.Library.TransitionSystem

/-! ## What the vault and the hub ask of a proposal -/

/-- The rows of a session list its participants and nobody else. -/
structure ListsParticipants (world : World) (db : WorkerDb) (sessionId : Bytes32) : Prop where
  nodup : ((db.onchainSessionPlayers.filter fun player =>
        player.sessionId = sessionId).map
      fun player => player.walletAddress).Nodup
  participants : ∀ account, world.vault.sessionParticipants sessionId account = true ↔
        ∃ player ∈ db.onchainSessionPlayers,
          player.sessionId = sessionId ∧ player.walletAddress = account

/-- The totals that the hub compares with the rows. -/
structure TotalsMatch (proposal : V3Proposal) : Prop where
  sums : PokerSettlementHubV3.playerSums proposal.players = .ok (proposal.settlement.openingTotal,
          proposal.settlement.endingPlayerTotal)
  conserved : proposal.settlement.openingTotal =
      proposal.settlement.endingPlayerTotal + proposal.settlement.totalRake

/--
A proposal for an open session that passes the checks of the vault and the
totals of the hub, distributes the locks still held, and pays nobody who
exited.
-/
structure Accepted (world : World) (sessionId : Bytes32) (proposal : V3Proposal) : Prop where
  session : proposal.settlement.sessionId = sessionId
  opened : (world.vault.sessions sessionId).openedAt ≠ 0
  unsettled : (world.vault.sessions sessionId).settled = false
  payload : ArenaVaultV2.Payload world sessionId proposal.players proposal.settlement.totalRake
  totals : TotalsMatch proposal
  pool : ∀ members, IsRoster world sessionId members →
      endTotal proposal.players + proposal.settlement.totalRake = poolOf world sessionId members
  exited : ∀ row ∈ proposal.players, world.vault.emergencyExitClaimed sessionId row.user = true →
        row.endBalance = 0

/-! ## When a proposal is acceptable -/

section Condition

variable (locks : Address → Nat) (noPlay : Bool)

/-- The lock of a row, or its stored buy-in if there is none. -/
def startOf (row : StackRow) : Nat :=
  if 0 < locks row.walletAddress then locks row.walletAddress
  else row.buyInRaw

/-- What a row weighs when the locks are divided. -/
def weightOf (row : StackRow) : Nat := if noPlay then startOf locks row else row.stack.atoms.getD 0

/-- The sum of the locks, or buy-ins, of the rows. -/
def openingOf (stackRows : List StackRow) : Nat := (stackRows.map (startOf locks)).sum

/-- The sum of the weights of the rows. -/
def weightsOf (stackRows : List StackRow) : Nat := (stackRows.map (weightOf locks noPlay)).sum

/--
A row between others that gets nothing: it weighs nothing, or its part of the
locks is less than an atom.
-/
def GetsNothing (before : List StackRow) (row : StackRow) (later : List StackRow) :
    Prop :=
  let stackRows := before ++ row :: later
  let opening := openingOf locks stackRows
  let weights := weightsOf locks noPlay stackRows
  if weights ≤ opening then weightOf locks noPlay row = 0
  else
    ReceivesNothing (targetEnding opening weights ((dbOpeningRaw stackRows).getD 0)) weights
      (before.map (weightOf locks noPlay)) (weightOf locks noPlay row)
      (later.map (weightOf locks noPlay))

end Condition

/--
Everybody listed has a lock, nobody listed is the fee treasury, and who has
exited gets nothing.
-/
structure Acceptable (world : World) (reads : Reads) (db : WorkerDb) (session : SessionRow) :
    Prop where
  locked : ∀ row ∈ db.loadStacks session,
      world.vault.lockedBySession session.sessionId row.walletAddress ≠ 0 ∨ row.buyInRaw = 0
  treasury : ∀ row ∈ db.loadStacks session, row.walletAddress ≠ world.vault.feeTreasury
  exited : ∀ before row later, db.loadStacks session = before ++ row :: later →
        world.vault.emergencyExitClaimed session.sessionId row.walletAddress = true →
          GetsNothing (world.vault.lockedBySession session.sessionId)
            (reads.noPlay db session) before row later

/-! ## What a built proposal consists of -/

section Built

variable {env : WorkerEnv} {reads : Reads} {db : WorkerDb}
variable {session : SessionRow} {proposal : V3Proposal}
variable {locks : Address → Nat} {noPlay : Bool}

/-- A projection of the results of a traversal. -/
theorem map_of_mapM {α β γ : Type} {f : α → Option β} {g : β → γ} {h : α → γ}
    (each : ∀ entry result, f entry = some result → g result = h entry)
    {entries : List α} {results : List β} (run : entries.mapM f = some results) :
    results.map g = entries.map h := by
  induction entries generalizing results with
  | nil =>
    rw [List.mapM_nil] at run
    cases run
    rfl
  | cons entry rest induction =>
    rw [List.mapM_cons] at run
    simp only [Option.bind_eq_bind, Option.bind_eq_some_iff,
      Option.pure_def, Option.some.injEq] at run
    obtain ⟨first, found, others, run, rfl⟩ := run
    rw [List.map_cons, List.map_cons, each entry first found, induction run]

/-- Who is in a row of a proposal, and with which start. -/
def seatOf (player : SettlementPlayer) : Address × Nat := (player.user, player.startLocked)

/-- The row that an input becomes in a proposal. -/
def rowOf (input : PlayerStackInput) : SettlementPlayer where
  user := input.user
  startLocked := input.startLocked
  endBalance := input.endBalance

/-- The players before the repair: seats and weights of the rows. -/
theorem mergedPlayers_eq_some {stackRows : List StackRow} {merged : List PlayerStackInput}
    (answered : reads.vaultLocks = some locks)
    (run : mergedPlayers reads noPlay stackRows = some merged) :
    merged.map (fun input => seatOf (rowOf input)) = stackRows.map
          (fun row => (row.walletAddress, startOf locks row)) ∧
      merged.map (·.endBalance) = stackRows.map (weightOf locks noPlay) := by
  unfold mergedPlayers at run
  obtain ⟨players, stored, rfl⟩ := Option.map_eq_some_iff.mp run
  rw [answered]
  simp only [List.map_map]
  have project : ∀ {γ : Type} (g : PlayerStackInput → γ) (h : StackRow → γ), (∀ row index player,
        playerInput noPlay (row, index) = some player →
          g (preferLock noPlay locks player) = h row) →
        players.map (g ∘ preferLock noPlay locks) = stackRows.map h := by
    intro γ g h each
    have zipped : players.map (g ∘ preferLock noPlay locks) =
        stackRows.zipIdx.map (fun entry => h entry.1) :=
      map_of_mapM (fun entry player found => each _ _ player found) stored
    rw [zipped]
    calc
      stackRows.zipIdx.map (fun entry => h entry.1) = (stackRows.zipIdx.map Prod.fst).map h := by
        rw [List.map_map]
        rfl
      _ = stackRows.map h := by rw [List.zipIdx_map_fst]
  refine ⟨project _ _ ?_, project _ _ ?_⟩
  all_goals
    intro row index player found
    cases noPlay with
    | true =>
      cases found
      by_cases locked : 0 < locks row.walletAddress
      · simp [preferLock, startOf, weightOf, locked, seatOf, rowOf]
      · simp [preferLock, startOf, weightOf, locked, seatOf, rowOf]
    | false =>
      cases worth : row.stack.atoms with
      | none => simp [playerInput, worth] at found
      | some atoms =>
        simp only [playerInput, worth] at found
        cases found
        by_cases locked : 0 < locks row.walletAddress
        · simp [preferLock, startOf, weightOf, locked, worth, seatOf, rowOf]
        · simp [preferLock, startOf, weightOf, locked, worth, seatOf, rowOf]

/-- The repair keeps the seats and splits the ends by their weights. -/
theorem scaleFrom_eq {target ending allocated : Nat} {players : List PlayerStackInput} :
    (scaleFrom target ending allocated players).map (fun input => seatOf (rowOf input)) =
        players.map (fun input => seatOf (rowOf input)) ∧
      (scaleFrom target ending allocated players).map (·.endBalance) =
        splitFrom target ending allocated (players.map (·.endBalance)) := by
  induction players generalizing allocated with
  | nil => exact ⟨rfl, rfl⟩
  | cons player rest induction =>
    cases rest with
    | nil => exact ⟨rfl, rfl⟩
    | cons next others =>
      obtain ⟨seats, ends⟩ := @induction (allocated + player.endBalance * target / ending)
      constructor
      · rw [scaleFrom, List.map_cons, seats]
        rfl
      · rw [scaleFrom, List.map_cons, ends]
        rfl

theorem targetEnding_le (opening ending dbOpening : Nat) :
    targetEnding opening ending dbOpening ≤ opening := by
  unfold targetEnding
  generalize (if ending ≤ dbOpening then dbOpening - ending else 0) = rake
  dsimp only
  split
  · exact Nat.sub_le _ _
  · exact le_rfl

/-- What the rows end with. -/
def endsOf (locks : Address → Nat) (noPlay : Bool) (stackRows : List StackRow) : List Nat :=
  let opening := openingOf locks stackRows
  let weights := weightsOf locks noPlay stackRows
  if weights ≤ opening then stackRows.map (weightOf locks noPlay)
  else
    splitFrom (targetEnding opening weights ((dbOpeningRaw stackRows).getD 0))
      weights 0 (stackRows.map (weightOf locks noPlay))

/-- A proposal for some rows, with totals that belong to them. -/
structure ProposalFor (locks : Address → Nat) (noPlay : Bool) (sessionId : Bytes32)
    (stackRows : List StackRow) (proposal : V3Proposal) : Prop where
  session : proposal.settlement.sessionId = sessionId
  seats : proposal.players.map seatOf =
      stackRows.map (fun row => (row.walletAddress, startOf locks row))
  ends : proposal.players.map (·.endBalance) = endsOf locks noPlay stackRows
  opening : proposal.settlement.openingTotal = startTotal proposal.players
  ending : proposal.settlement.endingPlayerTotal = endTotal proposal.players
  conserved : proposal.settlement.openingTotal =
      proposal.settlement.endingPlayerTotal + proposal.settlement.totalRake
  fits : proposal.settlement.openingTotal < uint256Size

/-- The repair of merged players in terms of their rows. -/
theorem repair_eq {stackRows : List StackRow} {merged : List PlayerStackInput} {dbOpening : Nat}
    (stored : dbOpeningRaw stackRows = some dbOpening)
    (seats : merged.map (fun input => seatOf (rowOf input)) =
        stackRows.map (fun row => (row.walletAddress, startOf locks row)))
    (ends : merged.map (·.endBalance) = stackRows.map (weightOf locks noPlay)) :
    (repairEndingBalancesForVaultLocks merged dbOpening).map (fun input => seatOf (rowOf input)) =
        stackRows.map (fun row => (row.walletAddress, startOf locks row)) ∧
      (repairEndingBalancesForVaultLocks merged dbOpening).map
          (·.endBalance) = endsOf locks noPlay stackRows := by
  have starts : merged.map (·.startLocked) = stackRows.map (startOf locks) := by
    have second := congrArg (List.map Prod.snd) seats
    simp only [List.map_map] at second
    exact second
  unfold repairEndingBalancesForVaultLocks endsOf openingOf weightsOf
  rw [starts, ends, stored, Option.getD_some]
  dsimp only
  split
  · exact ⟨seats, ends⟩
  · obtain ⟨keptSeats, split⟩ := @scaleFrom_eq _ _ 0 merged
    exact ⟨keptSeats.trans seats, by rw [split, ends]⟩

/-- What a built proposal consists of. -/
theorem proposalFor_of_built (answered : reads.vaultLocks = some locks)
    (built : buildProposalV3FromDb env reads db session = some proposal) :
    ProposalFor locks (reads.noPlay db session) session.sessionId
      (db.loadStacks session) proposal := by
  unfold buildProposalV3FromDb at built
  cases queried : reads.stackQuery with
  | false =>
    rw [queried] at built
    cases built
  | true =>
    rw [queried] at built
    simp only [if_true, Option.bind_eq_bind] at built
    split at built
    · cases built
    · simp only [Option.bind_eq_some_iff] at built
      obtain ⟨merged, run, dbOpening, stored, roots, -, result, build, inserted⟩ := built
      split at inserted
      case isFalse => cases inserted
      case isTrue =>
        cases inserted
        obtain ⟨seats, ends⟩ := mergedPlayers_eq_some answered run
        obtain ⟨keptSeats, repaired⟩ := repair_eq stored seats ends
        unfold buildV3Proposal at build
        simp only at build
        split at build
        case isTrue => cases build
        case isFalse passed =>
          cases build
          simp only [Bool.or_eq_true, decide_eq_true_eq,
            Bool.not_eq_true', not_or, Bool.not_eq_false, encodable, Bool.and_eq_true] at passed
          obtain ⟨⟨-, covered⟩, ⟨⟨-, fits⟩, -⟩, -⟩ := passed
          constructor
          · rfl
          · rw [← keptSeats, List.map_map]
            rfl
          · rw [← repaired, List.map_map]
            rfl
          · simp only [startTotal, List.map_map]
            rfl
          · simp only [endTotal, List.map_map]
            rfl
          · simp only
            omega
          · exact fits

end Built

/-! ## The exact condition -/

section Acceptance

variable {deployment : Deployment} {world : World} {db : WorkerDb}
variable {env : WorkerEnv} {reads : Reads} {session : SessionRow}
variable {proposal : V3Proposal}

/-- The accounts of the stack rows are those of the listed players. -/
theorem loadStacks_wallets : (db.loadStacks session).map (·.walletAddress) =
    (db.onchainSessionPlayers.filter fun player =>
      player.sessionId = session.sessionId).map fun player => player.walletAddress := by
  unfold WorkerDb.loadStacks
  rw [List.map_map]
  apply List.map_congr_left
  intro player _
  simp only [Function.comp_apply]
  split <;> rfl

/-- Every participant has a stack row, and nobody else. -/
theorem ListsParticipants.mem_loadStacks (lists : ListsParticipants world db session.sessionId)
    (account : Address) : world.vault.sessionParticipants session.sessionId account = true ↔
    account ∈ (db.loadStacks session).map (·.walletAddress) := by
  rw [lists.participants account, loadStacks_wallets]
  simp only [List.mem_map, List.mem_filter, decide_eq_true_eq, and_assoc]

theorem ListsParticipants.nodup_loadStacks (lists : ListsParticipants world db session.sessionId) :
    ((db.loadStacks session).map (·.walletAddress)).Nodup := by
  rw [loadStacks_wallets]
  exact lists.nodup

section Rows

variable {locks : Address → Nat} {noPlay : Bool} {sessionId : Bytes32}
variable {stackRows : List StackRow}

theorem ProposalFor.users (shape : ProposalFor locks noPlay sessionId stackRows proposal) :
    proposal.players.map (·.user) = stackRows.map (·.walletAddress) := by
  have first := congrArg (List.map Prod.fst) shape.seats
  simp only [List.map_map] at first
  exact first

/-- Every row of the proposal comes from a stack row, with its start. -/
theorem ProposalFor.exists_row (shape : ProposalFor locks noPlay sessionId stackRows proposal)
    {player : SettlementPlayer} (member : player ∈ proposal.players) : ∃ row ∈ stackRows,
    row.walletAddress = player.user ∧ startOf locks row = player.startLocked := by
  have inside : seatOf player ∈ proposal.players.map seatOf :=
    List.mem_map.mpr ⟨player, member, rfl⟩
  rw [shape.seats] at inside
  obtain ⟨row, listed, same⟩ := List.mem_map.mp inside
  obtain ⟨user, start⟩ := Prod.mk.inj same
  exact ⟨row, listed, user, start⟩

/-- Every stack row has a row in the proposal, with its start. -/
theorem ProposalFor.exists_player (shape : ProposalFor locks noPlay sessionId stackRows proposal)
    {row : StackRow} (listed : row ∈ stackRows) : ∃ player ∈ proposal.players,
    player.user = row.walletAddress ∧ player.startLocked = startOf locks row := by
  have inside : (row.walletAddress, startOf locks row) ∈
      proposal.players.map seatOf := by
    rw [shape.seats]
    exact List.mem_map.mpr ⟨row, listed, rfl⟩
  obtain ⟨player, member, same⟩ := List.mem_map.mp inside
  obtain ⟨user, start⟩ := Prod.mk.inj same
  exact ⟨player, member, user, start⟩

/-- A row between others ends with nothing exactly if it gets nothing. -/
theorem endsOf_eq_zero_iff {before later : List StackRow} {row : StackRow} :
    (endsOf locks noPlay (before ++ row :: later))[before.length]? = some 0 ↔
      GetsNothing locks noPlay before row later := by
  unfold endsOf GetsNothing
  dsimp only
  split
  case isTrue =>
    rw [List.map_append, List.getElem?_append_right (by simp)]
    simp
  case isFalse more =>
    have positive : 0 < weightsOf locks noPlay (before ++ row :: later) := by
      omega
    have sum : (before.map (weightOf locks noPlay) ++ weightOf locks noPlay row ::
            later.map (weightOf locks noPlay)).sum =
        weightsOf locks noPlay (before ++ row :: later) := by
      unfold weightsOf
      rw [List.map_append, List.map_cons]
    have split :=
      @getElem_splitFrom_eq_zero_iff (targetEnding (openingOf locks (before ++ row :: later))
          (weightsOf locks noPlay (before ++ row :: later))
          ((dbOpeningRaw (before ++ row :: later)).getD 0))
        _ _ _ _ positive sum
    rw [List.length_map] at split
    rw [List.map_append, List.map_cons]
    exact split

/-- Those who exited end with nothing exactly if their rows get nothing. -/
theorem ProposalFor.exited_iff (shape : ProposalFor locks noPlay sessionId stackRows proposal)
    (claimed : Address → Bool) : (∀ player ∈ proposal.players,
      claimed player.user = true → player.endBalance = 0) ↔ ∀ before row later,
      stackRows = before ++ row :: later → claimed row.walletAddress = true →
          GetsNothing locks noPlay before row later := by
  have at_place : ∀ before row later, stackRows = before ++ row :: later → ∃ player,
          proposal.players[before.length]? = some player ∧ player.user = row.walletAddress ∧
              (player.endBalance = 0 ↔ GetsNothing locks noPlay before row later) := by
    intro before row later equal
    have users : (proposal.players.map (·.user))[before.length]? = some row.walletAddress := by
      rw [shape.users, equal]
      simp
    rw [List.getElem?_map] at users
    obtain ⟨player, found, user⟩ := Option.map_eq_some_iff.mp users
    have ends : (endsOf locks noPlay (before ++ row :: later))[before.length]? =
        some player.endBalance := by
      rw [← equal, ← shape.ends, List.getElem?_map, found]
      rfl
    refine ⟨player, found, user, ?_⟩
    rw [← endsOf_eq_zero_iff, ends, Option.some.injEq]
  constructor
  · intro unpaid before row later equal exited
    obtain ⟨player, found, user, nothing_iff⟩ := at_place before row later equal
    apply nothing_iff.mp
    apply unpaid player (List.mem_of_getElem? found)
    rw [user]
    exact exited
  · intro nothing player member exited
    obtain ⟨place, found⟩ := List.getElem?_of_mem member
    have wallets : (stackRows.map (·.walletAddress))[place]? = some player.user := by
      rw [← shape.users, List.getElem?_map, found]
      rfl
    rw [List.getElem?_map] at wallets
    obtain ⟨row, listed, wallet⟩ := Option.map_eq_some_iff.mp wallets
    obtain ⟨bound, same⟩ := List.getElem?_eq_some_iff.mp listed
    have equal : stackRows = stackRows.take place ++ row :: stackRows.drop (place + 1) := by
      rw [← same, List.cons_getElem_drop_succ, List.take_append_drop]
    obtain ⟨other, foundThere, -, nothing_iff⟩ := at_place _ _ _ equal
    have length : (stackRows.take place).length = place := by
      rw [List.length_take]
      omega
    rw [length, found] at foundThere
    cases foundThere
    apply nothing_iff.mpr
    apply nothing _ _ _ equal
    rw [wallet]
    exact exited

end Rows

/-- The payload of a proposal whose seats are those of all participants. -/
theorem payload_of_acceptable (consistent : world.Consistent deployment)
    (lists : ListsParticipants world db session.sessionId)
    (acceptable : Acceptable world reads db session)
    (shape : ProposalFor (world.vault.lockedBySession session.sessionId)
        (reads.noPlay db session) session.sessionId (db.loadStacks session) proposal) :
    ArenaVaultV2.Payload world session.sessionId proposal.players
      proposal.settlement.totalRake := by
  constructor
  · obtain ⟨members, roster, card⟩ := consistent.exists_roster session.sessionId
    have everybody : ((db.loadStacks session).map (·.walletAddress)).toFinset =
        members := by
      ext account
      rw [List.mem_toFinset, ← lists.mem_loadStacks, roster]
    have length := congrArg List.length shape.users
    rw [List.length_map, List.length_map] at length
    rw [← card, ← everybody, List.toFinset_card_of_nodup lists.nodup_loadStacks, List.length_map,
      length]
  · intro player member
    obtain ⟨row, listed, wallet, start⟩ := shape.exists_row member
    have participant : world.vault.sessionParticipants session.sessionId player.user =
        true := by
      apply (lists.mem_loadStacks player.user).mpr
      exact List.mem_map.mpr ⟨row, listed, wallet⟩
    have registered := consistent.participants session.sessionId player.user participant
    constructor
    · exact consistent.registered.ne_zero registered
    · rw [← wallet]
      exact acceptable.treasury row listed
    · exact registered
    · exact participant
    · rw [← start, ← wallet]
      unfold startOf
      split
      · rfl
      · rcases acceptable.locked row listed with locked | unfunded
        · omega
        · omega
  · rw [shape.users]
    exact lists.nodup_loadStacks
  · rw [← shape.opening]
    exact shape.fits
  · rw [← shape.opening, ← shape.ending]
    exact shape.conserved

/-- What the rows of an accepted proposal say about the stack rows. -/
theorem Accepted.acceptable (accepted : Accepted world session.sessionId proposal)
    (shape : ProposalFor (world.vault.lockedBySession session.sessionId)
        (reads.noPlay db session) session.sessionId (db.loadStacks session) proposal) :
    Acceptable world reads db session := by
  constructor
  · intro row listed
    obtain ⟨player, member, user, start⟩ := shape.exists_player listed
    have same := (accepted.payload.rows player member).locked
    rw [start, user] at same
    unfold startOf at same
    split at same
    case isTrue locked => exact Or.inl (Nat.pos_iff_ne_zero.mp locked)
    case isFalse unlocked => omega
  · intro row listed
    obtain ⟨player, member, user, -⟩ := shape.exists_player listed
    rw [← user]
    exact (accepted.payload.rows player member).ne_feeTreasury
  · exact (shape.exited_iff (world.vault.emergencyExitClaimed session.sessionId)).mp accepted.exited

/--
A proposal for an open session whose participants are listed is accepted
exactly if everybody listed still has a lock, nobody listed is the fee
treasury, and those who exited get nothing.
-/
theorem accepted_iff
    (reached : World.Reachable deployment world)
    (opened : (world.vault.sessions session.sessionId).openedAt ≠ 0)
    (unsettled : (world.vault.sessions session.sessionId).settled = false)
    (lists : ListsParticipants world db session.sessionId)
    (answered :
      reads.vaultLocks =
        some (world.vault.lockedBySession session.sessionId))
    (built : buildProposalV3FromDb env reads db session = some proposal) :
    Accepted world session.sessionId proposal ↔
      Acceptable world reads db session := by
  have shape := proposalFor_of_built answered built
  have consistent := World.Reachable.consistent reached
  constructor
  · intro accepted
    exact accepted.acceptable shape
  · intro acceptable
    have payload := payload_of_acceptable consistent lists acceptable shape
    constructor
    · exact shape.session
    · exact opened
    · exact unsettled
    · exact payload
    · constructor
      · rw [PokerSettlementHubV3.playerSums_eq_ok_iff]
        have conserved := payload.conserved
        have fits := payload.fits
        refine ⟨fits, by omega, ?_⟩
        rw [shape.opening, shape.ending]
      · exact shape.conserved
    · intro members roster
      have sums := World.sum_locked_of_payload payload
      rw [users_of_payload consistent roster payload] at sums
      have conserved := payload.conserved
      unfold poolOf
      omega
    · exact
        (shape.exited_iff
          (world.vault.emergencyExitClaimed session.sessionId)).mpr
          acceptable.exited

end Acceptance

/-! ## Tables with and without exits -/

namespace Example

open Mozetto.Chain.Example (deployment accountOf user)

def env : WorkerEnv where
  resolveSettlementRoots := fun _ _ _ => some ⟨1, 2, 3⟩
  randomnessEpochId := fun _ => 4
  modelPolicyHash := 0
  profileSetHash := 0
  gameTemplateId := 1
  engineHash := 0
  deadline := 1000

/-- The row of a user at session `5`, bought in for `100` atoms. -/
def playerRow (index : Fin 900) : SessionPlayerRow where
  sessionId := 5
  profileId := index
  walletAddress := accountOf index
  buyInRaw := 100
  seat := index
  controllerHash := 0
  agentProfileHash := 0
  arenaAccountAddress := accountOf index
  ownerAddress := user index

/-- A completed session of a user with these cents on the table. -/
def tableSession (index : Fin 900) (cents : Nat) : TableSessionRow where
  tableId := 1
  ownerId := index
  buyIn := ⟨2, 2⟩
  stack := ⟨cents, 2⟩
  active := false
  startedAt := 0
  endedAt := some 1

/-- Users `1` and `2` at a table where chips were topped up off chain. -/
def db : WorkerDb where
  onchainSessionPlayers := [playerRow 1, playerRow 2]
  tableSessions := [tableSession 1 3, tableSession 2 1]
  hands := fun _ => 1

def session : SessionRow where
  sessionId := 5
  tableId := some 1

def readsOf (world : World) : Reads where
  stackQuery := true
  dealtQuery := true
  inserted := true
  finalSequence := 1
  vaultLocks := some (world.vault.lockedBySession 5)

/-- The table with `first` and `100` locked, and a proposal for it. -/
def proposed (first : Nat) (world : World) : Bool :=
  world.vault.lockedBySession 5 (accountOf 1) == first &&
    world.vault.lockedBySession 5 (accountOf 2) == 100 &&
    world.vault.sessionParticipants 5 (accountOf 1) &&
    world.vault.sessionParticipants 5 (accountOf 2) && world.vault.sessionParticipantCount 5 == 2 &&
    (world.vault.sessions 5).openedAt == 1 && !(world.vault.sessions 5).settled &&
    (buildProposalV3FromDb env (readsOf world) db session).isSome

/-- The observations on the table as facts. -/
structure Proposed (first : Nat) (world : World) (proposal : V3Proposal) : Prop where
  first : world.vault.lockedBySession 5 (accountOf 1) = first
  second : world.vault.lockedBySession 5 (accountOf 2) = 100
  opened : (world.vault.sessions 5).openedAt ≠ 0
  unsettled : (world.vault.sessions 5).settled = false
  lists : ListsParticipants world db 5
  built : buildProposalV3FromDb env (readsOf world) db session = some proposal

theorem exists_proposed {first : Nat} {world : World} (reached : World.Reachable deployment world)
    (observed : proposed first world = true) : ∃ proposal, Proposed first world proposal := by
  simp only [proposed, Bool.and_eq_true, beq_iff_eq, Bool.not_eq_true'] at observed
  obtain ⟨⟨⟨⟨⟨⟨⟨lockFirst, lockSecond⟩, memberFirst⟩, memberSecond⟩, count⟩,
    opened⟩, unsettled⟩, built⟩ := observed
  obtain ⟨proposal, found⟩ := Option.isSome_iff_exists.mp built
  refine ⟨proposal, lockFirst, lockSecond, by omega, unsettled, ⟨?_, ?_⟩, found⟩
  · decide
  · obtain ⟨members, roster, card⟩ := (World.Reachable.consistent reached).exists_roster 5
    have pair : {accountOf 1, accountOf 2} = members := by
      apply Finset.eq_of_subset_of_card_le
      · intro account inside
        simp only [Finset.mem_insert, Finset.mem_singleton] at inside
        rcases inside with rfl | rfl
        · exact (roster _).mpr memberFirst
        · exact (roster _).mpr memberSecond
      · rw [card, count]
        decide
    intro account
    rw [← roster account, ← pair]
    simp [db, playerRow, eq_comm]

end Example

/-- Chips topped up off chain are scaled down to the locks. -/
theorem accepted_iff_toppedUp :
    ∃ (world : World) (proposal : V3Proposal),
      World.Reachable Chain.Example.deployment world ∧
        buildProposalV3FromDb Example.env (Example.readsOf world) Example.db
            Example.session = some proposal ∧
        Accepted world 5 proposal := by
  have start :
      World.Reachable Chain.Example.deployment (Chain.Example.world 0) :=
    .start (Chain.Example.initial_world 0)
  have observed :
      ((World.protocol Chain.Example.deployment).replay AnyCall
          (Chain.Example.world 0) Chain.Example.pairedTable).any
        (fun world =>
          Example.proposed 100 world &&
            (world.vault.feeTreasury == Chain.Example.deployment.feeVault &&
              !world.vault.emergencyExitClaimed 5
                  (Chain.Example.accountOf 1) &&
              !world.vault.emergencyExitClaimed 5
                  (Chain.Example.accountOf 2))) = true := by
    decide +kernel
  obtain ⟨world, reached, facts⟩ := start.exists_replay observed
  simp only [Bool.and_eq_true, beq_iff_eq, Bool.not_eq_true'] at facts
  obtain ⟨table, ⟨treasury, stayedFirst⟩, stayedSecond⟩ := facts
  obtain ⟨proposal, proposed⟩ := Example.exists_proposed reached table
  have wallet_cases :
      ∀ row ∈ Example.db.loadStacks Example.session,
        row.walletAddress = Chain.Example.accountOf 1 ∨
          row.walletAddress = Chain.Example.accountOf 2 := by
    intro row listed
    have wallet :
        row.walletAddress ∈
          (Example.db.loadStacks Example.session).map (·.walletAddress) :=
      List.mem_map.mpr ⟨row, listed, rfl⟩
    rw [loadStacks_wallets] at wallet
    simpa [Example.db, Example.session, Example.playerRow] using wallet
  refine ⟨world, proposal, reached, proposed.built, ?_⟩
  have acceptance :
      Accepted world Example.session.sessionId proposal ↔
        Acceptable world (Example.readsOf world) Example.db
          Example.session :=
    accepted_iff reached proposed.opened proposed.unsettled proposed.lists
      rfl proposed.built
  apply acceptance.mpr
  constructor
  · intro row listed
    left
    rcases wallet_cases row listed with same | same
    · rw [same]
      exact ne_of_eq_of_ne proposed.first (by decide)
    · rw [same]
      exact ne_of_eq_of_ne proposed.second (by decide)
  · intro row listed
    rw [treasury]
    rcases wallet_cases row listed with same | same
    · rw [same]
      decide
    · rw [same]
      decide
  · intro before row later equal exited
    have listed : row ∈ Example.db.loadStacks Example.session := by
      rw [equal]
      simp
    rcases wallet_cases row listed with same | same
    · rw [same] at exited
      rw [show Example.session.sessionId = 5 from rfl, stayedFirst] at exited
      cases exited
    · rw [same] at exited
      rw [show Example.session.sessionId = 5 from rfl, stayedSecond] at exited
      cases exited

/-- After a full exit the proposal names a lock the vault does not hold. -/
theorem exists_refused :
    ¬ ∀ (deployment : Deployment) (world : World) (env : WorkerEnv)
        (reads : Reads) (db : WorkerDb) (session : SessionRow)
        (proposal : V3Proposal),
      World.Reachable deployment world →
        (world.vault.sessions session.sessionId).openedAt ≠ 0 →
          (world.vault.sessions session.sessionId).settled = false →
            ListsParticipants world db session.sessionId →
              reads.vaultLocks =
                  some (world.vault.lockedBySession session.sessionId) →
                buildProposalV3FromDb env reads db session =
                    some proposal →
                  Accepted world session.sessionId proposal := by
  intro accepts
  have start :
      World.Reachable Chain.Example.deployment (Chain.Example.world 0) :=
    .start (Chain.Example.initial_world 0)
  have observed :
      ((World.protocol Chain.Example.deployment).replay AnyCall
          (Chain.Example.world 0) (Chain.Example.exitedTable 100 100)).any
        (Example.proposed 0) = true := by
    decide +kernel
  obtain ⟨world, reached, table⟩ := start.exists_replay observed
  obtain ⟨proposal, proposed⟩ := Example.exists_proposed reached table
  have accepted :=
    accepts _ world Example.env (Example.readsOf world) Example.db
      Example.session proposal reached proposed.opened proposed.unsettled
      proposed.lists rfl proposed.built
  have acceptable :=
    accepted.acceptable (proposalFor_of_built rfl proposed.built)
  have wallet :
      Chain.Example.accountOf 1 ∈
        (Example.db.loadStacks Example.session).map (·.walletAddress) := by
    rw [loadStacks_wallets]
    decide
  obtain ⟨row, listed, same⟩ := List.mem_map.mp wallet
  have unfunded :
      ∀ row ∈ Example.db.loadStacks Example.session, row.buyInRaw ≠ 0 := by
    decide
  rcases acceptable.locked row listed with locked | zero
  · rw [same] at locked
    exact locked proposed.first
  · exact unfunded row listed zero

end Mozetto.Worker
