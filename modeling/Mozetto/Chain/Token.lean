import Mozetto.Chain.Basic

/-!
# ERC-20 tokens

The balances and allowances of every token contract.  A transfer moves
exactly the requested amount or reverts.
-/

namespace Mozetto.Chain

open Mozetto.Library.Guarded
open Mozetto.Library.Mapping

/-- Balances and allowances, by token contract. -/
structure Tokens where
  balanceOf : Address → Address → Nat
  allowance : Address → Address → Address → Nat

namespace Tokens

/-- `IERC20(token).transfer(recipient, amount)` called by `holder`. -/
def transfer (tokens : Tokens) (token holder recipient : Address) (amount : Nat) :
    Except Revert Tokens := do
  revertIf (recipient = 0) .erc20InvalidReceiver
  revertIf (tokens.balanceOf token holder < amount) .erc20InsufficientBalance
  let debited :=
    write₂ tokens.balanceOf token holder (tokens.balanceOf token holder - amount)
  return { tokens with
    balanceOf := write₂ debited token recipient (debited token recipient + amount) }

/-- `IERC20(token).forceApprove(spender, amount)` called by `holder`. -/
def approve (tokens : Tokens) (token holder spender : Address) (amount : Nat) :
    Tokens :=
  { tokens with
    allowance := fun contract =>
      if contract = token then
        write₂ (tokens.allowance token) holder spender amount
      else tokens.allowance contract }

/-- `IERC20(token).transferFrom(from, recipient, amount)` called by `spender`. -/
def transferFrom (tokens : Tokens) (token spender holder recipient : Address) (amount : Nat) :
    Except Revert Tokens := do
  let allowed := tokens.allowance token holder spender
  revertIf (allowed < amount) .erc20InsufficientAllowance
  let spent :=
    if allowed = uint256Size - 1 then tokens
    else tokens.approve token holder spender (allowed - amount)
  spent.transfer token holder recipient amount

/-- `_mint(recipient, amount)`. -/
def mint (tokens : Tokens) (token recipient : Address) (amount : Nat) : Tokens :=
  { tokens with
    balanceOf :=
      write₂ tokens.balanceOf token recipient (tokens.balanceOf token recipient + amount) }

/-! ## What a transfer does -/

theorem transfer_eq_ok_iff
    {tokens after : Tokens} {token holder recipient : Address} {amount : Nat} :
    tokens.transfer token holder recipient amount = .ok after ↔
      recipient ≠ 0 ∧ amount ≤ tokens.balanceOf token holder ∧
        after = { tokens with
          balanceOf :=
            let debited :=
              write₂ tokens.balanceOf token holder (tokens.balanceOf token holder - amount)
            write₂ debited token recipient (debited token recipient + amount) } := by
  simp only [transfer, revertIf_bind_eq_ok_iff, pure_eq_ok_iff, Nat.not_lt]
  constructor
  · rintro ⟨receiver, enough, equal⟩
    exact ⟨receiver, enough, equal.symm⟩
  · rintro ⟨receiver, enough, equal⟩
    exact ⟨receiver, enough, equal.symm⟩

/-- The balance of the sender of a transfer to somebody else. -/
theorem transfer_balance_holder
    {tokens after : Tokens} {token holder recipient : Address} {amount : Nat}
    (moved : tokens.transfer token holder recipient amount = .ok after) (ne : recipient ≠ holder) :
    after.balanceOf token holder = tokens.balanceOf token holder - amount := by
  obtain ⟨-, -, rfl⟩ := transfer_eq_ok_iff.mp moved
  simp [write₂, ne.symm]

/-- The balance of the recipient of a transfer by somebody else. -/
theorem transfer_balance_recipient
    {tokens after : Tokens} {token holder recipient : Address} {amount : Nat}
    (moved : tokens.transfer token holder recipient amount = .ok after) (ne : recipient ≠ holder) :
    after.balanceOf token recipient = tokens.balanceOf token recipient + amount := by
  obtain ⟨-, -, rfl⟩ := transfer_eq_ok_iff.mp moved
  simp [write₂, ne]

/-- Balances of other holders and of other tokens do not move. -/
theorem transfer_balance_other
    {tokens after : Tokens} {token holder recipient : Address} {amount : Nat}
    (moved : tokens.transfer token holder recipient amount = .ok after) {contract other : Address}
    (elsewhere : contract ≠ token ∨ (other ≠ holder ∧ other ≠ recipient)) :
    after.balanceOf contract other = tokens.balanceOf contract other := by
  obtain ⟨-, -, rfl⟩ := transfer_eq_ok_iff.mp moved
  rcases elsewhere with contractNe | ⟨holderNe, recipientNe⟩
  · simp [write₂, contractNe]
  · simp [write₂, holderNe, recipientNe]

/-- A transfer by another holder never lowers a balance. -/
theorem transfer_balance_le
    {tokens after : Tokens} {token holder recipient : Address} {amount : Nat}
    (moved : tokens.transfer token holder recipient amount = .ok after) {contract other : Address}
    (elsewhere : contract ≠ token ∨ other ≠ holder) :
    tokens.balanceOf contract other ≤ after.balanceOf contract other := by
  obtain ⟨-, -, rfl⟩ := transfer_eq_ok_iff.mp moved
  rcases elsewhere with contractNe | holderNe
  · simp [write₂, contractNe]
  · by_cases same : contract = token ∧ other = recipient
    · obtain ⟨rfl, rfl⟩ := same
      simp [write₂, holderNe]
    · simp [write₂, holderNe, same]

/-- Two payments of one holder to different recipients may be made in either order. -/
theorem transfer_comm {tokens midLeft midRight : Tokens} {token holder left right : Address}
    {first second : Nat} {afterLeft afterRight : Tokens}
    (ne : left ≠ right) (leftNe : left ≠ holder) (rightNe : right ≠ holder)
    (leftFirst : tokens.transfer token holder left first = .ok midLeft)
    (thenRight : midLeft.transfer token holder right second = .ok afterLeft)
    (rightFirst : tokens.transfer token holder right second = .ok midRight)
    (thenLeft : midRight.transfer token holder left first = .ok afterRight) :
    afterLeft = afterRight := by
  obtain ⟨-, -, rfl⟩ := transfer_eq_ok_iff.mp leftFirst
  obtain ⟨-, -, rfl⟩ := transfer_eq_ok_iff.mp rightFirst
  obtain ⟨-, -, rfl⟩ := transfer_eq_ok_iff.mp thenRight
  obtain ⟨-, -, rfl⟩ := transfer_eq_ok_iff.mp thenLeft
  congr 1
  funext contract other
  by_cases sameToken : contract = token
  · by_cases isHolder : other = holder
    · simp [write₂, sameToken, isHolder, leftNe.symm, rightNe.symm]
      omega
    · by_cases isLeft : other = left
      · simp [write₂, sameToken, isLeft, leftNe, ne]
      · by_cases isRight : other = right
        · simp [write₂, sameToken, isRight, rightNe, ne.symm]
        · simp [write₂, isHolder, isLeft, isRight]
  · simp [write₂, sameToken]

@[simp]
theorem approve_balanceOf (tokens : Tokens) (token holder spender : Address) (amount : Nat) :
    (tokens.approve token holder spender amount).balanceOf =
      tokens.balanceOf :=
  rfl

/-- A pull by a spender is a transfer by the holder, as far as balances go. -/
theorem transferFrom_balance {tokens after : Tokens} {token spender holder recipient : Address}
    {amount : Nat}
    (moved : tokens.transferFrom token spender holder recipient amount = .ok after) :
    ∃ spent : Tokens, spent.balanceOf = tokens.balanceOf ∧
        spent.transfer token holder recipient amount = .ok after := by
  simp only [transferFrom, revertIf_bind_eq_ok_iff] at moved
  obtain ⟨-, moved⟩ := moved
  refine ⟨_, ?_, moved⟩
  split <;> simp

theorem mint_balance_le (tokens : Tokens) (token recipient : Address) (amount : Nat)
    (contract other : Address) : tokens.balanceOf contract other ≤
    (tokens.mint token recipient amount).balanceOf contract other := by
  by_cases same : contract = token ∧ other = recipient
  · obtain ⟨rfl, rfl⟩ := same
    simp [mint]
  · simp [mint, write₂, same]

end Tokens

end Mozetto.Chain
