import Aether.Rpc.Helpers

/-!
# Governance reads

`GovernanceHelper.get_proposal` reads a proposal from the node and turns every exception into
`None`. `has_quorum` reads the proposal and then the quorum, and `get_proposal_status` reads the
proposal, then the slot, then calls `has_quorum`, which reads the proposal a second time. Each
read is an observation of the node at its own instant (`StatusReads`): the two reads of one
proposal need not agree, and the status's `has_quorum` is decided on the second.
-/

namespace Aether.Rpc

open Aether

/-- The fields of a `Proposal` record that the governance reads use. -/
structure Proposal where
  votesFor : Int
  votesAgainst : Int
  status : String
  endSlot : Int
  deriving DecidableEq, Repr

/-- `GovernanceHelper.get_proposal(proposal_id)`, on what its `_call` and `Proposal(**data)` gave:
an exception of either becomes `None`, as does an empty response. -/
def GovernanceHelper.getProposal (response : Except PyException (Option Proposal)) :
    Option Proposal :=
  match response with
  | .ok proposal => proposal
  | .error _ => none

/-- `GovernanceHelper.has_quorum(proposal_id)`, on the responses of its proposal read and, when
that found a proposal, of `get_quorum`. -/
def GovernanceHelper.hasQuorum (proposalResponse : Except PyException (Option Proposal))
    (quorumResponse : Except PyException Int) : Except PyException Bool :=
  match GovernanceHelper.getProposal proposalResponse with
  | none => pure false
  | some proposal => do
      let quorum ← quorumResponse
      pure (decide (quorum ≤ proposal.votesFor + proposal.votesAgainst))

/-- The dict `get_proposal_status` returns: `proposal`, `has_quorum`, `time_remaining` and
`can_execute`. -/
structure ProposalStatus where
  proposal : Proposal
  hasQuorum : Bool
  timeRemaining : Int
  canExecute : Bool
  deriving DecidableEq, Repr

/-- What one `get_proposal_status` observes, in the order it reads: the proposal, the slot, the
proposal again inside `has_quorum`, and the quorum. -/
structure StatusReads where
  proposal : Except PyException (Option Proposal)
  slot : Except PyException Int
  proposalAgain : Except PyException (Option Proposal)
  quorum : Except PyException Int

/-- `GovernanceHelper.get_proposal_status(proposal_id)`. -/
def GovernanceHelper.getProposalStatus (reads : StatusReads) :
    Except PyException (Option ProposalStatus) :=
  match GovernanceHelper.getProposal reads.proposal with
  | none => pure none
  | some proposal => do
      let currentSlot ← reads.slot
      let hasQuorum ← GovernanceHelper.hasQuorum reads.proposalAgain reads.quorum
      pure (some
        { proposal, hasQuorum, timeRemaining := max 0 (proposal.endSlot - currentSlot),
          canExecute := proposal.status == "passed" })

end Aether.Rpc
