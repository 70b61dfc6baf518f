import ChunkCoordinator.Main
import ChunkCoordinator.Proofs.Convergence
import ChunkCoordinator.Proofs.Consistency
import ChunkCoordinator.Proofs.Conservation
import ChunkCoordinator.Proofs.Restoring
import ChunkCoordinator.Proofs.Order
import ChunkCoordinator.Proofs.Lifetime
import ChunkCoordinator.Proofs.Integrity
import ChunkCoordinator.Proofs.Atomicity
import ChunkCoordinator.Proofs.Acceptance
import ChunkCoordinator.Proofs.Completion
import ChunkCoordinator.Proofs.Flapping
import ChunkCoordinator.Proofs.RoundTrip
import ChunkCoordinator.Proofs.Vanishing
import ChunkCoordinator.Proofs.Ledger
import ChunkCoordinator.Proofs.Unrecoverable
import ChunkCoordinator.Proofs.Loading
import ChunkCoordinator.Proofs.TornSnapshot
import ChunkCoordinator.Proofs.Marking
import ChunkCoordinator.Proofs.Saving
import ChunkCoordinator.Proofs.Health
import ChunkCoordinator.Proofs.Replicas
import ChunkCoordinator.Proofs.Transparency
import ChunkCoordinator.Proofs.NodeNames
import ChunkCoordinator.Proofs.Documents
import ChunkCoordinator.Proofs.Planning
import ChunkCoordinator.Proofs.Ranking
import ChunkCoordinator.Proofs.Totals
import ChunkCoordinator.Proofs.Debits
import ChunkCoordinator.Proofs.Release
import ChunkCoordinator.Proofs.Granting
import ChunkCoordinator.Proofs.Commuting
import ChunkCoordinator.Proofs.Rationing
import ChunkCoordinator.Proofs.Uploading
import ChunkCoordinator.Proofs.Upkeep
import ChunkCoordinator.Proofs.Grace
import ChunkCoordinator.Proofs.Agreement
import ChunkCoordinator.Proofs.Arrangement
import ChunkCoordinator.Proofs.Booking
import ChunkCoordinator.Proofs.Transitions
import ChunkCoordinator.Proofs.Settings
import ChunkCoordinator.Proofs.Partition
