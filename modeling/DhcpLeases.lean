import DhcpLeases.Main
import DhcpLeases.Proofs.Command.ParseableOutput
import DhcpLeases.Proofs.Journal.BlockGrammar
import DhcpLeases.Proofs.Journal.LeaseBlocks
import DhcpLeases.Proofs.Journal.NestedBlocks
import DhcpLeases.Proofs.Journal.QuotedBytes
import DhcpLeases.Proofs.Lease.Compaction
import DhcpLeases.Proofs.Lease.RemainingTime
import DhcpLeases.Proofs.Lease.StateFilters
import DhcpLeases.Proofs.Lease.TimeOrder
import DhcpLeases.Proofs.Lease.WrittenStarts
import DhcpLeases.Proofs.Pool.ExactCapacity
import DhcpLeases.Proofs.Pool.Percentage
import DhcpLeases.Proofs.Pool.RepeatedNames
import DhcpLeases.Proofs.Settings.FirstFlaw
