import DhcpLeases.Journal.Clause
import DhcpLeases.Proofs.Lease.Latest
import DhcpLeases.Proofs.Time.WrittenStamps

namespace DhcpLeases

open Time

namespace Journal

variable {weekday date clock : String} {t : Instant}

end Journal

open Journal

end DhcpLeases
