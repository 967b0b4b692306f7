import PasswallNode.Sqlite.Gate
import PasswallNode.Sqlite.QuotaPeriod
import PasswallNode.Sqlite.TaskProgress
import PasswallNode.Sqlite.TrafficReplay
import PasswallNode.Singbox.TrafficOnce
import PasswallNode.Agent.TaskClockFloor
import PasswallNode.Agent.TaskClockSoundness
import PasswallNode.Agent.TaskOnce
import PasswallNode.Agent.TaskExpiry
import PasswallNode.Core.Expiry
import PasswallNode.Agent.Acknowledged
import PasswallNode.Agent.Honesty
import PasswallNode.Agent.Readiness
import PasswallNode.Agent.Runner
import PasswallNode.Core.Reordered
import PasswallNode.Core.Blame
import PasswallNode.Handover.Retries
import PasswallNode.Sqlite.CounterBatch
import PasswallNode.Releaseid.Allocated
import PasswallNode.Upgrade.Archive
import PasswallNode.Diagnostics.Ring
import PasswallNode.ErrorText
import PasswallNode.Host.CPUSet
import PasswallNode.Host.Mounts
import PasswallNode.Manage.Rebind
import PasswallNode.Handover.Naming
import PasswallNode.Core.Confirmed
import PasswallNode.Lifecycle
