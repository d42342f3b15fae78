import ShieldNet.Capability.Guardrail
import ShieldNet.Dlp.Bundle
import ShieldNet.Dlp.Engine
import ShieldNet.Dns.Resolver
import ShieldNet.Edge.Publisher
import ShieldNet.Firewall.HotPath
import ShieldNet.Firewall.ZoneMap
import ShieldNet.Ha.Vrrp
import ShieldNet.Health.Supervisor
import ShieldNet.Identity.Enrollment
import ShieldNet.Identity.Monitor
import ShieldNet.Ips.Rules
import ShieldNet.Leader.Fencing
import ShieldNet.Policy.Codec
import ShieldNet.Policy.KeyTransactions
import ShieldNet.Policy.Recompile
import ShieldNet.Policy.Revocation
import ShieldNet.Policy.Swap
import ShieldNet.Policy.Unresolved
import ShieldNet.Rbac.Administration
import ShieldNet.Sdwan.Sla
import ShieldNet.Steering.Agreement
import ShieldNet.Swg.Fingerprint
import ShieldNet.Swg.Governance
import ShieldNet.Swg.Planes
import ShieldNet.Telemetry.Consumer
import ShieldNet.Telemetry.Delivery
import ShieldNet.Telemetry.Pcap
import ShieldNet.Tenant.Drivers
import ShieldNet.Updater.Divergence
import ShieldNet.Updater.Retry
import ShieldNet.Updater.Sequence
import ShieldNet.Workshard.Exclusive
import ShieldNet.Xdp.Classify
import ShieldNet.Xdp.Limiter
import ShieldNet.Xdp.Update
import ShieldNet.Ztna.Reeval
