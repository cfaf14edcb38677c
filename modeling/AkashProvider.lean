import AkashProvider.Balance.Checks
import AkashProvider.Bidengine.AuditEvents
import AkashProvider.Bidengine.Bids
import AkashProvider.Bidengine.CatchUp
import AkashProvider.Bidengine.ExternalClose
import AkashProvider.Bidengine.RandomPricing
import AkashProvider.Bidengine.Reservations
import AkashProvider.Bidengine.Shutdown
import AkashProvider.Certs.Storage
import AkashProvider.Deploy.IPs
import AkashProvider.Deploy.Monitor
import AkashProvider.Gateway.Auth
import AkashProvider.Gateway.Endpoints
import AkashProvider.Hostname.Blocked
import AkashProvider.Hostname.Transfer
import AkashProvider.Inventory.Alignment
import AkashProvider.Inventory.Completeness
import AkashProvider.Inventory.DiscoveryAgent
import AkashProvider.Inventory.Metrics
import AkashProvider.Kube.Openings
import AkashProvider.Kube.SharedParams
import AkashProvider.Manifest.Freshness
import AkashProvider.Manifest.Timers
import AkashProvider.Migrations.VersionOrder
import AkashProvider.Operator.Barrier
import AkashProvider.Operator.Capacity
import AkashProvider.Operator.ClusterState
import AkashProvider.Operator.Connector
import AkashProvider.Operator.Hostnames
import AkashProvider.Operator.IgnoreList
import AkashProvider.Operator.LabelPatches
import AkashProvider.Operator.LeasedIPs
import AkashProvider.Service.Capacity
import AkashProvider.Service.LeasedIPs
import AkashProvider.Service.Readiness
import AkashProvider.Service.Terms
