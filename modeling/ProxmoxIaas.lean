import ProxmoxIaas.Admin.AuditLogs
import ProxmoxIaas.Admin.MutatingEndpoints
import ProxmoxIaas.Admin.TenantScope
import ProxmoxIaas.Firewall.Atomicity
import ProxmoxIaas.Firewall.Deletions
import ProxmoxIaas.Firewall.Fates
import ProxmoxIaas.Firewall.FaithfulPull
import ProxmoxIaas.Firewall.Lookups
import ProxmoxIaas.Firewall.MoveRules
import ProxmoxIaas.Firewall.Order
import ProxmoxIaas.Firewall.RoundTrip
import ProxmoxIaas.Firewall.Synced
import ProxmoxIaas.Firewall.TenantCoupling
import ProxmoxIaas.Firewall.TunnelDestruction
import ProxmoxIaas.Quota.Networks
import ProxmoxIaas.Quota.DiskLimit
import ProxmoxIaas.Quota.VirtualMachines
import ProxmoxIaas.Iam.Acceptance
import ProxmoxIaas.Iam.Assignments
import ProxmoxIaas.Iam.Escalation
import ProxmoxIaas.Iam.Isolation
import ProxmoxIaas.Iam.PermissionNames
import ProxmoxIaas.Iam.Revocation
import ProxmoxIaas.Iam.TenantResolution
import ProxmoxIaas.OpnsenseVm.DhcpInterfaces
import ProxmoxIaas.OpnsenseVm.NetworkRuns
import ProxmoxIaas.OpnsenseVm.Recovery
import ProxmoxIaas.OpnsenseVm.Targets
import ProxmoxIaas.Provisioning.BridgeOwnership
import ProxmoxIaas.Provisioning.Exclusivity
import ProxmoxIaas.Provisioning.FailedApprovals
import ProxmoxIaas.Provisioning.PodCapacity
import ProxmoxIaas.Provisioning.Rollback
import ProxmoxIaas.Provisioning.VlanStatus
import ProxmoxIaas.RateLimit.Redis
import ProxmoxIaas.Reconciler.Audit
import ProxmoxIaas.Reconciler.Purge
import ProxmoxIaas.Tokens.Logout
import ProxmoxIaas.VirtualMachines.DiskResize
import ProxmoxIaas.VirtualMachines.NetworkLinks
import ProxmoxIaas.VirtualMachines.Ownership
import ProxmoxIaas.VirtualMachines.RequestContract
import ProxmoxIaas.VirtualMachines.ResizeRetries
import ProxmoxIaas.VirtualMachines.ServiceOperations
import ProxmoxIaas.VirtualMachines.Visibility
import ProxmoxIaas.VirtualMachines.StatusTransitions
import ProxmoxIaas.WebSocket.Delivery
import ProxmoxIaas.WebSocket.Routing
import ProxmoxIaas.WireGuard.Disjoint
import ProxmoxIaas.WireGuard.Leaks
import ProxmoxIaas.WireGuard.ListenPorts
import ProxmoxIaas.WireGuard.PeerAddresses
import ProxmoxIaas.Firewall.TunnelAccess
import ProxmoxIaas.Firewall.UpdateRule
import ProxmoxIaas.VirtualMachines.Snapshots
import ProxmoxIaas.RateLimit.ClientKey
import ProxmoxIaas.Tokens.FailClosed
import ProxmoxIaas.Terraform.Logging
import ProxmoxIaas.Terraform.Variables
import ProxmoxIaas.WireGuard.PeerConfig
import ProxmoxIaas.Hypervisor.Clones
import ProxmoxIaas.Hypervisor.GuestExec
import ProxmoxIaas.VirtualMachines.Consoles
import ProxmoxIaas.Foundation.UniqueKeys
import ProxmoxIaas.VirtualMachines.StaticAddresses
import ProxmoxIaas.Foundation.Constrained
import ProxmoxIaas.Images.TemplateSync
import ProxmoxIaas.Images.Grants
import ProxmoxIaas.Images.TaskLog
import ProxmoxIaas.Foundation.FirstFree
import ProxmoxIaas.Images.BuildVmid
import ProxmoxIaas.Provisioning.BridgeStats
import ProxmoxIaas.Provisioning.Destruction
import ProxmoxIaas.Provisioning.BackPointers
import ProxmoxIaas.Iam.Seeding
import ProxmoxIaas.Terraform.Workspaces
import ProxmoxIaas.OpnsenseVm.ShellCommands
import ProxmoxIaas.OpnsenseVm.Scripts
import ProxmoxIaas.Quota.Settings
import ProxmoxIaas.Schemas.Names
import ProxmoxIaas.OpnsenseVm.FreshNames
import ProxmoxIaas.Images.BuildDispatch
import ProxmoxIaas.OpnsenseVm.ConfigEdits
import ProxmoxIaas.WireGuard.FieldKey
import ProxmoxIaas.OpnsenseVm.Documents
