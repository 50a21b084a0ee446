import OpenOxide.Deployment.Exclusion
import OpenOxide.Deployment.Cancellation
import OpenOxide.Deployment.Progress
import OpenOxide.Remote.Cancel
import OpenOxide.Deployment.Isolation
import OpenOxide.Deployment.Reasons
import OpenOxide.Access.Confinement
import OpenOxide.Access.Rotation
import OpenOxide.Live.Rooms
import OpenOxide.Tenancy.Isolation
import OpenOxide.Remote.Nesting
import OpenOxide.Exec.Rclone
import OpenOxide.Provider.SyncCommands
import OpenOxide.Traefik.Files
import OpenOxide.WireGuard.RoundTrip
import OpenOxide.Scheduling.Overlap
import OpenOxide.PrivateNetwork.Addressing
import OpenOxide.PrivateNetwork.Lease
import OpenOxide.Deployment.Fifo
import OpenOxide.Deployment.Clearing
import OpenOxide.Deployment.Restart
import OpenOxide.Logs.Cleanup
import OpenOxide.Rollback.Restore
import OpenOxide.Exec.StackFile
import OpenOxide.Exec.ArgToken
import OpenOxide.Traefik.Rule
import OpenOxide.Builder.Env
import OpenOxide.Access.Removal
import OpenOxide.Scheduling.Closing
import OpenOxide.Access.Admins
import OpenOxide.Access.Recovery
import OpenOxide.Webhook.Previews
import OpenOxide.Monitoring.Reconciler
import OpenOxide.Html.Escape
import OpenOxide.Backup.RestorePaths
import OpenOxide.Agent.Logs
import OpenOxide.Exec.Defer
