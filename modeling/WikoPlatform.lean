import WikoPlatform.Netutils.DhcpLease
import WikoPlatform.Netutils.DhcpDump
import WikoPlatform.Netutils.BitErrors
import WikoPlatform.Netutils.DhcpSocket
import WikoPlatform.Netutils.Netmask
import WikoPlatform.Netutils.Dhcpv6
import WikoPlatform.Netutils.ControlSocket
import WikoPlatform.Chipone.Cancel
import WikoPlatform.Chipone.Layers
import WikoPlatform.Chipone.TaCommand
import WikoPlatform.Chipone.EnrollStore
import WikoPlatform.Chipone.Press
import WikoPlatform.Chipone.StorePath
import WikoPlatform.Chipone.Swipe
import WikoPlatform.Chipone.ExtensionSockets
import WikoPlatform.Chipone.KeyHandover
import WikoPlatform.Chipone.TemplateTransfer
import WikoPlatform.Chipone.ImageFile
import WikoPlatform.Chipone.NavigatorKeys
import WikoPlatform.Chipone.Enumerate
import WikoPlatform.Chipone.CreatePath
import WikoPlatform.Chipone.XmlFingers
import WikoPlatform.Fingerprint.Attribution
import WikoPlatform.Fingerprint.Authority
import WikoPlatform.Fingerprint.Release
import WikoPlatform.Fingerprint.ActiveGroup
import WikoPlatform.Fingerprint.Terminal
import WikoPlatform.Fingerprint.CancelRequest
import WikoPlatform.Fingerprint.EnrollLimit
import WikoPlatform.Fingerprint.KeyListeners
import WikoPlatform.Fingerprint.LateResults
import WikoPlatform.Fingerprint.RecordRestart
import WikoPlatform.Fingerprint.QuickLaunch
import WikoPlatform.Fingerprint.FingerNames
import WikoPlatform.Fingerprint.LongPress
import WikoPlatform.FileLock.Isolation
import WikoPlatform.FileLock.WellFormed
import WikoPlatform.FileLock.Token
import WikoPlatform.FileLock.Guessing
import WikoPlatform.FileLock.SettingActivity
import WikoPlatform.FileLock.FingerConfig
import WikoPlatform.Qsee.Wrap
import WikoPlatform.Qsee.PaymentQuery
import WikoPlatform.Qsee.Spi
import WikoPlatform.Silead.Removal
import WikoPlatform.Silead.EnrollProgress
import WikoPlatform.Silead.HmacKey
import WikoPlatform.Kernel.VersionStrings
import WikoPlatform.Kernel.InterruptLine
import WikoPlatform.Kernel.SileadIrq
import WikoPlatform.Kernel.CancelWait
import WikoPlatform.Kernel.SensorEvents
import WikoPlatform.Kernel.WakeLocks
import WikoPlatform.Kernel.LogThread
