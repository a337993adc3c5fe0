import KitSch.State
import KitSch.SlotClock
import KitSch.SlotExecutor
import KitSch.Reconciler
import KitSch.Callbacks
import KitSch.Commands
import KitSch.System
import KitSch.SlotRange
import KitSch.Wakeup
import KitSch.Table
import KitSch.ToneMonitor
import KitSch.SyncFlags
import KitSch.Noninterference
import KitSch.Accounting
import KitSch.MinorFrameClock
import KitSch.Jitter
import KitSch.Telemetry
import KitSch.Schedule
import KitSch.ToneLock
import KitSch.Nominal
