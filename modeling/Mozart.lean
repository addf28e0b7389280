import Mozart.Lib.Transition
import Mozart.Lib.Fifo
import Mozart.Lib.CircularBuffer
import Mozart.Lib.Dialogue
import Mozart.Sensors.EventQueue
import Mozart.Sensors.ZeroCopy
import Mozart.Lib.OrderedMap
import Mozart.Sensors.Handles
import Mozart.Lib.Loop
import Mozart.Lib.Log
import Mozart.Sensors.Hal
import Mozart.Sensors.Init
import Mozart.Sensors.Context
import Mozart.Sensors.InitSpec
import Mozart.Sensors.OpenFailures
import Mozart.Sensors.InitOrder
import Mozart.Sensors.Control
import Mozart.Sensors.ControlHandles
import Mozart.Sensors.Statuses
import Mozart.Sensors.BatchFallback
import Mozart.Sensors.LegacyBatch
import Mozart.Sensors.MultiHal
import Mozart.Sensors.Injection
import Mozart.Lib.Mutex
import Mozart.Sensors.Wakeup
import Mozart.Sensors.Delivery
import Mozart.Lib.RoundRobin
import Mozart.Sensors.Fairness
import Mozart.Sensors.Unregistered
import Mozart.Sensors.Close
import Mozart.Lib.MapLoop
import Mozart.Lib.Blend
import Mozart.Lib.Rounding
import Mozart.Composer.Dss
import Mozart.Composer.SourceRect
import Mozart.Composer.Adapter
import Mozart.Composer.AdapterSpec
import Mozart.Composer.RepInv
import Mozart.Composer.Latch
import Mozart.Composer.Hooks
import Mozart.Composer.Client
import Mozart.Composer.ClientAgrees
import Mozart.Lib.RunningMax
import Mozart.Composer.Selection
import Mozart.Composer.OverlayRuns
import Mozart.Composer.PlayedOverlays
import Mozart.Composer.Picture
import Mozart.MacAddr.Posix
import Mozart.MacAddr.Mac
import Mozart.MacAddr.Grammar
import Mozart.MacAddr.Normalization
import Mozart.MacAddr.StoreMac
import Mozart.MacAddr.EnsureMac
import Mozart.MacAddr.Halting
import Mozart.MacAddr.WholeFile
import Mozart.MacAddr.Main
import Mozart.Lib.ByteObject
import Mozart.Ptrace.SystemCall
import Mozart.Codec.Framerate
import Mozart.Lib.Executor
import Mozart.Geofence.HandlerThread
import Mozart.Lib.Parcel
import Mozart.SensorService.ISensorServer
import Mozart.Lib.Heap
import Mozart.SensorService.SensorManager
import Mozart.SensorService.ManagerRuns
import Mozart.SensorService.PointerArrays
import Mozart.SensorService.ServedSensors
import Mozart.SensorService.Instances
import Mozart.Lib.Provision
import Mozart.Scripts.Checkout
import Mozart.Scripts.InstallDeviceTree
import Mozart.Lib.Lines
import Mozart.Scripts.BlobList
import Mozart.Scripts.ExtractBlobs
import Mozart.Scripts.PatchStack
import Mozart.Scripts.ApplyLocalPatches
import Mozart.Lib.InitLanguage
import Mozart.Lib.InitRuns
import Mozart.Usb.Actions
import Mozart.Usb.Configuration
import Mozart.Lib.Typestate
import Mozart.MacAddr.Descriptors
import Mozart.Sensors.Loading
import Mozart.LibInit.VendorProperties
import Mozart.Lib.Flag
import Mozart.Composer.Fallback
import Mozart.Sensors.TypeCompat
