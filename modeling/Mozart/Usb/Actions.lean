import Mozart.Lib.InitLanguage

/-!
# The actions of `init.hi3635.usb.rc`

One action for each value of `sys.usb.config` reconfigures the USB gadget: it disables it, sets it
up, enables it again and reports the new configuration in `sys.usb.state`. The remaining actions
start and stop the services of the diagnostic functions, and take the configuration over from the
persistent property. `init.hi3635.chip.usb.rc` adds one more configuration.
-/

namespace Mozart.Usb

open InitLanguage

/-- The properties the two files name. -/
inductive UsbProperty where
  /-- `sys.usb.config` -/
  | config
  /-- `sys.usb.state` -/
  | state
  /-- `sys.usb.start_atdiag` -/
  | startAtdiag
  /-- `sys.usb.start_modempcui` -/
  | startModempcui
  /-- `persist.sys.usb.config` -/
  | persistConfig
  /-- `ro.serialno` -/
  | serialno
  /-- `ro.cust.cdrom` -/
  | cdrom
  deriving DecidableEq, Repr

/-- The files the actions write, below `/sys/class/android_usb/android0` but for the last three. -/
inductive UsbFile where
  | enable
  | bDeviceClass
  | idVendor
  | idProduct
  | iSerial
  | portNum
  | functions
  /-- `f_rndis/wceis` -/
  | wceis
  /-- `f_hw_acm/hw_instances` -/
  | hwInstances
  /-- `/sys/class/android_usb/f_mass_storage/luns` -/
  | luns
  /-- `/sys/class/android_usb/f_mass_storage/lun/file` -/
  | lunFile
  /-- `/sys/devices/virtual/android_usb/android0/port_mode` -/
  | portMode
  deriving DecidableEq, Repr

inductive UsbService where
  | adbd
  | usbshell
  | hwCdmaService
  | hwModemService
  | hwPcuiService
  | diagserver
  | atcmdserver
  deriving DecidableEq, Repr

abbrev UsbCommand := Command UsbProperty UsbFile UsbService

abbrev UsbAction := Action UsbProperty UsbFile UsbService

/-! ## Commands -/

def write (file : UsbFile) (text : String) : UsbCommand := .write file (.lit text)

def setprop (name : UsbProperty) (text : String) : UsbCommand := .setprop name (.lit text)

/-- `write …/idVendor` and `write …/idProduct` -/
def ids (idVendor idProduct : String) : List UsbCommand :=
  [write .idVendor idVendor, write .idProduct idProduct]

/-- `write …/iSerial ${ro.serialno}` -/
def serial : UsbCommand := .write .iSerial (.prop .serialno)

/-- `write …/functions ${sys.usb.config}` -/
def functionsOfConfig : UsbCommand := .write .functions (.prop .config)

/-- `write …/luns` and `write …/lun/file` -/
def massStorage (luns : String) (file : Arg UsbProperty) : List UsbCommand :=
  [write .luns luns, .write .lunFile file]

/-- `setprop sys.usb.state ${sys.usb.config}` -/
def setState : UsbCommand := .setprop .state (.prop .config)

/-- `on property:sys.usb.config=…` -/
def onConfig (config : String) (commands : List UsbCommand) : UsbAction :=
  ⟨.config, some config, commands⟩

/-- The actions but the one for `none` are of this form: what is set up while the gadget is
disabled, and what is done when it is enabled again. -/
def reconfigure (config : String) (setup after : List UsbCommand) : UsbAction :=
  onConfig config
    ([write .enable "0"] ++ setup ++ [write .enable "1"] ++ after ++ [setState])

/-! ## The actions -/

def pcmodemIso : Arg UsbProperty := .lit "/data/cust/pcmodem/autorun.iso"

def startAtdiag : UsbCommand := setprop .startAtdiag "1"

def onNone : UsbAction :=
  onConfig "none" [
    .stop .hwCdmaService,
    .stop .adbd,
    .stop .usbshell,
    setprop .startModempcui "0",
    write .enable "0",
    write .bDeviceClass "0",
    write .portMode "1",
    setState]

/-- The actions on `sys.usb.config`, in the order of the file, then that of the other file. -/
def configActions : List UsbAction := [
  onNone,
  reconfigure "adb"
    (ids "12d1" "103A" ++ [serial, functionsOfConfig, write .portMode "2"]) [.start .adbd],
  reconfigure "mtp"
    (ids "12d1" "1051" ++ [serial, functionsOfConfig, write .portMode "3"]) [],
  reconfigure "mtp,adb"
    (ids "12d1" "1052" ++ [serial, functionsOfConfig, write .portMode "4"]) [.start .adbd],
  reconfigure "rndis"
    (ids "12d1" "1039" ++ [serial, write .wceis "1", functionsOfConfig, write .portMode "9"]) [],
  reconfigure "rndis,adb"
    (ids "12d1" "1050" ++ [serial, write .wceis "1", functionsOfConfig, write .portMode "10"])
    [.start .adbd],
  reconfigure "rndis,serial"
    (ids "12d1" "1080" ++ [serial, write .wceis "1", write .hwInstances "3",
      write .functions "rndis,hw_acm", write .portMode "36"])
    [startAtdiag],
  reconfigure "rndis,serial,adb"
    (ids "12d1" "1081" ++ [serial, write .wceis "1", write .hwInstances "3",
      write .functions "rndis,adb,hw_acm", write .portMode "37"])
    [.start .adbd, startAtdiag],
  reconfigure "ptp"
    (ids "12d1" "1083" ++ [serial] ++ massStorage "cdrom" (.prop .cdrom)
      ++ [write .functions "ptp,mass_storage", write .portMode "5"])
    [],
  reconfigure "ptp,adb"
    (ids "12d1" "1054" ++ [serial] ++ massStorage "cdrom" (.prop .cdrom)
      ++ [write .functions "ptp,adb,mass_storage", write .portMode "6"])
    [.start .adbd],
  reconfigure "accessory"
    (ids "18d1" "2d00" ++ [serial, functionsOfConfig, write .portMode "11"]) [],
  reconfigure "accessory,adb" (ids "18d1" "2d01" ++ [functionsOfConfig]) [.start .adbd],
  reconfigure "mass_storage"
    (ids "12d1" "1037" ++ [serial] ++ massStorage "sdcard" (.lit "none")
      ++ [functionsOfConfig, write .portMode "7"])
    [],
  reconfigure "mass_storage,adb"
    (ids "12d1" "1038" ++ [serial] ++ massStorage "sdcard" (.lit "none")
      ++ [functionsOfConfig, write .portMode "8"])
    [.start .adbd],
  reconfigure "hisuite,mtp,mass_storage"
    (ids "12d1" "1082" ++ massStorage "cdrom" (.prop .cdrom)
      ++ [write .functions "mtp,mass_storage", write .portMode "35"])
    [],
  reconfigure "hisuite,mtp,mass_storage,adb"
    (ids "12d1" "1052" ++ [serial] ++ massStorage "cdrom" (.prop .cdrom)
      ++ [write .functions "mtp,adb,mass_storage", write .portMode "15"])
    [.start .adbd],
  reconfigure "audio_source"
    (ids "18d1" "2d02" ++ [serial, functionsOfConfig, write .portMode "21"]) [],
  reconfigure "audio_source,adb"
    (ids "18d1" "2d03" ++ [serial, functionsOfConfig, write .portMode "22"]) [.start .adbd],
  reconfigure "accessory,audio_source"
    (ids "18d1" "2d04" ++ [serial, functionsOfConfig, write .portMode "23"]) [],
  reconfigure "accessory,audio_source,adb"
    (ids "18d1" "2d05" ++ [serial, functionsOfConfig, write .portMode "24"]) [.start .adbd],
  reconfigure "manufacture,adb"
    (ids "12d1" "105C" ++ [serial] ++ massStorage "sdcard" (.lit "none")
      ++ [write .hwInstances "3", write .functions "hw_acm,mass_storage,adb,hdb",
        write .portMode "14"])
    [.start .adbd, startAtdiag, setprop .startModempcui "0"],
  reconfigure "manufacture_sn,adb"
    (ids "12d1" "105C" ++ [serial] ++ massStorage "sdcard" (.lit "none")
      ++ [write .hwInstances "3", write .functions "hw_acm,mass_storage,adb,hdb",
        write .portMode "13"])
    [.start .adbd, startAtdiag, setprop .startModempcui "0"],
  reconfigure "pcmodem1"
    (ids "12d1" "1031" ++ [serial] ++ massStorage "cdrom" pcmodemIso
      ++ [write .functions "mass_storage", write .portMode "16"])
    [],
  reconfigure "pcmodem2"
    (ids "12d1" "105C" ++ [serial] ++ massStorage "cdrom" pcmodemIso
      ++ [write .hwInstances "3", write .functions "hw_acm,mass_storage", write .portMode "17"])
    [setprop .startAtdiag "0", setprop .startModempcui "1"],
  reconfigure "pcmodem2,adb"
    (ids "12d1" "105C" ++ [serial] ++ massStorage "cdrom" pcmodemIso
      ++ [write .hwInstances "3", write .functions "hw_acm,mass_storage,adb",
        write .portMode "18"])
    [.start .adbd, setprop .startAtdiag "0", setprop .startModempcui "1"],
  reconfigure "midi" (ids "18d1" "4ee9" ++ [serial, functionsOfConfig]) [],
  reconfigure "midi,adb" (ids "18d1" "4ee9" ++ [serial, functionsOfConfig]) [.start .adbd],
  reconfigure "hisi_debug,adb"
    (ids "12d1" "1057" ++ [serial, write .portNum "0000", write .wceis "1",
      write .functions "rndis,adb,balong_acm"])
    [.stop .atcmdserver, .start .hwCdmaService, .start .adbd, .start .usbshell]]

/-- The actions on the other properties. -/
def serviceActions : List UsbAction := [
  ⟨.startAtdiag, some "1", [.start .diagserver, .start .atcmdserver]⟩,
  ⟨.startAtdiag, some "0", [.stop .diagserver, .stop .atcmdserver]⟩,
  ⟨.startModempcui, some "1", [.start .hwModemService, .start .hwPcuiService]⟩,
  ⟨.startModempcui, some "0", [.stop .hwModemService, .stop .hwPcuiService]⟩,
  ⟨.persistConfig, none, [.setprop .config (.prop .persistConfig)]⟩]

def usbActions : List UsbAction := configActions ++ serviceActions

end Mozart.Usb
