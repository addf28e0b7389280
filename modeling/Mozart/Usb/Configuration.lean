import Mozart.Lib.InitRuns
import Mozart.Usb.Actions

/-!
# The USB gadget and `sys.usb.config`

The actions are executed by `init` while other processes set properties, `sys.usb.config` among
them, so that a configuration may be asked for while the last one is being set up, and the commands
of an action may see a later configuration than the one that triggered it.

* **`usb_configured`**: whatever was set, and whenever, once `init` has nothing left to do the
  gadget is set up for the present configuration, and it gets there.
* **`written_while_disabled`**: the gadget is set up only while it is disabled.
-/

namespace Mozart.Usb

open InitLanguage Transition

abbrev UsbMachine := Machine UsbProperty UsbFile UsbService

/-- The properties other processes may set: `ro.` properties are never set again, and the state is
reported by `init` only. -/
def settable : UsbProperty → Bool
  | .state | .serialno | .cdrom => false
  | .config | .startAtdiag | .startModempcui | .persistConfig => true

/-- The services that only the actions on the configuration start and stop. -/
def owned : UsbService → Bool
  | .adbd | .usbshell | .hwCdmaService => true
  | .hwModemService | .hwPcuiService | .diagserver | .atcmdserver => false

/-- When `init` begins to look at property triggers, it does so for the values there are. -/
def booted (m : UsbMachine) : Prop :=
  m.running = [] ∧ m.queue
    = [UsbProperty.config, .startAtdiag, .startModempcui, .persistConfig].map
        fun name => (name, m.props name)

def usbSystem : System UsbMachine (Move UsbProperty) := system usbActions settable booted

/-! ## The actions keep to themselves -/

theorem configActions_name : ∀ a ∈ configActions, a.name = .config := by
  decide +kernel

theorem configActions_reads : ∀ a ∈ configActions, ∀ c ∈ a.commands,
    c.reads ∈ [none, some UsbProperty.config, some .serialno, some .cdrom] := by
  decide +kernel

theorem configActions_sets : ∀ a ∈ configActions, ∀ c ∈ a.commands,
    c.sets ∈ [none, some UsbProperty.state, some .startAtdiag, some .startModempcui] := by
  decide +kernel

theorem mem_configActions {a : UsbAction} (ha : a ∈ usbActions) (hname : a.name = .config) :
    a ∈ configActions := by
  rcases List.mem_append.mp ha with ha | ha
  · exact ha
  · have hother : ∀ a ∈ serviceActions, a.name ≠ .config := by decide
    exact absurd hname (hother a ha)

theorem mem_serviceActions {a : UsbAction} (ha : a ∈ usbActions) (hname : a.name ≠ .config) :
    a ∈ serviceActions := by
  rcases List.mem_append.mp ha with ha | ha
  · exact absurd (configActions_name a ha) hname
  · exact ha

theorem usbActions_follow : Follows usbActions .config settable owned where
  reads := by
    intro a ha hname c hc n hn
    have hreads := configActions_reads a (mem_configActions ha hname) c hc
    rw [hn] at hreads
    simp only [List.mem_cons, List.not_mem_nil, or_false, Option.some.injEq] at hreads
    -- the configuration itself, or a property that no other process sets
    rcases hreads with h | rfl | rfl | rfl
    · cases h
    · exact .inl rfl
    · exact .inr rfl
    · exact .inr rfl
  sources := by
    intro a ha hname c hc n hn b hb hname' c' hc' hset
    have hreads := configActions_reads a (mem_configActions ha hname) c hc
    have hsets := configActions_sets b (mem_configActions hb hname') c' hc'
    rw [hn] at hreads
    rw [hset] at hsets
    simp only [List.mem_cons, List.not_mem_nil, or_false, Option.some.injEq] at hreads hsets
    rcases hreads with h | rfl | rfl | rfl
    · cases h
    · simp at hsets
    · simp at hsets
    · simp at hsets
  own := by
    intro a ha hname c hc hset
    have hsets := configActions_sets a (mem_configActions ha hname) c hc
    rw [hset] at hsets
    simp at hsets
  others := by
    intro a ha hname c hc
    have hservice := mem_serviceActions ha hname
    simp only [serviceActions, List.mem_cons, List.not_mem_nil, or_false] at hservice
    -- four of them start or stop a pair of services, the fifth sets the configuration
    rcases hservice with rfl | rfl | rfl | rfl | rfl
    · right
      rcases List.mem_pair.mp hc with rfl | rfl
      · exact ⟨.diagserver, rfl, .inl rfl⟩
      · exact ⟨.atcmdserver, rfl, .inl rfl⟩
    · right
      rcases List.mem_pair.mp hc with rfl | rfl
      · exact ⟨.diagserver, rfl, .inr rfl⟩
      · exact ⟨.atcmdserver, rfl, .inr rfl⟩
    · right
      rcases List.mem_pair.mp hc with rfl | rfl
      · exact ⟨.hwModemService, rfl, .inl rfl⟩
      · exact ⟨.hwPcuiService, rfl, .inl rfl⟩
    · right
      rcases List.mem_pair.mp hc with rfl | rfl
      · exact ⟨.hwModemService, rfl, .inr rfl⟩
      · exact ⟨.hwPcuiService, rfl, .inr rfl⟩
    · left
      rw [List.mem_singleton.mp hc]
      rfl

/-- A configuration triggers its own action and no other one. -/
theorem triggered_config : ∀ a ∈ configActions,
    triggered usbActions (.config, a.value.getD "") = a.commands := by
  decide +kernel

/-- What an event may cost: more than the actions it may trigger. -/
def weight : UsbProperty → Nat
  | .persistConfig => 1002
  | .config => 1000
  | .startAtdiag | .startModempcui => 5
  | .state | .serialno | .cdrom => 1

theorem usbActions_descending : Descending usbActions weight := by
  intro n
  cases n <;> decide +kernel

theorem usbActions_guarded : ∀ a ∈ usbActions,
    guarded .enable "0" (fun file => decide (file ≠ UsbFile.enable)) none a.commands = true := by
  decide +kernel

/-! ## At rest -/

/-- The gadget is set up for the present configuration, by the action for it. -/
structure ConfiguredBy (a : UsbAction) (m : UsbMachine) : Prop where
  state : m.props .state = m.props .config
  enable : m.files .enable = some (if m.props .config = "none" then "0" else "1")
  /-- every file the action writes, with what it writes last -/
  files : ∀ file content text, last (Command.writesTo file) a.commands = some content →
    content.expand m.props = some text → m.files file = some text
  adbd : "adb".toList <:+ (m.props .config).toList → m.started .adbd = true
  none : m.props .config = "none" →
    m.started .adbd = false ∧ m.started .usbshell = false ∧ m.started .hwCdmaService = false

/-- If the present configuration is one of those there is an action for, the gadget is set up for
it. -/
def Configured (m : UsbMachine) : Prop :=
  ∀ a ∈ configActions, a.value = some (m.props .config) → ConfiguredBy a m

theorem last_state : ∀ a ∈ configActions, a.value ≠ some "" ∧
    last (Command.setsTo .state) a.commands = some (.prop .config) := by
  decide +kernel

theorem last_enable : ∀ a ∈ configActions, last (Command.writesTo .enable) a.commands
    = some (.lit (if a.value = some "none" then "0" else "1")) := by
  decide +kernel

theorem last_adbd : ∀ a ∈ configActions,
    "adb".toList <:+ (a.value.getD "").toList →
      last (Command.tells .adbd) a.commands = some true := by
  decide +kernel

theorem last_none : ∀ a ∈ configActions, a.value = some "none" →
    last (Command.tells .adbd) a.commands = some false ∧
      last (Command.tells .usbshell) a.commands = some false ∧
      last (Command.tells .hwCdmaService) a.commands = some false := by
  decide +kernel

theorem announced_of_booted {m : UsbMachine} (h : booted m) :
    m.running = [] ∧ Announced .config m := by
  obtain ⟨hrunning, hqueue⟩ := h
  refine ⟨hrunning, [], _, hqueue, ?_⟩
  intro e he
  simp only [List.map_cons, List.map_nil, List.mem_cons, List.not_mem_nil, or_false] at he
  rcases he with rfl | rfl | rfl
  · exact UsbProperty.noConfusion
  · exact UsbProperty.noConfusion
  · exact UsbProperty.noConfusion

theorem configured_of_atRest {m : UsbMachine} (hm : Reachable usbSystem m) (hrest : m.AtRest) :
    Configured m := by
  intro a ha hvalue
  have hachieved := usbActions_follow.rest (fun _ => announced_of_booted) hm hrest
  have hcommands := triggered_config a ha
  rw [hvalue, Option.getD_some] at hcommands
  rw [hcommands] at hachieved
  obtain ⟨hne, hstate⟩ := last_state a ha
  have hset : m.props .config ≠ "" := fun h => hne (hvalue.trans (congrArg some h))
  constructor
  · exact hachieved.props .state _ _ rfl hstate (if_neg hset)
  · have henable := hachieved.files .enable _ _ (last_enable a ha) rfl
    rw [henable, hvalue]
    simp only [Option.some.injEq]
  · exact hachieved.files
  · intro hadb
    have hlast := last_adbd a ha
    rw [hvalue] at hlast
    exact hachieved.started .adbd true rfl (hlast hadb)
  · intro hnone
    obtain ⟨hadbd, hshell, hcdma⟩ := last_none a ha (hvalue.trans (congrArg some hnone))
    exact ⟨hachieved.started .adbd false rfl hadbd, hachieved.started .usbshell false rfl hshell,
      hachieved.started .hwCdmaService false rfl hcdma⟩

/-- **`usb_configured`.** However often `sys.usb.config` and the other properties were set, and
whatever `init` was doing then: when it has nothing left to do, the gadget is set up for the
present configuration; and if nothing more is set, there comes a time when it has not. -/
theorem usb_configured :
    (∀ m, Reachable usbSystem m → m.AtRest → Configured m) ∧
      ∀ m, Reachable usbSystem m → ∃ k m',
        exec usbSystem m (List.replicate k .tick) = some m' ∧ m'.AtRest ∧ Configured m' := by
  constructor
  · exact fun _ => configured_of_atRest
  · intro m hm
    obtain ⟨k, m', hexec, hrest⟩ := settles usbActions_descending m
    have hexec' : exec usbSystem m (List.replicate k .tick) = some m' := hexec
    exact ⟨k, m', hexec', hrest, configured_of_atRest (hm.exec hexec') hrest⟩

/-- Asked for tethering while the boot configuration is being set up. -/
example : let m : UsbMachine := ⟨fun
      | .config => "mtp,adb"
      | .serialno => "0123"
      | _ => "", fun _ => none, fun _ => false, [(.config, "mtp,adb")], []⟩
    (exec usbSystem m ([.tick, .tick, .tick, .tick, .set .config "rndis,adb"]
      ++ List.replicate 17 .tick)).map
        (fun m' => (m'.files .idProduct, m'.files .functions, m'.props .state))
      = some (some "1050", some "rndis,adb", "rndis,adb") := by
  decide +kernel

/-! ## The guard -/

/-- **`written_while_disabled`.** Whatever is set meanwhile, each of the gadget's files but `enable`
itself is written only while `enable` holds `0`. -/
theorem written_while_disabled {m : UsbMachine} (hm : Reachable usbSystem m) {file : UsbFile}
    {content : Arg UsbProperty} {rest : List UsbCommand}
    (hrunning : m.running = .write file content :: rest) (hfile : file ≠ .enable) :
    m.files .enable = some "0" :=
  guarded_write usbActions_guarded (fun _ h => h.1) hm hrunning (decide_eq_true hfile)

/-- The machine at boot, asked for tethering. -/
def tethering : UsbMachine where
  props
    | .config => "rndis,adb"
    | .serialno => "0123"
    | _ => ""
  files := fun _ => none
  started := fun _ => false
  queue := [(.config, "rndis,adb"), (.startAtdiag, ""), (.startModempcui, ""), (.persistConfig, "")]
  running := []

theorem booted_tethering : booted tethering := ⟨rfl, rfl⟩

/-- Another configuration is asked for when the gadget was just disabled. -/
def asked : List (Move UsbProperty) := [.tick, .tick, .set .config "none"]

theorem asked_running : ∃ m rest, exec usbSystem tethering asked = some m ∧
    m.running = .write .idVendor (.lit "12d1") :: rest :=
  ⟨_, _, rfl, rfl⟩

theorem written_while_disabled_tethering :
    ∃ m, exec usbSystem tethering asked = some m ∧ m.files .enable = some "0" := by
  obtain ⟨m, rest, hexec, hrunning⟩ := asked_running
  have hm : Reachable usbSystem m := .of_exec booted_tethering hexec
  exact ⟨m, hexec, written_while_disabled hm hrunning UsbFile.noConfusion⟩

end Mozart.Usb
