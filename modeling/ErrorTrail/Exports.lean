/-!
# Exported names

The names that the foundation of the library exports, the module each comes from, and which of them
the library exports itself.
-/

namespace ErrorTrail

/-- A name, and the module that defines it. -/
structure Export where
  name : String
  source : String
  /-- whether the foundation lists it -/
  listed : Bool := true
  /-- whether the library lists it -/
  topLevel : Bool := true
  deriving DecidableEq, Repr, Inhabited

namespace Export

/-- The names that the foundation has. -/
def foundation : List Export :=
  let errors := "wherr.foundation.errors.errors"
  let result := "wherr.foundation.errors.result"
  let types := "wherr.foundation.errors.types"
  let settings := "wherr.foundation.config.settings"
  [⟨"ErrorCode", errors, true, true⟩, ⟨"TransformError", errors, true, true⟩,
    ⟨"Result", result, true, true⟩, ⟨"Ok", result, true, true⟩, ⟨"Err", result, true, true⟩,
    ⟨"Propagation", result, true, true⟩, ⟨"Location", types, true, true⟩,
    ⟨"WherrReport", types, true, true⟩, ⟨"location", types, true, false⟩,
    ⟨"sequence", result, true, true⟩, ⟨"traverse", result, true, true⟩,
    ⟨"collect_results", result, true, true⟩, ⟨"WherrSettings", settings, true, false⟩,
    ⟨"LoggingSettings", settings, true, false⟩, ⟨"get_settings", settings, true, false⟩,
    ⟨"clear_settings_cache", settings, true, false⟩, ⟨"display_path", settings, true, false⟩,
    ⟨"__getattr__", "wherr.foundation", false, false⟩]

/-- The export of that name. -/
def find? (name : String) : Option Export := foundation.find? fun e => e.name == name

end Export

end ErrorTrail
