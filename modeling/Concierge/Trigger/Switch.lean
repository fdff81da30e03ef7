import Concierge.Definition

/-!
# Switches

The setting that switches a built-in trigger on, with a word on what it allows.
-/

namespace Concierge

/-- The enabling setting with a description. -/
def SettingField.switch (description : String) : SettingField :=
  { SettingField.enabled with description }

end Concierge
