/-!
# BoardSim.Flash.Chip

The two flash chips of a board: the one that the management controller boots
from and the one that the platform hub boots from.
-/

namespace BoardSim.Flash

/-- One of the board's flash chips. -/
inductive Chip where
  /-- Of the board management controller. -/
  | bmc
  /-- Of the platform controller hub. -/
  | pch
deriving DecidableEq

namespace Chip

/-- The chip's name in recorded states and settings. -/
def name : Chip → String
  | .bmc => "bmc"
  | .pch => "pch"

/-- The chip's name in messages. -/
def label : Chip → String
  | .bmc => "Bmc"
  | .pch => "Pch"

end Chip

end BoardSim.Flash
