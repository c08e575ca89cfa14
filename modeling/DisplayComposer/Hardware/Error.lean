/-!
# DisplayComposer.Hardware.Error

**Failures of the display hardware.** Each failure has a code, which is all that
a client sees of it. Code 5 is a status of the hardware and never a failure.
-/

namespace DisplayComposer

/-- Why a call of the hardware failed. -/
inductive HardwareError where
  | badConfig
  | badDisplay
  | badLayer
  | badParameter
  | noResources
  | notValidated
  | unsupported
  deriving DecidableEq, Repr

namespace HardwareError

def all : List HardwareError :=
  [.badConfig, .badDisplay, .badLayer, .badParameter, .noResources, .notValidated, .unsupported]

def code : HardwareError → Int32
  | .badConfig => 1
  | .badDisplay => 2
  | .badLayer => 3
  | .badParameter => 4
  | .noResources => 6
  | .notValidated => 7
  | .unsupported => 8

def ofCode? (code : Int32) : Option HardwareError := all.find? (·.code = code)

/-- Failures are told apart by their codes. -/
theorem ofCode?_code (e : HardwareError) : ofCode? e.code = some e := by
  cases e <;> decide

def message : HardwareError → String
  | .badConfig => "invalid display configuration"
  | .badDisplay => "unknown display"
  | .badLayer => "unknown layer"
  | .badParameter => "invalid parameter"
  | .noResources => "out of hardware resources"
  | .notValidated => "display has not been validated"
  | .unsupported => "operation not supported"

end HardwareError

end DisplayComposer
