import DisplayComposer.Hardware.Error
import DisplayComposer.Table
import DisplayComposer.Wire.Result
/-!
# DisplayComposer.Engine.Results

**Collecting what commands report.** Everything that is reported belongs to one
command of a batch, named by its index. Results come out in ascending order of
the index, however the entries came in: errors of one index are kept in order,
and of everything else the last entry stays.
-/

namespace DisplayComposer

/-- Something to report for a command. -/
inductive Entry where
  | error (e : HardwareError)
  | changes (changes : List CompositionChange)
  | request (request : DisplayRequest)
  | property (property : TargetProperty)
  | presentFence (fence : Fence)
  | releaseFences (fences : List ReleaseFence)
  | presentOrValidate (outcome : FastPathOutcome)
  deriving DecidableEq

namespace CommandResult

/-- With one more entry. -/
def add (r : CommandResult) : Entry → CommandResult
  | .error e => { r with errors := r.errors ++ [e.code] }
  | .changes changes => { r with changes := some changes }
  | .request request => { r with request := some request }
  | .property property => { r with property := some property }
  | .presentFence fence => { r with presentFence := some fence }
  | .releaseFences fences => { r with releaseFences := some fences }
  | .presentOrValidate outcome => { r with presentOrValidate := some outcome }

end CommandResult

/-- Results by the index of their command. -/
abbrev Results : Type := Table UInt32 CommandResult

namespace Results

/-- Report something for a command. The display is that of the first entry. -/
def write (rs : Results) (index : UInt32) (display : DisplayId) (entry : Entry) : Results :=
  rs.insert index (((rs.get? index).getD (.blank index display)).add entry)

/-- Report several things for a command. -/
def writeAll (rs : Results) (index : UInt32) (display : DisplayId) (entries : List Entry) :
    Results :=
  entries.foldl (fun rs entry => rs.write index display entry) rs

/-- The results so far, in ascending order of their index, and none left. -/
def take (rs : Results) : List CommandResult × Results := (rs.values, .empty)

end Results

end DisplayComposer
