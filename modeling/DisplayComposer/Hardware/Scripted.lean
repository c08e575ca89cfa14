import DisplayComposer.Hardware.Call
/-!
# DisplayComposer.Hardware.Scripted

**Hardware that answers from a script.** Each operation takes its responses from
the script in order, and succeeds with plain answers once they are used up. With
it the engine can be led through any behaviour of hardware, failures included.
-/

namespace DisplayComposer

/-- What one call is to return: a failure, or else the answer to its kind. -/
structure Response where
  failure : Option HardwareError
  validation : Validation
  presentation : Presentation
  clientComposition : Bool

namespace Response

/-- Success with nothing to report. -/
def plain : Response where
  failure := none
  validation := ⟨false, [], ⟨0, []⟩, ⟨.rgba8888, .unknown⟩⟩
  presentation := ⟨.absent, []⟩
  clientComposition := false

end Response

/-- Hardware with the responses still to come, each for one operation. -/
structure Scripted where
  nextLayer : LayerId
  script : List (String × Response)

namespace Scripted

/-- The next response for an operation, and the script without it. -/
def take (operation : String) : List (String × Response) → Response × List (String × Response)
  | [] => (.plain, [])
  | (name, response) :: rest =>
    if name = operation then (response, rest)
    else
      let (taken, rest) := take operation rest
      (taken, (name, response) :: rest)

/-- Append responses to the script. -/
def extend (s : Scripted) (more : List (String × Response)) : Scripted :=
  { s with script := s.script ++ more }

instance : Hardware Scripted where
  perform call s :=
    let (response, script) := take call.operation s.script
    let s := { s with script }
    match response.failure with
    | some e => .ok (.error e, s)
    | none =>
      match call with
      | .createLayer _ =>
        if s.nextLayer = Int64.maxValue then .error .additionOverflow
        else .ok (.ok s.nextLayer, { s with nextLayer := s.nextLayer + 1 })
      | .destroyLayer _ _ | .set _ _ | .accept _ => .ok (.ok (), s)
      | .validate _ => .ok (.ok response.validation, s)
      | .present _ => .ok (.ok response.presentation, s)
      | .hasClientComposition _ => .ok (.ok response.clientComposition, s)

end Scripted

end DisplayComposer
