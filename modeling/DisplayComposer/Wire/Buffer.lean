import DisplayComposer.Wire.Property
/-!
# DisplayComposer.Wire.Buffer

**Buffers on the wire.** A buffer is named by the cache slot it is in. Its
native handle is sent only when the buffer in the slot has to change; without a
handle the cached one is meant.
-/

namespace DisplayComposer

open Json

/-- A buffer or stream of the system: its file descriptors and other integers. -/
structure NativeHandle where
  descriptors : List Int32
  integers : List Int32
  deriving DecidableEq

namespace NativeHandle

def empty : NativeHandle := ⟨[], []⟩

/-- Whether the handle names nothing at all. -/
def isEmpty (h : NativeHandle) : Bool := h.descriptors.isEmpty && h.integers.isEmpty

def record : Record NativeHandle where
  title := "struct NativeHandle"
  blank := empty
  fields := [
    .required "fds" Codec.int32.list (·.descriptors) (fun v h => { h with descriptors := v }),
    .required "ints" Codec.int32.list (·.integers) (fun v h => { h with integers := v })]

def codec : Codec NativeHandle := record.codec

end NativeHandle

/-- The buffer of a cache slot. -/
structure Buffer where
  slot : Int32
  /-- The buffer that the slot is to hold from now on. -/
  handle : Option NativeHandle
  fence : Fence
  deriving DecidableEq

namespace Buffer

def record : Record Buffer where
  title := "struct Buffer"
  blank := ⟨0, none, .absent⟩
  fields := [
    .required "slot" .int32 (·.slot) (fun v b => { b with slot := v }),
    .optional "handle" NativeHandle.codec (·.handle) (fun v b => { b with handle := v }),
    .defaulted "fence" Fence.codec (·.fence) (fun v b => { b with fence := v })]

def codec : Codec Buffer := record.codec

end Buffer

/-- The buffer that the client composes into. -/
structure ClientTarget where
  buffer : Buffer
  dataspace : Dataspace
  damage : Region
  deriving DecidableEq

namespace ClientTarget

def record : Record ClientTarget where
  title := "struct ClientTarget"
  blank := ⟨Buffer.record.blank, .unknown, []⟩
  fields := [
    .required "buffer" Buffer.codec (·.buffer) (fun v t => { t with buffer := v }),
    .defaulted "dataspace" Dataspace.codec (·.dataspace) (fun v t => { t with dataspace := v }),
    .defaulted "damage" Region.codec (·.damage) (fun v t => { t with damage := v })]

def codec : Codec ClientTarget := record.codec

end ClientTarget

end DisplayComposer
