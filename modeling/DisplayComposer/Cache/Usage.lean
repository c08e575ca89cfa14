import DisplayComposer.Cache.Basic
/-!
# DisplayComposer.Cache.Usage

**A cache in use.** A resolution may be kept, and with it the images that it
displaced, while the cache goes on changing. Resolutions are kept under names; a
new one of the same name takes the place of the old, whose images are let go.

* `CacheUse` — a cache and the resolutions kept;
* `CacheStep`, `CacheUse.step` — everything that can happen to them.
-/

namespace DisplayComposer

/-- A cache and the resolutions kept, by their names. -/
structure CacheUse where
  cache : Cache
  kept : Table String Resolution

/-- Something that happens to a cache in use. -/
inductive CacheStep where
  | addDisplay (display : DisplayId) (targets : UInt32) (isVirtual : Bool)
  | removeDisplay (display : DisplayId)
  | addLayer (display : DisplayId) (layer : LayerId) (slots : UInt32)
  | removeLayer (display : DisplayId) (layer : LayerId)
  | mustValidate (display : DisplayId)
  | setMustValidate (display : DisplayId) (mustValidate : Bool)
  /-- A resolution, kept if it has a name. -/
  | resolve (ref : ImageRef) (name : Option String)
  /-- Give up the resolution of a name. -/
  | drop (name : String)
  deriving DecidableEq

/-- What a step returns. -/
inductive CacheAnswer where
  | done
  | flag (value : Bool)
  /-- An image, and the names under which the very same image was kept before. -/
  | image (image : Image) (sameAs : List String)
  deriving DecidableEq

namespace CacheUse

def empty : CacheUse := ⟨.empty, .empty⟩

/-- The images parked with resolutions that are kept. -/
def parked (u : CacheUse) : List Image := u.kept.values.flatMap (·.parked)

/-- The names under which an image is kept. -/
def namesOf (u : CacheUse) (image : Image) : List String :=
  (u.kept.entries.filter fun e => e.2.image.same image).map Prod.fst

/-- Give up the resolution of a name, if there is one. -/
def drop (u : CacheUse) (name : String) : CacheUse :=
  match u.kept.get? name with
  | none => u
  | some r => ⟨u.cache.release r.parked, u.kept.erase name⟩

/-- Keep a resolution under a name, in place of the one kept there. -/
def keep (u : CacheUse) (name : String) (r : Resolution) : CacheUse :=
  let u := u.drop name
  { u with kept := u.kept.insert name r }

/-- A change of the cache that returns nothing. -/
def change (u : CacheUse) : Except CacheError Cache → Except CacheError CacheAnswer × CacheUse
  | .ok cache => (.ok .done, { u with cache })
  | .error e => (.error e, u)

/-- One step. A step that fails changes nothing. -/
def step (u : CacheUse) : CacheStep → Except CacheError CacheAnswer × CacheUse
  | .addDisplay display targets isVirtual =>
    u.change (u.cache.addDisplay display targets isVirtual)
  | .removeDisplay display => u.change (u.cache.removeDisplay display)
  | .addLayer display layer slots => u.change (u.cache.addLayer display layer slots)
  | .removeLayer display layer => u.change (u.cache.removeLayer display layer)
  | .mustValidate display => (.ok (.flag (u.cache.mustValidate display)), u)
  | .setMustValidate display b => (.ok .done, { u with cache := u.cache.setMustValidate display b })
  | .resolve ref name =>
    match u.cache.resolve ref with
    | .error e => (.error e, u)
    | .ok (r, cache) =>
      let answer := CacheAnswer.image r.image (u.namesOf r.image)
      match name with
      | none => (.ok answer, { u with cache := cache.release r.parked })
      | some name => (.ok answer, { u with cache }.keep name r)
  | .drop name => (.ok (.flag (u.kept.contains name)), u.drop name)

end CacheUse

end DisplayComposer
