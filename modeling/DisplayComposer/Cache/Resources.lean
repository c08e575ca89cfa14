import DisplayComposer.Cache.Basic
/-!
# DisplayComposer.Cache.Resources

**What the engine asks of a cache.** The engine works with any implementation
of these operations. Each returns the state it leaves, whether it fails or not;
the images that a resolution displaced are given back with `release`.
-/

namespace DisplayComposer

/-- A cache as the engine uses it. -/
class Resources (ρ : Type) where
  addLayer : DisplayId → LayerId → UInt32 → ρ → Except CacheError Unit × ρ
  removeLayer : DisplayId → LayerId → ρ → Except CacheError Unit × ρ
  resolve : ImageRef → ρ → Except CacheError Resolution × ρ
  /-- Let go of images that were displaced. -/
  release : List Image → ρ → ρ
  mustValidate : DisplayId → ρ → Bool
  setMustValidate : DisplayId → Bool → ρ → ρ

namespace Cache

/-- A change that leaves the cache as it is if it is refused. -/
def orKeep {α : Type} (c : Cache) : Except CacheError (α × Cache) → Except CacheError α × Cache
  | .ok (a, c') => (.ok a, c')
  | .error e => (.error e, c)

instance : Resources Cache where
  addLayer display layer slots c := c.orKeep ((c.addLayer display layer slots).map fun c => ((), c))
  removeLayer display layer c := c.orKeep ((c.removeLayer display layer).map fun c => ((), c))
  resolve ref c := c.orKeep (c.resolve ref)
  release := Cache.release
  mustValidate := Cache.mustValidate
  setMustValidate := Cache.setMustValidate

end Cache

end DisplayComposer
