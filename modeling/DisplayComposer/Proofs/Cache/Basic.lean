import DisplayComposer.Cache.Resources
import DisplayComposer.Proofs.Table
/-!
# DisplayComposer.Proofs.Cache.Basic

**What the operations of a cache do.** A resolution that succeeds is a lookup in the
slots of its place, or puts a stream there. `Cache.Resolves` says for each kind of place
what it found and what it left, and `resolve_cases` that nothing else can happen. What is
registered or removed is looked up first, and replaced or taken out then.

The note that a display has to be validated is kept for the displays that are
registered. Taking it back a second time, or when it is not there, changes nothing.

* `importImage_ok` — an import has the next serial number;
* `Cache.Resolves`, `Cache.resolve_cases` — resolutions;
* `Cache.addDisplay_ok`, `Cache.removeLayer_ok` and so on — registration;
* `Cache.setMustValidate_setMustValidate` — the note.
-/

namespace DisplayComposer

theorem importImage_ok {n : Nat} {handle : NativeHandle} {image : Image}
    (h : importImage n handle = .ok image) : image = ⟨n, handle⟩ := by
  rw [importImage] at h
  split at h
  · cases h
  · exact (Except.ok.inj h).symm

namespace Cache

/-! ### Resolutions -/

/-- How a place is resolved, by its kind: what was found there, and the cache that is
left. -/
inductive Resolves (c : Cache) (handle : Option NativeHandle) :
    Scope → Resolution → Cache → Prop where
  | clientTarget {display : DisplayId} {slot : Int32} {entry : DisplayEntry} {r : Lookup}
      (hentry : c.displays.get? display = some entry)
      (hfound : entry.clientTargets.lookup slot handle c.imported = .ok r) :
      Resolves c handle (.clientTarget display slot) r.found
        (c.update display { entry with clientTargets := r.slots } r.imported)
  | outputBuffer {display : DisplayId} {slot : Int32} {entry : DisplayEntry} {slots : Slots}
      {r : Lookup} (hentry : c.displays.get? display = some entry)
      (hslots : entry.outputBuffers = some slots)
      (hfound : slots.lookup slot handle c.imported = .ok r) :
      Resolves c handle (.outputBuffer display slot) r.found
        (c.update display { entry with outputBuffers := some r.slots } r.imported)
  | layerBuffer {display : DisplayId} {layer : LayerId} {slot : Int32} {entry : DisplayEntry}
      {cached : LayerEntry} {r : Lookup} (hentry : c.displays.get? display = some entry)
      (hcached : entry.layers.get? layer = some cached)
      (hfound : cached.buffers.lookup slot handle c.imported = .ok r) :
      Resolves c handle (.layerBuffer display layer slot) r.found
        (c.update display { entry with
          layers := entry.layers.insert layer { cached with buffers := r.slots } } r.imported)
  | sideband {display : DisplayId} {layer : LayerId} {entry : DisplayEntry}
      {cached : LayerEntry} {stream : NativeHandle}
      (hentry : c.displays.get? display = some entry)
      (hcached : entry.layers.get? layer = some cached) (hhandle : handle = some stream) :
      Resolves c handle (.sideband display layer)
        ⟨⟨c.imported, stream⟩, cached.sideband.toList⟩
        (c.update display { entry with
          layers := entry.layers.insert layer
            { cached with sideband := some ⟨c.imported, stream⟩ } } (c.imported + 1))

/-- A resolution that succeeds is one of these. -/
theorem resolve_cases {ref : ImageRef} {r : Resolution} {c c' : Cache}
    (h : c.resolve ref = .ok (r, c')) : c.Resolves ref.handle ref.scope r c' := by
  obtain ⟨scope, handle⟩ := ref
  cases scope with
  | clientTarget display slot =>
    simp only [resolve] at h
    split at h
    · cases h
    · rename_i entry hentry
      obtain ⟨found, hfound, hlast⟩ := Except.bind_eq_ok_iff.1 h
      cases hlast
      exact .clientTarget hentry hfound
  | outputBuffer display slot =>
    simp only [resolve] at h
    split at h
    · cases h
    · rename_i entry hentry
      split at h
      · cases h
      · rename_i slots hslots
        obtain ⟨found, hfound, hlast⟩ := Except.bind_eq_ok_iff.1 h
        cases hlast
        exact .outputBuffer hentry hslots hfound
  | layerBuffer display layer slot =>
    simp only [resolve] at h
    split at h
    · cases h
    · rename_i entry hentry
      split at h
      · cases h
      · rename_i cached hcached
        obtain ⟨found, hfound, hlast⟩ := Except.bind_eq_ok_iff.1 h
        cases hlast
        exact .layerBuffer hentry hcached hfound
  | sideband display layer =>
    simp only [resolve] at h
    cases handle with
    | none => cases h
    | some stream =>
      obtain ⟨image, himport, hrest⟩ := Except.bind_eq_ok_iff.1 h
      obtain rfl := importImage_ok himport
      split at hrest
      · cases hrest
      · rename_i entry hentry
        split at hrest
        · cases hrest
        · rename_i cached hcached
          cases hrest
          exact .sideband hentry hcached rfl

/-! ### Registration -/

/-- What is cached for a display that was just registered: nothing. -/
def newDisplay (targets : UInt32) (isVirtual : Bool) : DisplayEntry where
  mustValidate := true
  clientTargets := .vacant targets.toNat
  outputBuffers := if isVirtual then some (.vacant outputSlots) else none
  layers := .empty

variable {c c' : Cache} {display : DisplayId} {layer : LayerId}

theorem addDisplay_ok {targets : UInt32} {isVirtual : Bool} :
    c.addDisplay display targets isVirtual = .ok c' ↔
      c.displays.get? display = none ∧
        c' = { c with displays := c.displays.insert display (newDisplay targets isVirtual) } := by
  rw [addDisplay, Table.contains]
  cases c.displays.get? display with
  | some entry => simp
  | none => simp [newDisplay, eq_comm]

theorem removeDisplay_ok :
    c.removeDisplay display = .ok c' ↔ ∃ entry, c.displays.get? display = some entry ∧
      c' = { c with displays := c.displays.erase display }.release entry.images := by
  rw [removeDisplay]
  cases c.displays.get? display with
  | none => simp
  | some entry => simp [eq_comm]

theorem addLayer_ok {slots : UInt32} :
    c.addLayer display layer slots = .ok c' ↔ ∃ entry, c.displays.get? display = some entry ∧
      entry.layers.get? layer = none ∧
        c' = { c with displays := c.displays.insert display { entry with
          layers := entry.layers.insert layer ⟨.vacant slots.toNat, none⟩ } } := by
  rw [addLayer]
  cases c.displays.get? display with
  | none => simp
  | some entry => cases hlayer : entry.layers.get? layer <;> simp [Table.contains, hlayer, eq_comm]

theorem removeLayer_ok :
    c.removeLayer display layer = .ok c' ↔ ∃ entry removed,
      c.displays.get? display = some entry ∧ entry.layers.get? layer = some removed ∧
        c' = { c with displays := c.displays.insert display { entry with
          layers := entry.layers.erase layer } }.release removed.images := by
  rw [removeLayer]
  cases c.displays.get? display with
  | none => simp
  | some entry => cases hlayer : entry.layers.get? layer <;> simp [hlayer, eq_comm]

/-! ### The note -/

theorem setMustValidate_setMustValidate (display : DisplayId) (a b : Bool) (c : Cache) :
    (c.setMustValidate display a).setMustValidate display b = c.setMustValidate display b := by
  cases hd : c.displays.get? display with
  | none => simp only [setMustValidate, hd]
  | some entry => simp only [setMustValidate, hd, Table.get?_insert_self, Table.insert_insert]

theorem setMustValidate_of_mustValidate {display : DisplayId} {c : Cache}
    (h : c.mustValidate display = false) : c.setMustValidate display false = c := by
  unfold mustValidate at h
  unfold setMustValidate
  cases hd : c.displays.get? display with
  | none => rfl
  | some entry =>
    rw [hd] at h
    have hsame : { entry with mustValidate := false } = entry := by
      rw [← show entry.mustValidate = false from h]
    dsimp only
    rw [hsame, Table.insert_self hd]

/-- Nothing has to be known of a display that was just registered, or of one that is not. -/
def Fresh (c : Cache) : Prop := ∀ display, c.mustValidate display = true

/-- A display that does not have to be validated is registered. -/
theorem registered_of_mustValidate (h : c.mustValidate display = false) :
    ∃ entry, c.displays.get? display = some entry := by
  unfold mustValidate at h
  cases hd : c.displays.get? display with
  | none =>
    rw [hd] at h
    cases h
  | some entry => exact ⟨entry, rfl⟩

/-- The note of another entry that says the same. -/
theorem mustValidate_insert {entry entry' : DisplayEntry}
    (hdisplays : c'.displays = c.displays.insert display entry')
    (hentry : c.displays.get? display = some entry)
    (hflag : entry'.mustValidate = entry.mustValidate) (other : DisplayId) :
    c'.mustValidate other = c.mustValidate other := by
  unfold mustValidate
  rw [hdisplays, Table.get?_insert]
  by_cases hdisplay : display = other
  · rw [if_pos hdisplay, ← hdisplay, hentry]
    exact hflag
  · rw [if_neg hdisplay]

theorem Resolves.mustValidate {handle : Option NativeHandle} {scope : Scope} {r : Resolution}
    (h : c.Resolves handle scope r c') (other : DisplayId) :
    c'.mustValidate other = c.mustValidate other := by
  cases h with
  | clientTarget hentry | outputBuffer hentry | layerBuffer hentry | sideband hentry =>
    exact mustValidate_insert rfl hentry (by rfl) other

theorem mustValidate_addLayer {slots : UInt32} (h : c.addLayer display layer slots = .ok c')
    (other : DisplayId) : c'.mustValidate other = c.mustValidate other := by
  obtain ⟨entry, hentry, -, rfl⟩ := addLayer_ok.1 h
  exact mustValidate_insert rfl hentry (by rfl) other

theorem mustValidate_removeLayer (h : c.removeLayer display layer = .ok c') (other : DisplayId) :
    c'.mustValidate other = c.mustValidate other := by
  obtain ⟨entry, removed, hentry, -, rfl⟩ := removeLayer_ok.1 h
  exact mustValidate_insert rfl hentry (by rfl) other

theorem mustValidate_setMustValidate (display other : DisplayId) (b : Bool) (c : Cache) :
    (c.setMustValidate display b).mustValidate other =
      if display = other then b || (c.displays.get? display).isNone
      else c.mustValidate other := by
  unfold setMustValidate mustValidate
  by_cases hdisplay : display = other
  · subst hdisplay
    cases hd : c.displays.get? display <;> simp [hd]
  · cases hd : c.displays.get? display <;> simp [hdisplay, Table.get?_insert]

/-- Of a display that is registered the note can be taken away. -/
theorem mustValidate_of_registered {entry : DisplayEntry}
    (h : (c.setMustValidate display false).displays.get? display = some entry) :
    (c.setMustValidate display false).mustValidate display = false := by
  rw [mustValidate_setMustValidate, if_pos rfl, Bool.false_or]
  cases hd : c.displays.get? display with
  | none =>
    have hsame : c.setMustValidate display false = c := by simp only [setMustValidate, hd]
    rw [hsame, hd] at h
    cases h
  | some entry => rfl

theorem fresh_addDisplay {targets : UInt32} {isVirtual : Bool} (hc : c.Fresh)
    (h : c.addDisplay display targets isVirtual = .ok c') : c'.Fresh := by
  intro other
  obtain ⟨-, rfl⟩ := addDisplay_ok.1 h
  unfold mustValidate
  rw [Table.get?_insert]
  by_cases hdisplay : display = other
  · rw [if_pos hdisplay]
    rfl
  · rw [if_neg hdisplay]
    exact hc other

end Cache

end DisplayComposer
