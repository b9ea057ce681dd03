import Mathlib.Data.Finset.Basic

/-!
# Finite stores

The cluster's objects form a finite map from keys to objects.  The key set is kept beside the
lookup function, so that a label-selector listing can enumerate the store, and it is determined
by the lookup: two stores that agree on every key are equal.
-/

namespace Zenith

/-- A finite map whose key set is exactly the keys with a value. -/
structure Store (κ α : Type) [DecidableEq κ] where
  get : κ → Option α
  keys : Finset κ
  mem_keys : ∀ k, k ∈ keys ↔ (get k).isSome

namespace Store

variable {κ α : Type} [DecidableEq κ]

@[ext] theorem ext {s t : Store κ α} (agree : ∀ k, s.get k = t.get k) : s = t := by
  obtain ⟨get, keys, mem⟩ := s
  obtain ⟨get', keys', mem'⟩ := t
  obtain rfl : get = get' := funext agree
  obtain rfl : keys = keys' := Finset.ext fun k => (mem k).trans (mem' k).symm
  rfl

/-- The store with no objects. -/
def empty : Store κ α := ⟨fun _ => none, ∅, by simp⟩

/-- Create or replace the value at `key`. -/
def set (s : Store κ α) (key : κ) (value : α) : Store κ α where
  get k := if k = key then some value else s.get k
  keys := insert key s.keys
  mem_keys k := by by_cases h : k = key <;> simp [h, s.mem_keys]

/-- Remove the value at `key`, if any. -/
def erase (s : Store κ α) (key : κ) : Store κ α where
  get k := if k = key then none else s.get k
  keys := s.keys.erase key
  mem_keys k := by by_cases h : k = key <;> simp [h, s.mem_keys]

/-- Keep the entries that satisfy `keep`. -/
def filter (s : Store κ α) (keep : κ → α → Bool) : Store κ α where
  get k := (s.get k).filter (keep k)
  keys := s.keys.filter fun k => (s.get k).any (keep k)
  mem_keys k := by
    rw [Finset.mem_filter, s.mem_keys]
    cases found : s.get k with
    | none => simp [found]
    | some v => cases hv : keep k v <;> simp [Option.filter, found, hv]

@[simp] theorem get_empty (k : κ) : (empty : Store κ α).get k = none := rfl

@[simp] theorem get_set (s : Store κ α) (key k : κ) (value : α) :
    (s.set key value).get k = if k = key then some value else s.get k := rfl

@[simp] theorem get_erase (s : Store κ α) (key k : κ) :
    (s.erase key).get k = if k = key then none else s.get k := rfl

@[simp] theorem get_filter (s : Store κ α) (keep : κ → α → Bool) (k : κ) :
    (s.filter keep).get k = (s.get k).filter (keep k) := rfl

/-- Writing back the value a key already has changes nothing. -/
theorem set_of_get {s : Store κ α} {key : κ} {value : α} (found : s.get key = some value) :
    s.set key value = s :=
  ext fun k => by by_cases same : k = key <;> simp [same, found]

/-- Deleting an absent key changes nothing. -/
theorem erase_of_get {s : Store κ α} {key : κ} (absent : s.get key = none) : s.erase key = s :=
  ext fun k => by by_cases same : k = key <;> simp [same, absent]

end Store

end Zenith
