import Mathlib.Data.List.Nodup

/-!
# Python values, dictionaries and exceptions

The reconciler reads per-service directives from a Python dictionary of arbitrary scalar values,
tests them with Python truthiness and equality, and keeps label maps and secret data in
dictionaries as well.  This file fixes those Python-level notions once: values, `dict` lookup,
item assignment, `update` and `==`, and the exceptions the modelled code raises or catches.
-/

namespace Zenith

/-- The values a registration's config may carry: Python scalars, strings and the flat
dictionary of `auth-external-params`. -/
inductive Value where
  | none
  | bool (b : Bool)
  | int (i : Int)
  | str (s : String)
  | dict (entries : List (String × String))
  deriving DecidableEq, Repr

namespace Value

/-- Python truthiness: `None`, `False`, `0`, `""` and `{}` are false. -/
def truthy : Value → Bool
  | none => false
  | bool b => b
  | int i => i != 0
  | str s => !s.isEmpty
  | dict entries => !entries.isEmpty

end Value

/-- The exceptions of the modelled code.  `apiError` stands for any failure of a Kubernetes,
Helm or HTTP request; `outOfFuel` marks where the model stops a Python loop that would go on. -/
inductive Error where
  | keyError (key : String)
  | typeError
  | valueError
  | apiError
  | outOfFuel
  deriving DecidableEq, Repr

/-- `int(value)`, given Python's parsing of integer strings.  A `ValueError` is what the
reconciler catches; a `TypeError` escapes. -/
def Value.toInt (parseInt : String → Option Int) : Value → Except Error Int
  | .bool b => .ok (if b then 1 else 0)
  | .int i => .ok i
  | .str s => match parseInt s with
    | some i => .ok i
    | Option.none => .error .valueError
  | .none | .dict _ => .error .typeError

/-- `str.startswith`. -/
def startswith (s pre : String) : Bool := pre.data.isPrefixOf s.data

/-- The log levels the reconciler uses. -/
inductive Level where
  | info
  | warn
  | exception
  deriving DecidableEq, Repr

structure LogEntry where
  level : Level
  message : String
  deriving DecidableEq, Repr

/-- Lookup in a list of items: the value of the first item with the key. -/
def lookup {α : Type} : List (String × α) → String → Option α
  | [], _ => Option.none
  | (k, v) :: items, key => if k = key then some v else lookup items key

/-- Assignment in a list of items: replace the value in place, or append a new item. -/
def assign {α : Type} : List (String × α) → String → α → List (String × α)
  | [], key, value => [(key, value)]
  | (k, v) :: items, key, value =>
    if k = key then (key, value) :: items else (k, v) :: assign items key value

theorem lookup_cons {α : Type} (k key : String) (v : α) (items : List (String × α)) :
    lookup ((k, v) :: items) key = if k = key then some v else lookup items key := rfl

@[simp] theorem lookup_assign {α : Type} (items : List (String × α)) (key k : String) (value : α) :
    lookup (assign items key value) k = if key = k then some value else lookup items k := by
  induction items with
  | nil => rfl
  | cons item items ih =>
    obtain ⟨k', v'⟩ := item
    by_cases same : k' = key
    · subst same
      simp only [assign, if_true, lookup_cons]
      split <;> rfl
    · simp only [assign, same, if_false, lookup_cons, ih]
      by_cases hit : k' = k
      · subst hit; simp [Ne.symm same]
      · simp [hit]

/-- A key with a value is the key of one of the items. -/
theorem exists_mem_of_lookup {α : Type} {items : List (String × α)} {k : String} {v : α}
    (found : lookup items k = some v) : ∃ item ∈ items, item.1 = k := by
  induction items with
  | nil => simp [lookup] at found
  | cons head items ih =>
    rw [lookup] at found
    split at found
    · exact ⟨head, List.mem_cons_self _ _, ‹_›⟩
    · obtain ⟨item, mem, rfl⟩ := ih found
      exact ⟨item, List.mem_cons_of_mem _ mem, rfl⟩

theorem lookup_map {α β : Type} (f : α → β) (items : List (String × α)) (k : String) :
    lookup (items.map fun item => (item.1, f item.2)) k = (lookup items k).map f := by
  induction items with
  | nil => rfl
  | cons item items ih =>
    simp only [List.map_cons, lookup]
    split <;> simp_all

theorem keys_assign {α : Type} (items : List (String × α)) (key : String) (value : α) :
    (assign items key value).map Prod.fst =
      if key ∈ items.map Prod.fst then items.map Prod.fst else items.map Prod.fst ++ [key] := by
  induction items with
  | nil => rfl
  | cons item items ih =>
    obtain ⟨k, v⟩ := item
    by_cases same : k = key
    · simp [assign, same]
    · simp only [assign, same, if_false, List.map_cons, ih, List.mem_cons, Ne.symm same, false_or]
      split <;> rfl

/-- A Python dictionary: its items in insertion order, with pairwise distinct keys. -/
structure Dict (α : Type) where
  items : List (String × α)
  nodup : (items.map Prod.fst).Nodup

namespace Dict

variable {α β : Type}

@[ext] theorem ext {d e : Dict α} (same : d.items = e.items) : d = e := by
  cases d; cases e; subst same; rfl

instance [DecidableEq α] : DecidableEq (Dict α) := fun d e =>
  decidable_of_iff (d.items = e.items) ⟨ext, fun h => h ▸ rfl⟩

/-- `{}`. -/
def empty : Dict α := ⟨[], List.nodup_nil⟩

instance : Inhabited (Dict α) := ⟨empty⟩

/-- `d.get(key)`. -/
def get? (d : Dict α) (key : String) : Option α := lookup d.items key

/-- `key in d`. -/
def contains (d : Dict α) (key : String) : Bool := (d.get? key).isSome

/-- `d.get(key, default)`. -/
def getD (d : Dict α) (key : String) (default : α) : α := (d.get? key).getD default

/-- `d[key]`, raising `KeyError` for a missing key. -/
def getItem (d : Dict α) (key : String) : Except Error α :=
  match d.get? key with
  | some v => .ok v
  | Option.none => .error (.keyError key)

/-- `d[key] = value`. -/
def set (d : Dict α) (key : String) (value : α) : Dict α where
  items := assign d.items key value
  nodup := by
    rw [keys_assign]
    split
    · exact d.nodup
    · exact d.nodup.append (List.nodup_singleton key) (List.disjoint_singleton.mpr ‹_›)

/-- `d.update(other)`. -/
def update (d other : Dict α) : Dict α :=
  other.items.foldl (fun acc item => acc.set item.1 item.2) d

/-- The dictionary with each value replaced by its image, keys and order kept. -/
def map (f : α → β) (d : Dict α) : Dict β where
  items := d.items.map fun item => (item.1, f item.2)
  nodup := by simpa [Function.comp_def] using d.nodup

/-- `d == other`: the same keys, with equal values. -/
def beq [DecidableEq α] (d other : Dict α) : Bool :=
  d.items.all (fun item => other.get? item.1 == d.get? item.1) &&
    other.items.all (fun item => d.get? item.1 == other.get? item.1)

@[simp] theorem get?_empty (key : String) : (empty : Dict α).get? key = Option.none := rfl

@[simp] theorem get?_set (d : Dict α) (key k : String) (value : α) :
    (d.set key value).get? k = if key = k then some value else d.get? k :=
  lookup_assign d.items key k value

theorem get?_map (f : α → β) (d : Dict α) (k : String) : (d.map f).get? k = (d.get? k).map f :=
  lookup_map f d.items k

@[simp] theorem getD_eq (d : Dict α) (key : String) (default : α) :
    d.getD key default = (d.get? key).getD default := rfl

@[simp] theorem contains_eq (d : Dict α) (key : String) :
    d.contains key = (d.get? key).isSome := rfl

theorem contains_eq_false {d : Dict α} {key : String} :
    d.contains key = false ↔ d.get? key = Option.none := by
  cases h : d.get? key <;> simp [h]

theorem contains_iff {d : Dict α} {key : String} :
    d.contains key = true ↔ d.get? key ≠ Option.none := by
  cases h : d.get? key <;> simp [h]

theorem getItem_eq_ok {d : Dict α} {key : String} {v : α} :
    d.getItem key = .ok v ↔ d.get? key = some v := by
  unfold getItem
  split <;> simp_all

theorem exists_mem_of_get? {d : Dict α} {k : String} {v : α} (found : d.get? k = some v) :
    ∃ item ∈ d.items, item.1 = k :=
  exists_mem_of_lookup found

theorem get?_update (d other : Dict α) (k : String) :
    (d.update other).get? k = (other.get? k).or (d.get? k) := by
  obtain ⟨items, distinct⟩ := other
  simp only [update, get?]
  induction items generalizing d with
  | nil => rfl
  | cons item items ih =>
    obtain ⟨k', v⟩ := item
    obtain ⟨fresh, rest⟩ := List.nodup_cons.mp distinct
    rw [List.foldl_cons, ih _ rest, lookup_cons]
    change (lookup items k).or (get? (d.set k' v) k) = _
    rw [get?_set]
    by_cases hit : k' = k
    · subst hit
      have : lookup items k' = Option.none := by
        cases found : lookup items k' with
        | none => rfl
        | some w =>
          obtain ⟨item, mem, rfl⟩ := exists_mem_of_lookup found
          exact absurd (List.mem_map_of_mem Prod.fst mem) fresh
      simp [this]
    · simp [hit, get?]

/-- What a key looks up is one of the items. -/
theorem mem_of_get? {d : Dict α} {k : String} {v : α} (found : d.get? k = some v) :
    (k, v) ∈ d.items := by
  obtain ⟨items, distinct⟩ := d
  simp only [get?] at found ⊢
  clear distinct
  induction items with
  | nil => cases found
  | cons head items ih =>
    obtain ⟨k', v'⟩ := head
    rw [lookup_cons] at found
    split at found
    · next same =>
      cases found
      subst same
      exact List.mem_cons_self _ _
    · exact List.mem_cons_of_mem _ (ih found)

/-- Each item of a dictionary is what its key looks up. -/
theorem get?_of_mem {d : Dict α} {item : String × α} (mem : item ∈ d.items) :
    d.get? item.1 = some item.2 := by
  obtain ⟨items, distinct⟩ := d
  simp only [get?]
  induction items with
  | nil => cases mem
  | cons head items ih =>
    obtain ⟨fresh, rest⟩ := List.nodup_cons.mp distinct
    obtain ⟨k, v⟩ := head
    rw [lookup_cons]
    rcases List.mem_cons.mp mem with rfl | later
    · simp
    · have other : k ≠ item.1 := by
        rintro rfl
        exact fresh (List.mem_map.mpr ⟨item, later, rfl⟩)
      rw [if_neg other]
      exact ih rest later

/-- Python's `==` on dictionaries is agreement on every key. -/
theorem beq_iff [DecidableEq α] (d other : Dict α) :
    d.beq other = true ↔ ∀ k, d.get? k = other.get? k := by
  simp only [beq, Bool.and_eq_true, List.all_eq_true, beq_iff_eq]
  constructor
  · rintro ⟨left, right⟩ k
    cases own : d.get? k with
    | none =>
      cases theirs : other.get? k with
      | none => rfl
      | some v =>
        obtain ⟨item, mem, rfl⟩ := exists_mem_of_get? theirs
        simpa [own, theirs] using right item mem
    | some v =>
      obtain ⟨item, mem, rfl⟩ := exists_mem_of_get? own
      rw [← own, left item mem]
  · intro agree
    exact ⟨fun item _ => (agree item.1).symm, fun item _ => agree item.1⟩

end Dict

end Zenith
