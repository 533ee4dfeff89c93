/-!
# Finite maps

A `Dict` holds at most one value for each key.  The entries are a list in which
no key occurs twice, so the number of entries is the number of keys; the order
of the entries carries no meaning.

`get?_insert` and `get?_erase` say what writing does to reading, `insert_insert`
what it does when it is repeated, and `mem_keys_insert` what it does to the set of
keys.
-/

namespace UriRouting

/-- A finite map from `κ` to `ν`. -/
structure Dict (κ ν : Type) where
  /-- The bindings, in no particular order. -/
  entries : List (κ × ν)
  /-- No key is bound twice. -/
  distinct : (entries.map Prod.fst).Nodup
  deriving Repr

namespace Dict

variable {κ ν : Type}

/-- The map without entries. -/
def empty : Dict κ ν := ⟨[], List.nodup_nil⟩

instance : EmptyCollection (Dict κ ν) := ⟨empty⟩

instance : Inhabited (Dict κ ν) := ⟨empty⟩

/-- The keys of a map. -/
def keys (d : Dict κ ν) : List κ := d.entries.map Prod.fst

/-- The values of a map. -/
def values (d : Dict κ ν) : List ν := d.entries.map Prod.snd

/-- The number of keys. -/
def size (d : Dict κ ν) : Nat := d.entries.length

/-- Whether the map has no entry. -/
def isEmpty (d : Dict κ ν) : Bool := d.entries.isEmpty

variable [DecidableEq κ]

/-- The value of a key. -/
def get? (d : Dict κ ν) (k : κ) : Option ν :=
  (d.entries.find? fun entry => entry.1 = k).map Prod.snd

/-- Whether a key has a value. -/
def contains (d : Dict κ ν) (k : κ) : Bool := (d.get? k).isSome

/-- The map without the entry of a key. -/
def erase (d : Dict κ ν) (k : κ) : Dict κ ν where
  entries := d.entries.filter fun entry => entry.1 ≠ k
  distinct := d.distinct.sublist (List.filter_sublist.map Prod.fst)

/-- The map in which `k` has the value `v`, whatever it had before. -/
def insert (d : Dict κ ν) (k : κ) (v : ν) : Dict κ ν where
  entries := (k, v) :: (d.erase k).entries
  distinct := by
    rw [List.map_cons, List.nodup_cons]
    refine ⟨fun h => ?_, (d.erase k).distinct⟩
    obtain ⟨entry, hmem, rfl⟩ := List.mem_map.1 h
    simp [erase] at hmem

/-- The map of a list of bindings, later ones replacing earlier ones. -/
def ofList (bindings : List (κ × ν)) : Dict κ ν :=
  bindings.foldl (fun d (k, v) => d.insert k v) empty

@[simp] theorem get?_empty (k : κ) : (empty : Dict κ ν).get? k = none := rfl

theorem get?_erase (d : Dict κ ν) (k k' : κ) :
    (d.erase k).get? k' = if k = k' then none else d.get? k' := by
  by_cases h : k = k'
  · simp [get?, erase, List.find?_filter, h]
  · simp only [get?, erase, if_neg h, List.find?_filter]
    congr 2
    funext entry
    grind

theorem get?_insert (d : Dict κ ν) (k k' : κ) (v : ν) :
    (d.insert k v).get? k' = if k = k' then some v else d.get? k' := by
  by_cases h : k = k'
  · simp [get?, insert, h]
  · have herase := get?_erase d k k'
    rw [if_neg h] at herase
    simpa [get?, insert, h] using herase

/-- Of two writings to one key, the later one counts. -/
theorem insert_insert (d : Dict κ ν) (k : κ) (v v' : ν) :
    (d.insert k v).insert k v' = d.insert k v' := by
  simp [insert, erase]

theorem contains_iff_mem_keys (d : Dict κ ν) (k : κ) : d.contains k = true ↔ k ∈ d.keys := by
  rw [contains, get?, Option.isSome_map, List.find?_isSome, keys, List.mem_map]
  simp only [decide_eq_true_eq]

theorem mem_keys_insert (d : Dict κ ν) (k k' : κ) (v : ν) :
    k' ∈ (d.insert k v).keys ↔ k' = k ∨ k' ∈ d.keys := by
  simp only [keys, insert, erase, List.map_cons, List.mem_cons, List.mem_map, List.mem_filter]
  grind

end Dict
end UriRouting
