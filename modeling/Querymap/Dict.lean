/-! Finite maps keyed by text, in increasing order of the keys. Equal look-ups mean equal maps. -/
namespace Querymap

structure Dict (β : Type) where
  entries : List (String × β)
  sorted : entries.Pairwise (·.1 < ·.1)
deriving DecidableEq

namespace Dict

variable {β γ : Type}

private theorem eq_of_not_lt {a b : String} (h : ¬a < b) (h' : ¬b < a) : a = b :=
  String.le_antisymm (String.not_lt.mp h') (String.not_lt.mp h)

def insertEntry (key : String) (value : β) : List (String × β) → List (String × β)
  | [] => [(key, value)]
  | entry :: rest =>
    if key < entry.1 then (key, value) :: entry :: rest
    else if entry.1 < key then entry :: insertEntry key value rest
    else (key, value) :: rest

theorem mem_insertEntry {key : String} {value : β} {entry : String × β}
    {entries : List (String × β)} (h : entry ∈ insertEntry key value entries) :
    entry = (key, value) ∨ entry ∈ entries := by
  induction entries with
  | nil => simpa [insertEntry] using h
  | cons first rest ih =>
    rw [insertEntry] at h
    split at h
    · simpa using h
    · split at h
      · rcases List.mem_cons.1 h with h | h
        · exact .inr (by simp [h])
        · exact (ih h).imp_right (List.mem_cons_of_mem _)
      · exact (List.mem_cons.1 h).imp_right (List.mem_cons_of_mem _)

theorem insertEntry_sorted {key : String} {value : β} {entries : List (String × β)}
    (sorted : entries.Pairwise (·.1 < ·.1)) :
    (insertEntry key value entries).Pairwise (·.1 < ·.1) := by
  induction entries with
  | nil => simp [insertEntry]
  | cons first rest ih =>
    rw [List.pairwise_cons] at sorted
    rw [insertEntry]
    split
    · next before =>
      refine List.pairwise_cons.2 ⟨fun entry member => ?_, List.pairwise_cons.2 sorted⟩
      rcases List.mem_cons.1 member with rfl | member
      · exact before
      · exact String.lt_trans before (sorted.1 entry member)
    · split
      · next after =>
        refine List.pairwise_cons.2 ⟨fun entry member => ?_, ih sorted.2⟩
        rcases mem_insertEntry member with rfl | member
        · exact after
        · exact sorted.1 entry member
      · next before after =>
        have same : key = first.1 := eq_of_not_lt before after
        exact List.pairwise_cons.2 ⟨fun entry member => same ▸ sorted.1 entry member, sorted.2⟩

def empty : Dict β := ⟨[], .nil⟩

instance : EmptyCollection (Dict β) := ⟨empty⟩
instance : Inhabited (Dict β) := ⟨empty⟩

def insert (dict : Dict β) (key : String) (value : β) : Dict β :=
  ⟨insertEntry key value dict.entries, insertEntry_sorted dict.sorted⟩

def erase (dict : Dict β) (key : String) : Dict β :=
  ⟨dict.entries.filter (·.1 != key), dict.sorted.filter _⟩

def get? (dict : Dict β) (key : String) : Option β :=
  dict.entries.lookup key

def contains (dict : Dict β) (key : String) : Bool := (dict.get? key).isSome

def size (dict : Dict β) : Nat := dict.entries.length

def isEmpty (dict : Dict β) : Bool := dict.entries.isEmpty

def keys (dict : Dict β) : List String := dict.entries.map (·.1)

def values (dict : Dict β) : List β := dict.entries.map (·.2)

def mapValues (f : β → γ) (dict : Dict β) : Dict γ :=
  ⟨dict.entries.map fun entry => (entry.1, f entry.2), dict.sorted.map _ fun _ _ h => h⟩

/-- A later entry replaces an earlier one with the same key. -/
def ofList (entries : List (String × β)) : Dict β :=
  entries.foldl (fun dict entry => dict.insert entry.1 entry.2) empty

private theorem lookup_cons_if (other name : String) (value : β) (rest : List (String × β)) :
    ((name, value) :: rest).lookup other =
      if other = name then some value else rest.lookup other := by
  by_cases h : other = name
  · simp [h]
  · simp only [List.lookup_cons, beq_false_of_ne h, h, if_false]

theorem lookup_insertEntry (key other : String) (value : β) (entries : List (String × β)) :
    (insertEntry key value entries).lookup other =
      if other = key then some value else entries.lookup other := by
  induction entries with
  | nil => simp [insertEntry, lookup_cons_if]
  | cons first rest ih =>
    obtain ⟨name, old⟩ := first
    rw [insertEntry]
    split
    · simp [lookup_cons_if]
    · split
      · next after =>
        have apart : name ≠ key := fun same => String.lt_irrefl _ (same ▸ after)
        by_cases h : other = name <;> simp [lookup_cons_if, ih, h, apart]
      · next before after =>
        obtain rfl : key = name := eq_of_not_lt before after
        by_cases h : other = key <;> simp [lookup_cons_if, h]

@[simp] theorem get?_insert (dict : Dict β) (key other : String) (value : β) :
    (dict.insert key value).get? other = if other = key then some value else dict.get? other :=
  lookup_insertEntry key other value dict.entries

theorem mem_keys_of_get? {dict : Dict β} {key : String} {value : β}
    (found : dict.get? key = some value) : key ∈ dict.keys := by
  obtain ⟨entries, sorted⟩ := dict
  change entries.lookup key = some value at found
  change key ∈ entries.map (·.1)
  clear sorted
  induction entries with
  | nil => contradiction
  | cons entry rest ih =>
    obtain ⟨name, old⟩ := entry
    rw [lookup_cons_if] at found
    split at found
    · next same => simp [same]
    · exact List.mem_cons_of_mem _ (ih found)

@[simp] theorem get?_empty (key : String) : (empty : Dict β).get? key = none := rfl

end Dict

end Querymap
