import Querymap.Dict

/-! Dictionaries are determined by their look-ups, and every way of building one is described by what
can be looked up in the result. -/
namespace Querymap.Dict

variable {β γ : Type}

theorem lookup_eq_some_iff {entries : List (String × β)} (sorted : entries.Pairwise (·.1 < ·.1))
    {key : String} {value : β} : entries.lookup key = some value ↔ (key, value) ∈ entries := by
  induction entries with
  | nil => simp
  | cons first rest ih =>
    obtain ⟨name, old⟩ := first
    rw [List.pairwise_cons] at sorted
    have below : ∀ other, (name, other) ∉ rest := fun other member =>
      String.lt_irrefl name (sorted.1 _ member)
    by_cases same : key = name
    · subst same
      simp [below, eq_comm]
    · have apart : (key == name) = false := beq_false_of_ne same
      simp [List.lookup_cons, apart, same, ih sorted.2]

theorem get?_eq_some_iff {dict : Dict β} {key : String} {value : β} :
    dict.get? key = some value ↔ (key, value) ∈ dict.entries :=
  lookup_eq_some_iff dict.sorted

theorem mem_keys_iff {dict : Dict β} {key : String} :
    key ∈ dict.keys ↔ (dict.get? key).isSome := by
  rw [Option.isSome_iff_exists]
  constructor
  · intro member
    obtain ⟨⟨_, value⟩, inside, rfl⟩ := List.mem_map.1 member
    exact ⟨value, get?_eq_some_iff.2 inside⟩
  · rintro ⟨value, found⟩
    exact mem_keys_of_get? found

theorem mem_values_iff {dict : Dict β} {value : β} :
    value ∈ dict.values ↔ ∃ key, dict.get? key = some value := by
  simp [values, get?_eq_some_iff]

/-- Strictly increasing lists with the same members are equal. -/
theorem eq_of_mem_iff {a b : List (String × β)} (sorted : a.Pairwise (·.1 < ·.1))
    (sorted' : b.Pairwise (·.1 < ·.1)) (same : ∀ entry, entry ∈ a ↔ entry ∈ b) : a = b := by
  have distinct {l : List (String × β)} (h : l.Pairwise (·.1 < ·.1)) : l.Nodup := by
    apply h.imp
    intro x y less equal
    subst equal
    exact String.lt_irrefl x.1 less
  refine List.Perm.eq_of_pairwise ?_ sorted sorted'
    ((List.perm_ext_iff_of_nodup (distinct sorted) (distinct sorted')).2 same)
  intro x y _ _ less greater
  exact absurd (String.lt_trans less greater) (String.lt_irrefl _)

theorem ext_get? {a b : Dict β} (same : ∀ key, a.get? key = b.get? key) : a = b := by
  obtain ⟨entries, sorted⟩ := a
  obtain ⟨entries', sorted'⟩ := b
  have equal : entries = entries' := by
    refine eq_of_mem_iff sorted sorted' fun ⟨key, value⟩ => ?_
    rw [← lookup_eq_some_iff sorted, ← lookup_eq_some_iff sorted']
    exact iff_of_eq (congrArg (· = some value) (same key))
  subst equal
  rfl

@[simp] theorem get?_emptyCollection (key : String) : (∅ : Dict β).get? key = none := rfl

@[simp] theorem get?_erase (dict : Dict β) (key other : String) :
    (dict.erase key).get? other = if other = key then none else dict.get? other := by
  apply Option.ext
  intro value
  by_cases same : other = key <;> simp [get?_eq_some_iff, erase, same]

@[simp] theorem get?_mapValues (f : β → γ) (dict : Dict β) (key : String) :
    (dict.mapValues f).get? key = (dict.get? key).map f := by
  obtain ⟨entries, sorted⟩ := dict
  change (entries.map fun entry => (entry.1, f entry.2)).lookup key = (entries.lookup key).map f
  clear sorted
  induction entries with
  | nil => rfl
  | cons first rest ih =>
    obtain ⟨name, value⟩ := first
    by_cases same : key = name
    · simp [same]
    · have apart : (key == name) = false := beq_false_of_ne same
      simp [List.lookup_cons, apart, ih]

theorem keys_sorted (dict : Dict β) : dict.keys.Pairwise (· < ·) :=
  dict.sorted.map _ fun _ _ h => h

/-- Dictionaries with the same keys have them in the same order. -/
theorem keys_eq_of_mem_iff {γ : Type} {a : Dict β} {b : Dict γ} (same : ∀ key, key ∈ a.keys ↔ key ∈ b.keys) :
    a.keys = b.keys := by
  have distinct {keys : List String} (sorted : keys.Pairwise (· < ·)) : keys.Nodup := by
    apply sorted.imp
    intro x y less equal
    subst equal
    exact String.lt_irrefl x less
  refine List.Perm.eq_of_pairwise ?_ a.keys_sorted b.keys_sorted
    ((List.perm_ext_iff_of_nodup (distinct a.keys_sorted) (distinct b.keys_sorted)).2 same)
  intro x y _ _ less greater
  exact absurd (String.lt_trans less greater) (String.lt_irrefl x)

/-- The keys up to an entry are at most its own. -/
theorem le_of_split {dict : Dict β} {before behind : List (String × β)} {entry other : String × β}
    (split : dict.entries = before ++ entry :: behind) (member : other ∈ dict.entries)
    (early : other ∉ behind) : other.1 ≤ entry.1 := by
  have sorted := dict.sorted
  rw [split] at sorted member
  rcases List.mem_append.1 member with member | member
  · exact String.not_lt.1 (String.lt_asymm
      ((List.pairwise_append.1 sorted).2.2 _ member _ List.mem_cons_self))
  · rcases List.mem_cons.1 member with rfl | member
    · exact String.le_refl _
    · exact absurd member early

/-- Writes one entry after the other. -/
def insertAll (dict : Dict β) (writes : List (String × β)) : Dict β :=
  writes.foldl (fun dict write => dict.insert write.1 write.2) dict

/-- The value that was written last under a key. -/
def lastWrite? (writes : List (String × β)) (key : String) : Option β :=
  writes.reverse.lookup key

@[simp] theorem lastWrite?_nil (key : String) : lastWrite? ([] : List (String × β)) key = none := rfl

theorem lastWrite?_append (before after : List (String × β)) (key : String) :
    lastWrite? (before ++ after) key = (lastWrite? after key).or (lastWrite? before key) := by
  simp [lastWrite?, List.lookup_append]

theorem lastWrite?_cons (write : String × β) (rest : List (String × β)) (key : String) :
    lastWrite? (write :: rest) key =
      (lastWrite? rest key).or (if key = write.1 then some write.2 else none) := by
  obtain ⟨name, value⟩ := write
  simp only [lastWrite?, List.reverse_cons, List.lookup_append]
  by_cases same : key = name
  · simp [same]
  · have apart : (key == name) = false := beq_false_of_ne same
    simp [List.lookup_cons, apart, same]

theorem get?_insertAll (dict : Dict β) (writes : List (String × β)) (key : String) :
    (dict.insertAll writes).get? key = (lastWrite? writes key).or (dict.get? key) := by
  induction writes generalizing dict with
  | nil => simp [insertAll]
  | cons write rest ih =>
    change ((dict.insert write.1 write.2).insertAll rest).get? key = _
    rw [ih, get?_insert, lastWrite?_cons]
    cases lastWrite? rest key with
    | some value => rfl
    | none => by_cases same : key = write.1 <;> simp [same]

theorem insertAll_append (dict : Dict β) (before after : List (String × β)) :
    dict.insertAll (before ++ after) = (dict.insertAll before).insertAll after :=
  List.foldl_append

theorem get?_ofList (writes : List (String × β)) (key : String) :
    (ofList writes).get? key = lastWrite? writes key := by
  change (empty.insertAll writes).get? key = _
  rw [get?_insertAll, get?_empty, Option.or_none]

theorem mem_of_lastWrite? {writes : List (String × β)} {key : String} {value : β}
    (last : lastWrite? writes key = some value) : (key, value) ∈ writes := by
  obtain ⟨before, after, split, _⟩ := List.lookup_eq_some_iff.1 last
  exact List.mem_reverse.1 (split ▸ List.mem_append_right before List.mem_cons_self)

theorem lastWrite?_eq_none_iff {writes : List (String × β)} {key : String} :
    lastWrite? writes key = none ↔ ∀ write ∈ writes, write.1 ≠ key := by
  rw [lastWrite?, List.lookup_eq_none_iff]
  constructor
  · intro none write member same
    simpa [same] using none write (List.mem_reverse.2 member)
  · intro apart write member
    simpa using (apart write (List.mem_reverse.1 member)).symm

/-- Where equal keys have equal values it does not matter which write is the last. -/
theorem lastWrite?_eq_some_iff {writes : List (String × β)}
    (functional : ∀ a ∈ writes, ∀ b ∈ writes, a.1 = b.1 → a.2 = b.2) {key : String} {value : β} :
    lastWrite? writes key = some value ↔ (key, value) ∈ writes := by
  refine ⟨mem_of_lastWrite?, fun member => ?_⟩
  cases last : lastWrite? writes key with
  | none => exact absurd rfl (lastWrite?_eq_none_iff.1 last _ member)
  | some found => exact congrArg some (functional _ (mem_of_lastWrite? last) _ member rfl)

theorem get?_ofList_eq_some_iff {entries : List (String × β)}
    (functional : ∀ a ∈ entries, ∀ b ∈ entries, a.1 = b.1 → a.2 = b.2) {key : String} {value : β} :
    (ofList entries).get? key = some value ↔ (key, value) ∈ entries := by
  rw [get?_ofList, lastWrite?_eq_some_iff functional]

/-- The entries of a dictionary as writes. -/
theorem lastWrite?_entries (dict : Dict β) (key : String) :
    lastWrite? dict.entries key = dict.get? key := by
  apply Option.ext
  intro value
  rw [get?_eq_some_iff]
  refine lastWrite?_eq_some_iff ?_
  rintro ⟨name, a⟩ first ⟨_, b⟩ second rfl
  exact Option.some.inj ((get?_eq_some_iff.2 first).symm.trans (get?_eq_some_iff.2 second))

theorem lastWrite?_flatMap {α : Type} (writes : α → List (String × β)) (items : List α)
    (key : String) :
    lastWrite? (items.flatMap writes) key =
      items.reverse.findSome? fun item => lastWrite? (writes item) key := by
  induction items with
  | nil => rfl
  | cons item rest ih =>
    rw [List.flatMap_cons, lastWrite?_append, ih, List.reverse_cons, List.findSome?_append]
    cases found : lastWrite? (writes item) key <;> simp [found]

/-- Writes under other names, of which `name` is the one for `key`. -/
theorem lastWrite?_map {writes : List (String × β)} {rename : String → String}
    (value : String × β → γ) {key name : String}
    (named : ∀ write ∈ writes, (rename write.1 = name ↔ write.1 = key)) :
    lastWrite? (writes.map fun write => (rename write.1, value write)) name =
      (lastWrite? writes key).map fun found => value (key, found) := by
  induction writes with
  | nil => rfl
  | cons write others ih =>
    have rest := ih fun other member => named other (List.mem_cons_of_mem _ member)
    have own := named write List.mem_cons_self
    rw [List.map_cons, lastWrite?_cons, lastWrite?_cons, rest]
    by_cases same : write.1 = key
    · obtain ⟨own', old⟩ := write
      simp only at same own
      subst same
      cases lastWrite? others own' <;> simp [own.2 rfl]
    · have apart : ¬name = rename write.1 := fun h => same (own.1 h.symm)
      simp [Ne.symm same, apart]

theorem lastWrite?_map_entries (dict : Dict β) (value : String × β → γ) (key : String) :
    lastWrite? (dict.entries.map fun entry => (entry.1, value entry)) key =
      (dict.get? key).map fun found => value (key, found) := by
  rw [← lastWrite?_entries]
  exact @lastWrite?_map _ _ _ id value key key fun _ _ => Iff.rfl

end Querymap.Dict
