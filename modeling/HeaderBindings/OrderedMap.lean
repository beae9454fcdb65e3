/-!
# Maps that remember insertion order

A finite map as the list of its entries, in the order in which the keys were first inserted. Keys
are pairwise distinct, and writing to a key that is present keeps its place. Registries, symbol
indexes and packages are all of this shape: what they show is their entries from first to last.

`get?_insert` says what writing does to what is stored, and `keys_insert`, `keys_modify` and
`keys_erase` what becomes of the keys.
-/

namespace HeaderBindings

/-- A finite map whose entries are listed in the order of their first insertion. -/
structure OrderedMap (α β : Type) where
  entries : List (α × β)
  nodup_keys : (entries.map Prod.fst).Nodup

namespace OrderedMap

variable {α β : Type}

@[ext] theorem ext {m n : OrderedMap α β} (h : m.entries = n.entries) : m = n := by
  cases m; cases n; cases h; rfl

def empty : OrderedMap α β := ⟨[], List.nodup_nil⟩

instance : EmptyCollection (OrderedMap α β) := ⟨empty⟩

instance : Inhabited (OrderedMap α β) := ⟨empty⟩

@[simp] theorem entries_empty : (∅ : OrderedMap α β).entries = [] := rfl

/-- The keys, first inserted first. -/
def keys (m : OrderedMap α β) : List α := m.entries.map Prod.fst

def values (m : OrderedMap α β) : List β := m.entries.map Prod.snd

def size (m : OrderedMap α β) : Nat := m.entries.length

def isEmpty (m : OrderedMap α β) : Bool := m.entries.isEmpty

instance : Membership α (OrderedMap α β) := ⟨fun m k => k ∈ m.keys⟩

theorem mem_iff {m : OrderedMap α β} {k : α} : k ∈ m ↔ k ∈ m.keys := Iff.rfl

def mapValues {γ : Type} (f : β → γ) (m : OrderedMap α β) : OrderedMap α γ where
  entries := m.entries.map fun e => (e.1, f e.2)
  nodup_keys := by
    rw [List.map_map]
    exact m.nodup_keys

@[simp] theorem keys_mapValues {γ : Type} (f : β → γ) (m : OrderedMap α β) :
    (m.mapValues f).keys = m.keys := by
  simp only [keys, mapValues, List.map_map]
  rfl

section DecidableKeys

variable [DecidableEq α]

instance (k : α) (m : OrderedMap α β) : Decidable (k ∈ m) :=
  inferInstanceAs (Decidable (k ∈ m.keys))

def get? (m : OrderedMap α β) (k : α) : Option β := m.entries.lookup k

/-! ### Writing -/

/-- Writes `v` under `k`: in place if `k` is present, at the end otherwise. -/
def put (k : α) (v : β) : List (α × β) → List (α × β)
  | [] => [(k, v)]
  | (k', v') :: rest => if k' = k then (k', v) :: rest else (k', v') :: put k v rest

theorem keys_put (k : α) (v : β) : ∀ l : List (α × β),
    (put k v l).map Prod.fst =
      if k ∈ l.map Prod.fst then l.map Prod.fst else l.map Prod.fst ++ [k]
  | [] => rfl
  | (k', v') :: rest => by
    by_cases h : k' = k
    · simp [put, h]
    · have h' : ¬ k = k' := fun e => h e.symm
      by_cases hk : k ∈ rest.map Prod.fst <;>
        simp only [put, h, h', hk, keys_put k v rest, List.map_cons, List.mem_cons, if_true,
          if_false, or_true, or_self, List.cons_append]

/-- Stores `v` under `k`. A key that is present keeps its place, a new one comes last. -/
def insert (m : OrderedMap α β) (k : α) (v : β) : OrderedMap α β where
  entries := put k v m.entries
  nodup_keys := by
    rw [keys_put]
    split
    · exact m.nodup_keys
    · next h =>
      refine List.nodup_append.2 ⟨m.nodup_keys, by simp, ?_⟩
      intro a ha b hb hab
      cases List.mem_singleton.1 hb
      exact h (hab ▸ ha)

@[simp] theorem keys_insert (m : OrderedMap α β) (k : α) (v : β) :
    (m.insert k v).keys = if k ∈ m then m.keys else m.keys ++ [k] :=
  keys_put k v m.entries

/-- Replaces the value under `k`, if there is one, by its image under `f`. -/
def modify (m : OrderedMap α β) (k : α) (f : β → β) : OrderedMap α β where
  entries := m.entries.map fun e => if e.1 = k then (e.1, f e.2) else e
  nodup_keys := by
    have h : (Prod.fst ∘ fun e : α × β => if e.1 = k then (e.1, f e.2) else e) = Prod.fst := by
      funext e
      by_cases h : e.1 = k <;> simp [h]
    rw [List.map_map, h]
    exact m.nodup_keys

/-- Removes the entry of `k`. The other entries keep their order. -/
def erase (m : OrderedMap α β) (k : α) : OrderedMap α β where
  entries := m.entries.filter fun e => e.1 ≠ k
  nodup_keys := m.nodup_keys.sublist (List.filter_sublist.map Prod.fst)

def insertAll (m : OrderedMap α β) (l : List (α × β)) : OrderedMap α β :=
  l.foldl (fun m e => m.insert e.1 e.2) m

/-- The map that results from inserting the pairs from left to right. -/
def ofList (l : List (α × β)) : OrderedMap α β := insertAll ∅ l

/-! ### Reading what was written -/

/-- The first entry of a list answers for its own key, and the rest for all others. -/
theorem lookup_cons_ite (j k : α) (v : β) (l : List (α × β)) :
    ((k, v) :: l).lookup j = if j = k then some v else l.lookup j := by
  rw [List.lookup_cons]
  by_cases h : j = k
  · simp [h]
  · simp [h, beq_false_of_ne h]

theorem isSome_lookup_iff (j : α) : ∀ l : List (α × β),
    (l.lookup j).isSome ↔ j ∈ l.map Prod.fst
  | [] => by simp
  | (k, v) :: l => by
    rw [lookup_cons_ite, List.map_cons, List.mem_cons, ← isSome_lookup_iff j l]
    by_cases h : j = k <;> simp [h]

@[simp] theorem get?_empty (k : α) : (∅ : OrderedMap α β).get? k = none := rfl

theorem isSome_get?_iff {m : OrderedMap α β} {k : α} : (m.get? k).isSome ↔ k ∈ m :=
  isSome_lookup_iff k m.entries

theorem lookup_put (k : α) (v : β) (j : α) : ∀ l : List (α × β),
    (put k v l).lookup j = if j = k then some v else l.lookup j
  | [] => lookup_cons_ite j k v []
  | (k', v') :: rest => by
    by_cases h : k' = k
    · subst h
      simp only [put, if_true, lookup_cons_ite]
      split <;> rfl
    · simp only [put, h, if_false, lookup_cons_ite, lookup_put k v j rest]
      by_cases hj : j = k' <;> simp [hj, h]

theorem mem_iff_lookup {k : α} {v : β} {l : List (α × β)} (h : (l.map Prod.fst).Nodup) :
    (k, v) ∈ l ↔ l.lookup k = some v := by
  induction l with
  | nil => simp
  | cons e rest ih =>
    obtain ⟨k', v'⟩ := e
    rw [List.map_cons, List.nodup_cons] at h
    rw [lookup_cons_ite, List.mem_cons, ih h.2]
    by_cases hk : k = k'
    · -- the first entry answers for `k`, and no later entry has the same key
      subst hk
      have hnone : rest.lookup k ≠ some v := by
        intro hv
        have hk := List.mem_map_of_mem (f := Prod.fst) ((ih h.2).2 hv)
        exact h.1 hk
      simp [hnone, eq_comm]
    · simp [hk]

theorem mem_entries_iff {m : OrderedMap α β} {k : α} {v : β} :
    (k, v) ∈ m.entries ↔ m.get? k = some v :=
  mem_iff_lookup m.nodup_keys

theorem exists_get?_of_mem {m : OrderedMap α β} {k : α} (h : k ∈ m) : ∃ v, m.get? k = some v :=
  Option.isSome_iff_exists.1 (isSome_get?_iff.2 h)

theorem mem_of_get? {m : OrderedMap α β} {k : α} {v : β} (h : m.get? k = some v) : k ∈ m :=
  isSome_get?_iff.1 (h ▸ rfl)

theorem mem_values_of_get? {m : OrderedMap α β} {k : α} {v : β} (h : m.get? k = some v) :
    v ∈ m.values :=
  List.mem_map_of_mem (f := Prod.snd) (mem_entries_iff.2 h)

/-- **A map is determined by its keys, in order, and what is stored under them.** -/
theorem ext_get? {m n : OrderedMap α β} (hkeys : m.keys = n.keys)
    (hget : ∀ k, m.get? k = n.get? k) : m = n := by
  have hentries : ∀ m : OrderedMap α β,
      m.entries.map (fun e => (e.1, some e.2)) = m.keys.map fun k => (k, m.get? k) := by
    intro m
    rw [keys, List.map_map]
    apply List.map_congr_left
    rintro ⟨k, v⟩ he
    show (k, some v) = (k, m.get? k)
    rw [mem_entries_iff.1 he]
  have hsome : ∀ e e' : α × β, (e.1, some e.2) = (e'.1, some e'.2) → e = e' := by
    rintro ⟨k, v⟩ ⟨k', v'⟩ h
    cases h
    rfl
  apply ext
  rw [← List.map_inj_right hsome, hentries m, hentries n, hkeys]
  simp only [hget]

/-- Inserting changes what is stored under its own key, and nothing else. -/
theorem get?_insert (m : OrderedMap α β) (k j : α) (v : β) :
    (m.insert k v).get? j = if j = k then some v else m.get? j :=
  lookup_put k v j m.entries

@[simp] theorem mem_insert {m : OrderedMap α β} {k j : α} {v : β} :
    j ∈ m.insert k v ↔ j = k ∨ j ∈ m := by
  rw [← isSome_get?_iff, get?_insert, ← isSome_get?_iff]
  by_cases h : j = k <;> simp [h]

/-- Of several pairs with the same key the last one counts, and one that is inserted counts for more
than one that was there before. -/
theorem get?_insertAll (k : α) (l : List (α × β)) (m : OrderedMap α β) :
    (m.insertAll l).get? k = (l.reverse.lookup k).or (m.get? k) := by
  induction l generalizing m with
  | nil => rfl
  | cons e rest ih =>
    obtain ⟨k', v⟩ := e
    show ((m.insert k' v).insertAll rest).get? k = _
    rw [ih, get?_insert, List.reverse_cons, List.lookup_append, Option.or_assoc, lookup_cons_ite,
      List.lookup_nil]
    split <;> rfl

/-- Where the keys differ, the order of the entries does not matter. -/
theorem lookup_reverse {l : List (α × β)} (h : (l.map Prod.fst).Nodup) (k : α) :
    l.reverse.lookup k = l.lookup k := by
  have hreverse : (l.reverse.map Prod.fst).Nodup := by
    rw [List.map_reverse]
    exact List.pairwise_reverse.2 (h.imp Ne.symm)
  apply Option.ext
  intro v
  rw [← mem_iff_lookup hreverse, ← mem_iff_lookup h, List.mem_reverse]

/-- Inserting the entries of a second map gives the second map, where it has a value. -/
theorem get?_insertAll_entries (m n : OrderedMap α β) (k : α) :
    (m.insertAll n.entries).get? k = (n.get? k).or (m.get? k) := by
  rw [get?_insertAll, lookup_reverse n.nodup_keys]
  rfl

theorem put_of_not_mem {k : α} {v : β} : ∀ {l : List (α × β)},
    k ∉ l.map Prod.fst → put k v l = l ++ [(k, v)]
  | [], _ => rfl
  | (k', v') :: rest, h => by
    have hk : ¬ k' = k := fun e => h (e ▸ List.mem_cons_self)
    have hr : k ∉ rest.map Prod.fst := fun m => h (List.mem_cons_of_mem _ m)
    simp [put, hk, put_of_not_mem hr]

/-- A new entry comes after all others. -/
theorem entries_insert_of_not_mem {m : OrderedMap α β} {k : α} (h : k ∉ m) (v : β) :
    (m.insert k v).entries = m.entries ++ [(k, v)] :=
  put_of_not_mem h

@[simp] theorem keys_modify (m : OrderedMap α β) (k : α) (f : β → β) :
    (m.modify k f).keys = m.keys := by
  simp only [keys, modify, List.map_map]
  congr 1
  funext e
  by_cases h : e.1 = k <;> simp [h]

@[simp] theorem keys_erase (m : OrderedMap α β) (k : α) :
    (m.erase k).keys = m.keys.filter (· ≠ k) := by
  simp only [keys, erase, List.filter_map]
  rfl

/-- Erasing a key that has just been inserted as a new one gives the map back. -/
theorem erase_insert_of_not_mem {m : OrderedMap α β} {k : α} (h : k ∉ m) (v : β) :
    (m.insert k v).erase k = m := by
  apply ext
  have hkeep : m.entries.filter (fun e => decide (e.1 ≠ k)) = m.entries := by
    rw [List.filter_eq_self]
    intro e he
    exact decide_eq_true fun hk => h (hk ▸ List.mem_map_of_mem (f := Prod.fst) he)
  show (m.insert k v).entries.filter (fun e => decide (e.1 ≠ k)) = m.entries
  rw [entries_insert_of_not_mem h, List.filter_append, hkeep]
  simp

/-- Changing the value of a key that has just been inserted as a new one is inserting the changed
value. -/
theorem modify_insert_of_not_mem {m : OrderedMap α β} {k : α} (h : k ∉ m) (v : β) (f : β → β) :
    (m.insert k v).modify k f = m.insert k (f v) := by
  apply ext
  have hkeep : m.entries.map (fun e => if e.1 = k then (e.1, f e.2) else e) = m.entries := by
    refine (List.map_congr_left ?_).trans (List.map_id m.entries)
    intro e he
    have hk : e.1 ≠ k := fun hk => h (hk ▸ List.mem_map_of_mem (f := Prod.fst) he)
    rw [if_neg hk, id]
  show (m.insert k v).entries.map (fun e => if e.1 = k then (e.1, f e.2) else e) = _
  rw [entries_insert_of_not_mem h, entries_insert_of_not_mem h, List.map_append, hkeep]
  simp

@[simp] theorem mem_erase {m : OrderedMap α β} {k j : α} : j ∈ m.erase k ↔ j ∈ m ∧ j ≠ k := by
  simp [mem_iff]

/-! ### Changing all values -/

theorem lookup_mapSnd {γ : Type} (f : β → γ) (k : α) (l : List (α × β)) :
    (l.map fun e => (e.1, f e.2)).lookup k = (l.lookup k).map f := by
  induction l with
  | nil => rfl
  | cons e rest ih =>
    rw [List.map_cons, lookup_cons_ite, lookup_cons_ite, ih]
    split <;> rfl

theorem put_mapSnd {γ : Type} (f : β → γ) (k : α) (v : β) (l : List (α × β)) :
    (put k v l).map (fun e => (e.1, f e.2)) = put k (f v) (l.map fun e => (e.1, f e.2)) := by
  induction l with
  | nil => rfl
  | cons e rest ih =>
    rw [List.map_cons, put, put]
    split
    · rfl
    · rw [List.map_cons, ih]

@[simp] theorem get?_mapValues {γ : Type} (f : β → γ) (m : OrderedMap α β) (k : α) :
    (m.mapValues f).get? k = (m.get? k).map f :=
  lookup_mapSnd f k m.entries

theorem mapValues_insert {γ : Type} (f : β → γ) (m : OrderedMap α β) (k : α) (v : β) :
    (m.insert k v).mapValues f = (m.mapValues f).insert k (f v) :=
  ext (put_mapSnd f k v m.entries)

end DecidableKeys

end OrderedMap

end HeaderBindings
