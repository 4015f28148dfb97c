/-!
# Maps from names, in the order of the names

Validators, networks and files are known by name, and every listing of them is in name order. A
`NameMap` keeps its entries sorted by name, each name once, so the order is part of the value. Order
of names is order by code point, which is also the byte order of their UTF-8 form.
-/

namespace ValidatorWatch

/-- Entries sorted by name, each name at most once. -/
structure NameMap (α : Type) where
  entries : List (String × α)
  sorted : entries.Pairwise (fun a b => a.1 < b.1)

namespace NameMap

variable {α β : Type}

/-- The entry's place is before the first greater name; an equal name is replaced. -/
def insertEntry (name : String) (value : α) : List (String × α) → List (String × α)
  | [] => [(name, value)]
  | (n, v) :: rest =>
    if name < n then (name, value) :: (n, v) :: rest
    else if n < name then (n, v) :: insertEntry name value rest
    else (name, value) :: rest

theorem mem_insertEntry {name : String} {value : α} {e : String × α} :
    ∀ {es : List (String × α)}, e ∈ insertEntry name value es → e = (name, value) ∨ e ∈ es
  | [], h => by simpa [insertEntry] using h
  | (n, v) :: rest, h => by
    unfold insertEntry at h
    split at h
    · simpa using h
    · split at h
      · rcases List.mem_cons.1 h with h | h
        · exact .inr (by simp [h])
        · rcases mem_insertEntry h with h | h
          · exact .inl h
          · exact .inr (List.mem_cons_of_mem _ h)
      · rcases List.mem_cons.1 h with h | h
        · exact .inl h
        · exact .inr (List.mem_cons_of_mem _ h)

theorem sorted_insertEntry {name : String} {value : α} :
    ∀ {es : List (String × α)}, es.Pairwise (fun a b => a.1 < b.1) →
      (insertEntry name value es).Pairwise (fun a b => a.1 < b.1)
  | [], _ => by simp [insertEntry]
  | (n, v) :: rest, h => by
    have hrest := List.pairwise_cons.1 h
    unfold insertEntry
    split
    · next hlt =>
      refine List.pairwise_cons.2 ⟨?_, h⟩
      intro e he
      rcases List.mem_cons.1 he with rfl | he
      · exact hlt
      · exact String.lt_trans hlt (hrest.1 e he)
    · next hnlt =>
      split
      · next hlt =>
        refine List.pairwise_cons.2 ⟨?_, sorted_insertEntry hrest.2⟩
        intro e he
        rcases mem_insertEntry he with rfl | he
        · exact hlt
        · exact hrest.1 e he
      · next hngt =>
        refine List.pairwise_cons.2 ⟨?_, hrest.2⟩
        intro e he
        have hname : name = n := String.le_antisymm hngt hnlt
        simpa [hname] using hrest.1 e he

/-- No entries. -/
def empty : NameMap α := ⟨[], List.Pairwise.nil⟩

instance : Inhabited (NameMap α) := ⟨empty⟩

instance : EmptyCollection (NameMap α) := ⟨empty⟩

/-- Sets the value of a name, new or known. -/
def insert (m : NameMap α) (name : String) (value : α) : NameMap α :=
  ⟨insertEntry name value m.entries, sorted_insertEntry m.sorted⟩

/-- Later entries win over earlier ones of the same name. -/
def ofList (es : List (String × α)) : NameMap α :=
  es.foldl (fun m e => m.insert e.1 e.2) empty

/-- The value of a name. -/
def get? (m : NameMap α) (name : String) : Option α :=
  m.entries.lookup name

/-- Whether the name has a value. -/
def contains (m : NameMap α) (name : String) : Bool :=
  (m.get? name).isSome

/-- The names, in order. -/
def names (m : NameMap α) : List String :=
  m.entries.map (·.1)

/-- The values, in the order of their names. -/
def values (m : NameMap α) : List α :=
  m.entries.map (·.2)

/-- How many names there are. -/
def size (m : NameMap α) : Nat :=
  m.entries.length

/-- Whether there is no name. -/
def isEmpty (m : NameMap α) : Bool :=
  m.entries.isEmpty

/-- The entries that pass a test. -/
def filter (keep : String → α → Bool) (m : NameMap α) : NameMap α :=
  ⟨m.entries.filter (fun e => keep e.1 e.2), m.sorted.filter _⟩

/-- The map without a name. -/
def erase (m : NameMap α) (name : String) : NameMap α :=
  m.filter (fun n _ => n != name)

/-- The same names with other values. -/
def map (f : String → α → β) (m : NameMap α) : NameMap β :=
  ⟨m.entries.map (fun e => (e.1, f e.1 e.2)), by
    simpa [List.pairwise_map] using m.sorted⟩

/-! ## Looking up after a change -/

theorem lookup_insertEntry (name : String) (value : α) (other : String) :
    ∀ es : List (String × α), (insertEntry name value es).lookup other =
      if name = other then some value else es.lookup other
  | [] => by grind [insertEntry]
  | (n, v) :: rest => by
    unfold insertEntry
    split
    · grind
    · next hnlt =>
      split
      · next hlt =>
        have hne : n ≠ name := by
          rintro rfl
          exact String.lt_irrefl _ hlt
        rw [List.lookup_cons, List.lookup_cons, lookup_insertEntry name value other rest]
        grind
      · next hngt =>
        have hname : name = n := String.le_antisymm hngt hnlt
        grind

/-- A changed name has its new value and every other name keeps what it had. -/
theorem get?_insert (m : NameMap α) (name : String) (value : α) (other : String) :
    (m.insert name value).get? other = if name = other then some value else m.get? other :=
  lookup_insertEntry name value other m.entries

@[simp] theorem get?_empty (name : String) : (empty : NameMap α).get? name = none := rfl

@[simp] theorem get?_insert_self (m : NameMap α) (name : String) (value : α) :
    (m.insert name value).get? name = some value := by
  simp [get?_insert]

theorem get?_insert_of_ne (m : NameMap α) {name other : String} (value : α) (h : name ≠ other) :
    (m.insert name value).get? other = m.get? other := by
  simp [get?_insert, h]

theorem mem_of_get? {m : NameMap α} {name : String} {a : α} (h : m.get? name = some a) : (name, a) ∈ m.entries := by
  obtain ⟨before, after, hentries, -⟩ := List.lookup_eq_some_iff.1 h
  rw [hentries]
  exact List.mem_append_right _ List.mem_cons_self

theorem get?_of_mem {m : NameMap α} {name : String} {a : α} (h : (name, a) ∈ m.entries) : m.get? name = some a := by
  obtain ⟨before, after, hentries⟩ := List.append_of_mem h
  refine List.lookup_eq_some_iff.2 ⟨before, after, hentries, fun e he => ?_⟩
  have hlt : e.1 < name := by
    have hsorted := m.sorted
    rw [hentries, List.pairwise_append] at hsorted
    exact hsorted.2.2 e he _ List.mem_cons_self
  exact bne_iff_ne.2 fun hname => String.lt_irrefl _ (hname ▸ hlt)

theorem get?_eq_some_iff {m : NameMap α} {name : String} {a : α} : m.get? name = some a ↔ (name, a) ∈ m.entries :=
  ⟨mem_of_get?, get?_of_mem⟩

theorem get?_filter (keep : String → α → Bool) (m : NameMap α) (name : String) :
    (m.filter keep).get? name = (m.get? name).filter (keep name) := by
  ext a
  rw [get?_eq_some_iff, Option.filter_eq_some_iff, get?_eq_some_iff]
  exact List.mem_filter

theorem get?_erase (m : NameMap α) (name other : String) :
    (m.erase name).get? other = if name = other then none else m.get? other := by
  rw [erase, get?_filter]
  cases hget : m.get? other <;> grind

@[simp] theorem get?_erase_self (m : NameMap α) (name : String) : (m.erase name).get? name = none := by
  simp [get?_erase]

theorem get?_map (f : String → α → β) (m : NameMap α) (name : String) :
    (m.map f).get? name = (m.get? name).map (f name) := by
  have h (es : List (String × α)) :
      (es.map fun e => (e.1, f e.1 e.2)).lookup name = (es.lookup name).map (f name) := by
    induction es with
    | nil => rfl
    | cons e es ih =>
      rw [List.map_cons, List.lookup_cons, List.lookup_cons, ih]
      split
      next hn => rw [eq_of_beq hn]; rfl
      next => rfl
  exact h m.entries

theorem get?_of_isEmpty {m : NameMap α} (h : m.isEmpty = true) (name : String) : m.get? name = none := by
  rw [get?, List.isEmpty_iff.1 h]
  rfl

/-! ## Equality -/

/-- Two maps are the same if every name has the same value in both. -/
@[ext] theorem ext_get? {m n : NameMap α} (h : ∀ name, m.get? name = n.get? name) : m = n := by
  have hmem (e : String × α) : e ∈ m.entries ↔ e ∈ n.entries := by
    rw [← get?_eq_some_iff, ← get?_eq_some_iff, h]
  have hnodup (m : NameMap α) : m.entries.Nodup := by
    refine m.sorted.imp fun {e f} hlt heq => ?_
    subst heq
    exact String.lt_irrefl _ hlt
  have hentries : m.entries = n.entries :=
    List.Perm.eq_of_pairwise (fun _ _ _ _ hlt hgt => absurd hgt (String.lt_asymm hlt)) m.sorted n.sorted
      ((List.perm_ext_iff_of_nodup (hnodup m) (hnodup n)).2 hmem)
  cases m
  cases n
  cases hentries
  rfl

/-! ## Entries and names -/

theorem isEmpty_iff {m : NameMap α} : m.isEmpty = true ↔ ∀ name, m.get? name = none := by
  refine ⟨get?_of_isEmpty, fun h => List.isEmpty_iff.2 (List.eq_nil_iff_forall_not_mem.2 fun e he => ?_)⟩
  have hget := get?_of_mem he
  rw [h] at hget
  cases hget

theorem mem_names_iff {m : NameMap α} {name : String} : name ∈ m.names ↔ (m.get? name).isSome = true := by
  rw [names, List.mem_map, Option.isSome_iff_exists]
  constructor
  · rintro ⟨e, he, rfl⟩
    exact ⟨e.2, get?_of_mem he⟩
  · rintro ⟨a, ha⟩
    exact ⟨(name, a), mem_of_get? ha, rfl⟩

theorem mem_values_iff {m : NameMap α} {a : α} : a ∈ m.values ↔ ∃ name, m.get? name = some a := by
  rw [values, List.mem_map]
  constructor
  · rintro ⟨e, he, rfl⟩
    exact ⟨e.1, get?_of_mem he⟩
  · rintro ⟨name, ha⟩
    exact ⟨(name, a), mem_of_get? ha, rfl⟩

end NameMap

end ValidatorWatch
