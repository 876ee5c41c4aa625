import Mathlib.Data.List.AList

/-! # Finite maps read in both directions

A finite map from names to values of which some code also wants the inverse, and
finds it by a scan of the entries that keeps the last name it sees (`keyOf`).  The
scan inverts the map only where the map is injective; the lemmas here say so, and say
which writes keep a map injective.
-/
namespace LocationStack
namespace IdMap

variable {α β : Type} [DecidableEq α]

/-- A finite map from `α` to `β`. -/
abbrev Map (α β : Type) := AList fun _ : α => β

/-- No two names have one value. -/
def Injective (m : Map α β) : Prop :=
  ∀ k k' v, m.lookup k = some v → m.lookup k' = some v → k = k'

/-! ## Writing many entries -/

/-- Write the entries one after the other; a later one overwrites. -/
def insertAll (m : Map α β) (kvs : List (α × β)) : Map α β :=
  kvs.foldl (fun m kv => m.insert kv.1 kv.2) m

/-- Erase names one after the other. -/
def eraseAll (m : Map α β) (ks : List α) : Map α β := ks.foldl (fun m k => m.erase k) m

@[simp] theorem insertAll_nil (m : Map α β) : insertAll m [] = m := rfl

@[simp] theorem insertAll_cons (m : Map α β) (kv : α × β) (kvs : List (α × β)) :
    insertAll m (kv :: kvs) = insertAll (m.insert kv.1 kv.2) kvs := rfl

@[simp] theorem eraseAll_nil (m : Map α β) : eraseAll m [] = m := rfl

@[simp] theorem eraseAll_cons (m : Map α β) (k : α) (ks : List α) :
    eraseAll m (k :: ks) = eraseAll (m.erase k) ks := rfl

theorem lookup_erase_eq (m : Map α β) (k k' : α) :
    (m.erase k').lookup k = if k = k' then none else m.lookup k := by
  split
  · subst k'
    exact AList.lookup_erase k m
  · exact AList.lookup_erase_ne ‹_›

theorem lookup_insert_eq (m : Map α β) (k k' : α) (v : β) :
    (m.insert k' v).lookup k = if k = k' then some v else m.lookup k := by
  split
  · subst k'
    exact AList.lookup_insert m
  · exact AList.lookup_insert_ne ‹_›

theorem mem_entries_insert (m : Map α β) (k : α) (v : β) (e : Sigma fun _ : α => β) :
    e ∈ (m.insert k v).entries ↔ e = ⟨k, v⟩ ∨ e.1 ≠ k ∧ e ∈ m.entries := by
  obtain ⟨k', v'⟩ := e
  rw [← AList.mem_lookup_iff, ← AList.mem_lookup_iff, Option.mem_def, Option.mem_def,
    lookup_insert_eq]
  by_cases hk : k' = k
  · subst hk
    simp [eq_comm]
  · simp [hk]

theorem lookup_eraseAll (m : Map α β) (ks : List α) (k : α) :
    (eraseAll m ks).lookup k = if k ∈ ks then none else m.lookup k := by
  induction ks generalizing m with
  | nil => simp
  | cons k' ks ih =>
    rw [eraseAll_cons, ih, lookup_erase_eq]
    by_cases hk : k = k'
    · simp [hk]
    · simp [hk]

theorem mem_eraseAll (m : Map α β) (ks : List α) (k : α) :
    k ∈ eraseAll m ks ↔ k ∈ m ∧ k ∉ ks := by
  rw [← AList.lookup_isSome, ← AList.lookup_isSome, lookup_eraseAll]
  by_cases hk : k ∈ ks <;> simp [hk]

theorem lookup_insertAll_of_notMem (m : Map α β) {kvs : List (α × β)} {k : α}
    (h : k ∉ kvs.map Prod.fst) : (insertAll m kvs).lookup k = m.lookup k := by
  induction kvs generalizing m with
  | nil => rfl
  | cons kv kvs ih =>
    rw [List.map_cons, List.mem_cons, not_or] at h
    rw [insertAll_cons, ih _ h.2, lookup_insert_eq, if_neg h.1]

/-- Entries with distinct names are all there after they were written. -/
theorem lookup_insertAll_of_mem (m : Map α β) {kvs : List (α × β)}
    (hnd : (kvs.map Prod.fst).Nodup) {k : α} {v : β} (h : (k, v) ∈ kvs) :
    (insertAll m kvs).lookup k = some v := by
  induction kvs generalizing m with
  | nil => exact absurd h List.not_mem_nil
  | cons kv kvs ih =>
    rw [List.map_cons, List.nodup_cons] at hnd
    rcases List.mem_cons.mp h with rfl | h'
    · rw [insertAll_cons, lookup_insertAll_of_notMem _ hnd.1, lookup_insert_eq, if_pos rfl]
    · exact ih _ hnd.2 h'

/-- What is in the map after a write of distinct names. -/
theorem lookup_insertAll_iff (m : Map α β) {kvs : List (α × β)}
    (hnd : (kvs.map Prod.fst).Nodup) {k : α} {v : β} :
    (insertAll m kvs).lookup k = some v ↔
      (k, v) ∈ kvs ∨ (k ∉ kvs.map Prod.fst ∧ m.lookup k = some v) := by
  by_cases hk : k ∈ kvs.map Prod.fst
  · obtain ⟨⟨k', w⟩, hmem, rfl⟩ := List.mem_map.mp hk
    have hw := lookup_insertAll_of_mem m hnd hmem
    constructor
    · intro h
      have hwv : w = v := Option.some.inj (hw.symm.trans h)
      exact .inl (hwv ▸ hmem)
    · rintro (h | ⟨h, _⟩)
      · exact lookup_insertAll_of_mem m hnd h
      · exact absurd hk h
  · rw [lookup_insertAll_of_notMem m hk]
    constructor
    · intro h
      exact .inr ⟨hk, h⟩
    · rintro (h | ⟨_, h⟩)
      · exact absurd (List.mem_map.mpr ⟨(k, v), h, rfl⟩) hk
      · exact h

/-! ## Reading the map backwards -/

variable [DecidableEq β]

/-- The last name in a list of entries that has value `v`, `d` if there is none. -/
def scan (es : List (Sigma fun _ : α => β)) (v : β) (d : α) : α :=
  es.foldl (fun acc e => if e.2 = v then e.1 else acc) d

/-- The last name of the map with value `v`, `d` if there is none. -/
def keyOf (m : Map α β) (v : β) (d : α) : α := scan m.entries v d

omit [DecidableEq α] in
/-- A scan ends with its default or with a name that has the value. -/
theorem scan_cases (es : List (Sigma fun _ : α => β)) (v : β) (d : α) :
    (scan es v d = d ∧ ∀ e ∈ es, e.2 ≠ v) ∨ ∃ e ∈ es, e.2 = v ∧ scan es v d = e.1 := by
  induction es generalizing d with
  | nil => exact .inl ⟨rfl, by simp⟩
  | cons e es ih =>
    have hstep : scan (e :: es) v d = scan es v (if e.2 = v then e.1 else d) := rfl
    rcases ih (if e.2 = v then e.1 else d) with ⟨hd, hall⟩ | ⟨e', he', hv, hk⟩
    · by_cases hev : e.2 = v
      · right
        refine ⟨e, List.mem_cons_self, hev, ?_⟩
        rw [hstep, hd, if_pos hev]
      · left
        refine ⟨by rw [hstep, hd, if_neg hev], ?_⟩
        intro e' he'
        rcases List.mem_cons.mp he' with rfl | h
        · exact hev
        · exact hall e' h
    · exact .inr ⟨e', List.mem_cons_of_mem _ he', hv, hstep ▸ hk⟩

theorem keyOf_cases (m : Map α β) (v : β) (d : α) :
    (keyOf m v d = d ∧ ∀ k, m.lookup k ≠ some v) ∨ m.lookup (keyOf m v d) = some v := by
  rcases scan_cases m.entries v d with ⟨hd, hall⟩ | ⟨⟨k, w⟩, he, rfl, hk⟩
  · left
    refine ⟨hd, fun k hk => ?_⟩
    exact hall ⟨k, v⟩ (AList.mem_lookup_iff.mp hk) rfl
  · right
    rw [keyOf, hk]
    exact AList.mem_lookup_iff.mpr he

/-- **The scan inverts an injective map.** -/
theorem keyOf_of_lookup {m : Map α β} (hinj : Injective m) {k : α} {v : β}
    (h : m.lookup k = some v) (d : α) : keyOf m v d = k := by
  rcases keyOf_cases m v d with ⟨_, hall⟩ | hk
  · exact absurd h (hall k)
  · exact hinj _ _ _ hk h

end IdMap
end LocationStack
