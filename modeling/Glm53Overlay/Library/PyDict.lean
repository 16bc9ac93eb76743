import Mathlib.Data.List.Induction
import Mathlib.Data.List.Nodup

/-!
Insertion-ordered dictionaries. Assignment to a present key keeps its place,
assignment to a new key appends it, and a key occurs once. The order is observable
only through `keys` and through dropping the oldest entries.
-/
structure PyDict (K V : Type*) where
  entries : List (K × V)
  distinct : (entries.map Prod.fst).Nodup

namespace PyDict
variable {K V : Type*}

def empty : PyDict K V := ⟨[], List.nodup_nil⟩

def keys (d : PyDict K V) : List K := d.entries.map Prod.fst

def size (d : PyDict K V) : Nat := d.entries.length

theorem keys_length (d : PyDict K V) : d.keys.length = d.size := List.length_map _

/-- `for k in list(m)[:n]: m.pop(k, None)`. -/
def dropOldest (d : PyDict K V) (n : Nat) : PyDict K V :=
  ⟨d.entries.drop n, by
    rw [List.map_drop]
    exact d.distinct.sublist (List.drop_sublist n _)⟩

/-- `{k: v for k, v in m.items() if keep(k)}`. -/
def filterKeys (d : PyDict K V) (keep : K → Bool) : PyDict K V :=
  ⟨d.entries.filter fun e => keep e.1,
    d.distinct.sublist (List.filter_sublist.map Prod.fst)⟩

variable [DecidableEq K]

def get (d : PyDict K V) (k : K) : Option V := d.entries.lookup k

theorem get_eq_none_iff (d : PyDict K V) (k : K) : d.get k = none ↔ k ∉ d.keys := by
  simp only [get, List.lookup_eq_none_iff, keys, List.mem_map, not_exists, not_and]
  constructor
  · intro absent e member same
    have differ := absent e member
    simp [same] at differ
  · intro absent e member
    have differ := absent e member
    simpa using fun same : k = e.1 => differ same.symm

theorem get_eq_some_iff (d : PyDict K V) (k : K) (v : V) :
    d.get k = some v ↔ (k, v) ∈ d.entries := by
  obtain ⟨entries, distinct⟩ := d
  simp only [get]
  induction entries with
  | nil => simp
  | cons e rest ih =>
    obtain ⟨a, u⟩ := e
    rw [List.map_cons, List.nodup_cons] at distinct
    by_cases here : k = a
    · subst here
      have fresh : (k, v) ∉ rest := by
        intro later
        exact distinct.1 (List.mem_map.mpr ⟨(k, v), later, rfl⟩)
      simp [fresh, eq_comm]
    · have differ : (k == a) = false := beq_eq_false_iff_ne.mpr here
      simp [List.lookup_cons, differ, here, ih distinct.2]

theorem mem_keys_of_get {d : PyDict K V} {k : K} {v : V} (found : d.get k = some v) :
    k ∈ d.keys := by
  by_contra absent
  rw [(get_eq_none_iff d k).mpr absent] at found
  cases found

/-- The place of a present key is kept; the first components do not move. -/
def overwrite (k : K) (v : V) (entries : List (K × V)) : List (K × V) :=
  entries.map fun e => if e.1 = k then (e.1, v) else e

theorem overwrite_keys (k : K) (v : V) (entries : List (K × V)) :
    (overwrite k v entries).map Prod.fst = entries.map Prod.fst := by
  simp only [overwrite, List.map_map]
  apply List.map_congr_left
  intro e _
  simp only [Function.comp]
  split <;> rfl

theorem overwrite_lookup_same (k : K) (v : V) (entries : List (K × V))
    (present : k ∈ entries.map Prod.fst) : (overwrite k v entries).lookup k = some v := by
  induction entries with
  | nil => simp at present
  | cons e rest ih =>
    obtain ⟨a, b⟩ := e
    by_cases same : a = k
    · simp [overwrite, same]
    · have later : k ∈ rest.map Prod.fst := by
        simpa [Ne.symm same] using present
      have differ : (k == a) = false := beq_eq_false_iff_ne.mpr (Ne.symm same)
      simp only [overwrite, List.map_cons, same, ↓reduceIte, List.lookup_cons, differ]
      exact ih later

theorem overwrite_lookup_other (k j : K) (v : V) (entries : List (K × V)) (different : j ≠ k) :
    (overwrite k v entries).lookup j = entries.lookup j := by
  induction entries with
  | nil => rfl
  | cons e rest ih =>
    obtain ⟨a, b⟩ := e
    by_cases same : a = k
    · have differ : (j == a) = false := beq_eq_false_iff_ne.mpr (same ▸ different)
      simp only [overwrite, List.map_cons, same, ↓reduceIte, List.lookup_cons] at differ ⊢
      simp only [differ]
      exact ih
    · simp only [overwrite, List.map_cons, same, ↓reduceIte, List.lookup_cons]
      rw [← ih]
      rfl

/-- `m[k] = v`. -/
def set (d : PyDict K V) (k : K) (v : V) : PyDict K V :=
  if present : k ∈ d.keys then
    ⟨overwrite k v d.entries, by rw [overwrite_keys]; exact d.distinct⟩
  else
    ⟨d.entries ++ [(k, v)], by
      simp only [List.map_append, List.map_cons, List.map_nil]
      rw [← List.concat_eq_append]
      exact d.distinct.concat present⟩

@[simp] theorem get_set_same (d : PyDict K V) (k : K) (v : V) : (d.set k v).get k = some v := by
  unfold set
  split
  · rename_i present
    exact overwrite_lookup_same k v d.entries present
  · rename_i absent
    have missing : d.entries.lookup k = none := (get_eq_none_iff d k).mpr absent
    simp [get, List.lookup_append, missing]

theorem get_set_other (d : PyDict K V) {k j : K} (v : V) (different : j ≠ k) :
    (d.set k v).get j = d.get j := by
  unfold set
  split
  · exact overwrite_lookup_other k j v d.entries different
  · have differ : (j == k) = false := by simpa using different
    simp [get, List.lookup_append, List.lookup_cons, differ]

theorem keys_set_present (d : PyDict K V) {k : K} (v : V) (present : k ∈ d.keys) :
    (d.set k v).keys = d.keys := by
  simp only [set, present, ↓reduceDIte]
  exact overwrite_keys k v d.entries

theorem keys_set_absent (d : PyDict K V) {k : K} (v : V) (absent : k ∉ d.keys) :
    (d.set k v).keys = d.keys ++ [k] := by
  simp only [set, absent, ↓reduceDIte]
  simp [keys]

theorem mem_keys_set (d : PyDict K V) (k j : K) (v : V) :
    j ∈ (d.set k v).keys ↔ j ∈ d.keys ∨ j = k := by
  by_cases present : k ∈ d.keys
  · rw [keys_set_present d v present]
    constructor
    · exact Or.inl
    · rintro (old | same)
      · exact old
      · exact same ▸ present
  · rw [keys_set_absent d v present]
    simp

theorem set_get {d : PyDict K V} {k : K} {v : V} (found : d.get k = some v) : d.set k v = d := by
  obtain ⟨entries, distinct⟩ := d
  have present := mem_keys_of_get found
  simp only [set, present, ↓reduceDIte, mk.injEq]
  refine (List.map_congr_left fun e member => ?_).trans (List.map_id entries)
  split
  · rename_i same
    have own := (get_eq_some_iff ⟨entries, distinct⟩ e.1 e.2).mpr member
    rw [same, found] at own
    exact Prod.ext rfl (Option.some.inj own)
  · rfl

/-- `m.pop(k, None)`. -/
def pop (d : PyDict K V) (k : K) : PyDict K V := d.filterKeys fun j => j ≠ k

theorem get_pop (d : PyDict K V) (k j : K) : (d.pop k).get j = if j = k then none else d.get j := by
  obtain ⟨entries, distinct⟩ := d
  simp only [pop, filterKeys, get]
  clear distinct
  induction entries with
  | nil => simp
  | cons e rest ih =>
    obtain ⟨a, v⟩ := e
    by_cases removed : a = k
    · simp only [removed, List.filter_cons, ne_eq, not_true_eq_false, decide_false,
        Bool.false_eq_true, ↓reduceIte, ih, List.lookup_cons]
      split
      · rfl
      · rename_i other
        have differ : (j == k) = false := beq_eq_false_iff_ne.mpr other
        simp [differ]
    · simp only [List.filter_cons, ne_eq, removed, not_false_eq_true, decide_true, ↓reduceIte,
        List.lookup_cons, ih]
      by_cases here : j = a
      · simp [here, removed]
      · have differ : (j == a) = false := beq_eq_false_iff_ne.mpr here
        simp [differ]

/-- `m.move_to_end(k)` for a present key. -/
def moveToEnd (d : PyDict K V) (k : K) : PyDict K V :=
  match d.get k with
  | some v => (d.pop k).set k v
  | none => d

theorem not_mem_keys_pop (d : PyDict K V) (k : K) : k ∉ (d.pop k).keys := by
  rw [← get_eq_none_iff, get_pop, if_pos rfl]

theorem get_pop_set (d : PyDict K V) (k j : K) (v : V) :
    ((d.pop k).set k v).get j = if j = k then some v else d.get j := by
  by_cases same : j = k
  · rw [same, get_set_same, if_pos rfl]
  · rw [get_set_other _ _ same, get_pop, if_neg same, if_neg same]

theorem get_moveToEnd (d : PyDict K V) (k j : K) : (d.moveToEnd k).get j = d.get j := by
  unfold moveToEnd
  split
  · rename_i v found
    rw [get_pop_set]
    split
    · rename_i same
      rw [same, found]
    · rfl
  · rfl

theorem entries_set_absent (d : PyDict K V) {k : K} (v : V) (absent : k ∉ d.keys) :
    (d.set k v).entries = d.entries ++ [(k, v)] := by
  simp only [set, absent, ↓reduceDIte]

theorem entries_perm_pop {d : PyDict K V} {k : K} {v : V} (found : d.get k = some v) :
    d.entries.Perm ((k, v) :: (d.pop k).entries) := by
  have member := (get_eq_some_iff d k v).mp found
  obtain ⟨before, after, split⟩ := List.append_of_mem member
  have distinct := d.distinct
  rw [split, List.map_append, List.map_cons, List.nodup_append, List.nodup_cons] at distinct
  have kept : (d.pop k).entries = before ++ after := by
    simp only [pop, filterKeys, split, List.filter_append, List.filter_cons, ne_eq,
      not_true_eq_false, decide_false, Bool.false_eq_true, ↓reduceIte]
    congr 1
    · refine List.filter_eq_self.mpr ?_
      intro e inBefore
      have differ : e.1 ≠ k := distinct.2.2 e.1 (List.mem_map_of_mem inBefore) k
        List.mem_cons_self
      simpa using differ
    · refine List.filter_eq_self.mpr ?_
      intro e inAfter
      have differ : e.1 ≠ k := by
        intro same
        exact distinct.2.1.1 (List.mem_map.mpr ⟨e, inAfter, same⟩)
      simpa using differ
  rw [kept, split]
  exact List.perm_middle

theorem pop_absent {d : PyDict K V} {k : K} (absent : d.get k = none) :
    (d.pop k).entries = d.entries := by
  refine List.filter_eq_self.mpr ?_
  intro e member
  have differ : e.1 ≠ k := by
    intro same
    exact (get_eq_none_iff d k).mp absent (List.mem_map.mpr ⟨e, member, same⟩)
  simpa using differ

theorem entries_pop_set (d : PyDict K V) (k : K) (v : V) :
    ((d.pop k).set k v).entries = (d.pop k).entries ++ [(k, v)] :=
  entries_set_absent _ v (not_mem_keys_pop d k)

theorem entries_set_pop (d : PyDict K V) (k : K) (v : V) :
    ((d.set k v).pop k).entries = (d.pop k).entries := by
  have dropped : ∀ entries : List (K × V), (overwrite k v entries).filter (fun e => e.1 ≠ k) =
      entries.filter fun e => e.1 ≠ k := by
    intro entries
    induction entries with
    | nil => rfl
    | cons e rest ih =>
      rw [overwrite, List.map_cons, ← overwrite]
      by_cases same : e.1 = k
      · simpa [same] using ih
      · simpa [same] using ih
  by_cases present : k ∈ d.keys
  · simp only [set, present, ↓reduceDIte]
    exact dropped d.entries
  · simp only [pop, filterKeys, entries_set_absent d v present, List.filter_append]
    simp

theorem entries_perm_set (d : PyDict K V) (k : K) (v : V) :
    (d.set k v).entries.Perm ((k, v) :: (d.pop k).entries) := by
  have split := entries_perm_pop (get_set_same d k v)
  rwa [entries_set_pop] at split

theorem entries_perm_moveToEnd (d : PyDict K V) (k : K) :
    (d.moveToEnd k).entries.Perm d.entries := by
  unfold moveToEnd
  split
  · rename_i v found
    rw [entries_pop_set]
    exact (List.perm_append_singleton _ _).trans (entries_perm_pop found).symm
  · exact List.Perm.refl _

theorem get_dropOldest {d : PyDict K V} {n : Nat} {k : K} {v : V}
    (found : (d.dropOldest n).get k = some v) : d.get k = some v := by
  rw [get_eq_some_iff] at found ⊢
  exact List.mem_of_mem_drop found

/-- `m[k] = combine(m.get(k), v)` for the entries of another dictionary, in their order. -/
def accumulate {W : Type*} (combine : Option V → W → V) (d : PyDict K V)
    (entries : List (K × W)) : PyDict K V :=
  entries.foldl (fun d e => d.set e.1 (combine (d.get e.1) e.2)) d

theorem get_accumulate_entries {W : Type*} (combine : Option V → W → V) (k : K)
    (entries : List (K × W)) : ∀ d : PyDict K V, (entries.map Prod.fst).Nodup →
    (d.accumulate combine entries).get k =
      (entries.lookup k).elim (d.get k) fun w => some (combine (d.get k) w) := by
  induction entries with
  | nil =>
    intro d _
    rfl
  | cons e rest ih =>
    intro d nodup
    obtain ⟨a, w⟩ := e
    rw [List.map_cons, List.nodup_cons] at nodup
    have later := ih (d.set a (combine (d.get a) w)) nodup.2
    unfold accumulate at later ⊢
    rw [List.foldl_cons, later]
    by_cases here : k = a
    · subst here
      have once : rest.lookup k = none := by
        simp only [List.lookup_eq_none_iff]
        intro e member
        have differ : k ≠ e.1 := by
          intro same
          exact nodup.1 (List.mem_map.mpr ⟨e, member, same.symm⟩)
        simpa using differ
      simp [once]
    · have differ : (k == a) = false := beq_eq_false_iff_ne.mpr here
      simp [List.lookup_cons, differ, get_set_other _ _ here]

theorem get_accumulate {W : Type*} (combine : Option V → W → V) (d : PyDict K V)
    (source : PyDict K W) (k : K) : (d.accumulate combine source.entries).get k =
      (source.get k).elim (d.get k) fun w => some (combine (d.get k) w) :=
  get_accumulate_entries combine k source.entries d source.distinct

/-- `m[k] = m.get(k, 0) + 1` for each of a list of keys. -/
def tally (ks : List K) : PyDict K Nat :=
  ks.foldl (fun d k => d.set k ((d.get k).getD 0 + 1)) empty

theorem tally_append (ks : List K) (k : K) :
    tally (ks ++ [k]) = (tally ks).set k (((tally ks).get k).getD 0 + 1) :=
  List.foldl_append

theorem get_tally (ks : List K) (k : K) : ((tally ks).get k).getD 0 = ks.count k := by
  induction ks using List.reverseRecOn with
  | nil => rfl
  | append_singleton ks j ih =>
    rw [tally_append, List.count_append]
    by_cases same : k = j
    · rw [same, get_set_same, ← same, ih]
      simp
    · rw [get_set_other _ _ same, ih]
      simp [Ne.symm same]

theorem mem_keys_tally (ks : List K) (k : K) : k ∈ (tally ks).keys ↔ k ∈ ks := by
  induction ks using List.reverseRecOn with
  | nil => simp [tally, empty, keys]
  | append_singleton ks j ih =>
    rw [tally_append, mem_keys_set, ih]
    simp

/-- `m.setdefault(k, v)` for each of a list of entries. -/
def firstWins (entries : List (K × V)) : PyDict K V :=
  entries.foldl (fun d e => if e.1 ∈ d.keys then d else d.set e.1 e.2) empty

theorem get_firstWins (entries : List (K × V)) (k : K) :
    (firstWins entries).get k = entries.lookup k := by
  induction entries using List.reverseRecOn with
  | nil => rfl
  | append_singleton entries e ih =>
    obtain ⟨a, v⟩ := e
    have last : firstWins (entries ++ [(a, v)]) =
        if a ∈ (firstWins entries).keys then firstWins entries
        else (firstWins entries).set a v := List.foldl_append
    rw [last, List.lookup_append, ← ih]
    split
    · rename_i present
      cases found : (firstWins entries).get k with
      | some w => rfl
      | none =>
        have differ : k ≠ a := by
          intro same
          exact (get_eq_none_iff _ k).mp found (same ▸ present)
        have apart : (k == a) = false := beq_eq_false_iff_ne.mpr differ
        simp [List.lookup_cons, apart]
    · rename_i absent
      by_cases same : k = a
      · rw [same, get_set_same, (get_eq_none_iff _ a).mpr absent]
        simp
      · have apart : (k == a) = false := beq_eq_false_iff_ne.mpr same
        rw [get_set_other _ _ same]
        simp [List.lookup_cons, apart]

end PyDict
