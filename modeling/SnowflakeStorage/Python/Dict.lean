import SnowflakeStorage.Python.Basic

/-!
# Dictionaries

The clients keep headers, metadata and credentials in `dict`s with `str` keys, and read
response headers through the case-insensitive dictionary of `requests`.

A `PyDict` is an association list in insertion order whose keys are pairwise distinct;
the distinctness is a field, so every dictionary built by the operations below is a real
Python dictionary.  `d[k] = v` replaces the value in place when `k` is present and appends
otherwise, which is what fixes the iteration order of `d.items()` and `d.keys()`.
`d.update(e)` is the sequence of assignments `d[k] = v` for `e`'s items in order, and a
literal or a comprehension `{k: v for ...}` is that sequence from the empty dictionary.
-/

namespace SnowflakeStorage

open scoped List
open PyStr

/-- A Python `dict` with `str` keys, in insertion order. -/
structure PyDict (α : Type) where
  entries : List (PyStr × α)
  nodup : (entries.map Prod.fst).Nodup

namespace PyDict

variable {α : Type}

/-- `{}`. -/
def empty : PyDict α := ⟨[], List.nodup_nil⟩

/-- `d.keys()`, in insertion order. -/
def keys (d : PyDict α) : List PyStr := d.entries.map Prod.fst

/-- `d.get(k)`. -/
def get? (d : PyDict α) (k : PyStr) : Option α := d.entries.lookup k

/-- `d[k]`, which raises `KeyError` for a missing key. -/
def getItem (d : PyDict α) (k : PyStr) : Except PyError α :=
  match d.get? k with
  | some v => .ok v
  | none => .error (.keyError k)

/-- The entries after `d[k] = v`. -/
def setEntry (k : PyStr) (v : α) : List (PyStr × α) → List (PyStr × α)
  | [] => [(k, v)]
  | (k', v') :: rest => if k' = k then (k, v) :: rest else (k', v') :: setEntry k v rest

theorem keys_setEntry (k : PyStr) (v : α) (l : List (PyStr × α)) :
    (setEntry k v l).map Prod.fst =
      if k ∈ l.map Prod.fst then l.map Prod.fst else l.map Prod.fst ++ [k] := by
  induction l with
  | nil => rfl
  | cons e rest ih =>
      obtain ⟨k', v'⟩ := e
      by_cases he : k' = k
      · subst he
        simp only [setEntry, if_pos, List.map_cons, List.mem_cons, true_or]
      · have hk : k ∈ k' :: rest.map Prod.fst ↔ k ∈ rest.map Prod.fst := by
          rw [List.mem_cons, or_iff_right (Ne.symm he)]
        simp only [setEntry, if_neg he, List.map_cons, ih, hk]
        split_ifs <;> rfl

theorem nodup_setEntry (k : PyStr) (v : α) {l : List (PyStr × α)}
    (h : (l.map Prod.fst).Nodup) : ((setEntry k v l).map Prod.fst).Nodup := by
  rw [keys_setEntry]
  split_ifs with hk
  · exact h
  · exact h.append (List.nodup_singleton k) (List.disjoint_singleton.mpr hk)

/-- `d[k] = v`. -/
def insert (d : PyDict α) (k : PyStr) (v : α) : PyDict α :=
  ⟨setEntry k v d.entries, nodup_setEntry k v d.nodup⟩

/-- `d.update(e)`. -/
def update (d e : PyDict α) : PyDict α := e.entries.foldl (fun d kv => d.insert kv.1 kv.2) d

/-- A literal or comprehension: the assignments of `l`, in order, from `{}`. -/
def ofList (l : List (PyStr × α)) : PyDict α := l.foldl (fun d kv => d.insert kv.1 kv.2) empty

theorem lookup_cons_of_ne {k k' : PyStr} (v : α) (l : List (PyStr × α)) (h : k' ≠ k) :
    ((k, v) :: l).lookup k' = l.lookup k' := by
  simp [List.lookup_cons, beq_eq_false_iff_ne.mpr h]

theorem lookup_setEntry (k k' : PyStr) (v : α) (l : List (PyStr × α)) :
    (setEntry k v l).lookup k' = if k' = k then some v else l.lookup k' := by
  induction l with
  | nil =>
      by_cases h : k' = k
      · subst h; simp [setEntry]
      · simp [setEntry, lookup_cons_of_ne _ _ h, h]
  | cons e rest ih =>
      obtain ⟨k₁, v₁⟩ := e
      by_cases h₁ : k₁ = k
      · subst h₁
        by_cases h : k' = k₁
        · subst h; simp [setEntry]
        · simp [setEntry, lookup_cons_of_ne _ _ h, h]
      · by_cases h : k' = k₁
        · subst h; simp [setEntry, h₁]
        · simp [setEntry, h₁, lookup_cons_of_ne _ _ h, ih]

theorem setEntry_of_not_mem {k : PyStr} (v : α) {l : List (PyStr × α)}
    (h : k ∉ l.map Prod.fst) : setEntry k v l = l ++ [(k, v)] := by
  induction l with
  | nil => rfl
  | cons e rest ih =>
      have he : e.1 ≠ k := fun he => h (he ▸ List.mem_cons_self _ _)
      simp only [setEntry, if_neg he, List.cons_append,
        ih (fun hk => h (List.mem_cons_of_mem _ hk))]

theorem lookup_of_mem {l : List (PyStr × α)} (hl : (l.map Prod.fst).Nodup) {e : PyStr × α}
    (he : e ∈ l) : l.lookup e.1 = some e.2 := by
  induction l with
  | nil => simp at he
  | cons x xs ih =>
      rw [List.map_cons, List.nodup_cons] at hl
      rcases List.mem_cons.mp he with rfl | he
      · exact List.lookup_cons_self
      · have hne : e.1 ≠ x.1 := fun h => hl.1 (h ▸ List.mem_map_of_mem Prod.fst he)
        rw [show x = (x.1, x.2) from rfl, lookup_cons_of_ne _ _ hne, ih hl.2 he]

/-- Every entry is what `get` returns for its key. -/
theorem get?_of_mem {d : PyDict α} {e : PyStr × α} (he : e ∈ d.entries) : d.get? e.1 = some e.2 :=
  lookup_of_mem d.nodup he

@[simp] theorem get?_insert (d : PyDict α) (k k' : PyStr) (v : α) :
    (d.insert k v).get? k' = if k' = k then some v else d.get? k' :=
  lookup_setEntry k k' v d.entries

@[simp] theorem keys_insert (d : PyDict α) (k : PyStr) (v : α) :
    (d.insert k v).keys = if k ∈ d.keys then d.keys else d.keys ++ [k] :=
  keys_setEntry k v d.entries

@[simp] theorem keys_empty : (empty : PyDict α).keys = [] := rfl

theorem mem_keys_iff_get?_isSome (d : PyDict α) (k : PyStr) :
    k ∈ d.keys ↔ (d.get? k).isSome := by
  simp only [keys, get?, List.lookup_isSome_iff, List.mem_map, beq_iff_eq]
  exact ⟨fun ⟨p, hp, h⟩ => ⟨p, hp, h.symm⟩, fun ⟨p, hp, h⟩ => ⟨p, hp, h.symm⟩⟩

theorem getItem_eq_ok {d : PyDict α} {k : PyStr} {v : α} :
    d.getItem k = .ok v ↔ d.get? k = some v := by
  unfold getItem; split <;> simp_all

/-- `sorted(d.keys())` lists the keys of the entries sorted by key. -/
theorem sortOn_keys (d : PyDict α) : sortOn id d.keys = (sortOn Prod.fst d.entries).map Prod.fst := by
  have hn : ((sortOn Prod.fst d.entries).map Prod.fst).Nodup :=
    ((sortOn_perm Prod.fst d.entries).map Prod.fst).nodup_iff.mpr d.nodup
  apply sortOn_eq_of_sorted ((sortOn_perm Prod.fst d.entries).map Prod.fst)
  exact List.pairwise_map.mpr (sorted_lt_of_sorted_le (sorted_sortOn Prod.fst d.entries) hn)

theorem getItem_congr {d d' : PyDict α} (h : d.entries = d'.entries) (k : PyStr) :
    d.getItem k = d'.getItem k := by
  simp [getItem, get?, h]

/-- A list whose keys are distinct is already the dictionary it builds. -/
theorem entries_ofList {l : List (PyStr × α)} (h : (l.map Prod.fst).Nodup) :
    (ofList l).entries = l := by
  suffices ∀ (d : PyDict α) (l : List (PyStr × α)),
      (d.keys ++ l.map Prod.fst).Nodup →
        (l.foldl (fun d kv => d.insert kv.1 kv.2) d).entries = d.entries ++ l by
    simpa using this empty l (by simpa using h)
  intro d l
  induction l generalizing d with
  | nil => simp
  | cons e rest ih =>
      intro hn
      have he : e.1 ∉ d.keys := fun hk =>
        (List.nodup_append.mp hn).2.2 hk (List.mem_cons_self _ _)
      have hins : (d.insert e.1 e.2).entries = d.entries ++ [e] := setEntry_of_not_mem _ he
      rw [List.foldl_cons, ih, hins, List.append_assoc, List.singleton_append]
      simpa [keys, hins, List.append_assoc] using hn

@[simp] theorem keys_ofList_singleton (k : PyStr) (v : α) : (ofList [(k, v)]).keys = [k] := rfl

@[simp] theorem get?_ofList_singleton (k : PyStr) (v : α) : (ofList [(k, v)]).get? k = some v := by
  simp [ofList, get?_insert]

theorem lookup_eq_none {k : PyStr} {l : List (PyStr × α)} (h : k ∉ l.map Prod.fst) :
    l.lookup k = none := by
  induction l with
  | nil => rfl
  | cons e rest ih =>
      have he : k ≠ e.1 := fun he => h (he ▸ List.mem_cons_self _ _)
      rw [show e = (e.1, e.2) from rfl, lookup_cons_of_ne _ _ he,
        ih fun hk => h (List.mem_cons_of_mem _ hk)]

private theorem get?_foldl_insert (k : PyStr) :
    ∀ (l : List (PyStr × α)) (d : PyDict α), (l.map Prod.fst).Nodup →
      (l.foldl (fun d kv => d.insert kv.1 kv.2) d).get? k = (l.lookup k).or (d.get? k)
  | [], _, _ => rfl
  | (k', v) :: l, d, hn => by
      rw [List.map_cons, List.nodup_cons] at hn
      rw [List.foldl_cons, get?_foldl_insert k l _ hn.2, get?_insert]
      by_cases h : k = k'
      · subst h
        simp [lookup_eq_none hn.1]
      · simp [lookup_cons_of_ne _ _ h, h]

/-- After `d.update(e)`, a key reads `e`'s value when `e` has it and `d`'s otherwise. -/
theorem get?_update (d e : PyDict α) (k : PyStr) : (d.update e).get? k = (e.get? k).or (d.get? k) :=
  get?_foldl_insert k e.entries d e.nodup

theorem mem_keys_update {d e : PyDict α} {k : PyStr} :
    k ∈ (d.update e).keys ↔ k ∈ e.keys ∨ k ∈ d.keys := by
  simp only [mem_keys_iff_get?_isSome, get?_update]
  cases e.get? k <;> simp

end PyDict

/-- The case-insensitive dictionary in which `requests` keeps a response's headers: one
entry per lower-cased name. -/
structure CaseInsensitiveDict where
  entries : List (PyStr × PyStr)
  nodup : (entries.map fun e => PyStr.lower e.1).Nodup

namespace CaseInsensitiveDict

/-- `headers.get(k)`, comparing lower-cased names. -/
def get? (d : CaseInsensitiveDict) (k : PyStr) : Option PyStr :=
  (d.entries.find? fun e => PyStr.lower e.1 == PyStr.lower k).map Prod.snd

/-- `headers[k]`, that is `self._store[k.lower()][1]`: a missing name raises `KeyError`
with the lower-cased name. -/
def getItem (d : CaseInsensitiveDict) (k : PyStr) : Except PyError PyStr :=
  match d.get? k with
  | some v => .ok v
  | none => .error (.keyError (PyStr.lower k))

/-- No headers. -/
def empty : CaseInsensitiveDict := ⟨[], List.nodup_nil⟩

theorem getItem_eq_ok {d : CaseInsensitiveDict} {k v : PyStr} :
    d.getItem k = .ok v ↔ d.get? k = some v := by
  unfold getItem; split <;> simp_all

end CaseInsensitiveDict

end SnowflakeStorage
