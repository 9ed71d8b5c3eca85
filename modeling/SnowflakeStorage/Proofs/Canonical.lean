import SnowflakeStorage.Reference.SigV4

/-!
# The canonical forms of the signer

The two canonicalisations of `S3/Signer.lean`, against the descriptions of the
specification.

## Headers

`_construct_canonicalized_and_signed_headers` builds `low_key_dict` from the lower-cased
names, sorts the names *as given*, and looks each sorted name up in `low_key_dict`.  For a
name with an upper-case letter the lookup misses and raises `KeyError`, so the header set
of the specification's own example, `{X-Amz-Date: d, host: h, X-Amz-Content-Sha256: s}`,
is refused (`constructCanonicalizedAndSignedHeaders_specExample`).

For lower-case names without whitespace, which is what every call of the client passes, the
builder does what the specification says: one line `name:value` per header, sorted by
name, each line terminated, the value trimmed with its runs of spaces collapsed, and the
names joined by `;` (`constructCanonicalizedAndSignedHeaders_of_lower`).  The result
depends on the entries only, not on their order (`constructCanonicalizedAndSignedHeaders_perm`).

## Query

`canonicalQueryString` splits at `&`, splits each component at its first `=`, sorts by key
alone and joins back.  The components of the empty query are none, as `urllib`'s
`parse_qsl` reads it and as the code's `if url_query` guard treats it.  With pairwise
distinct keys the result is the components written `key=value`, in ascending key order,
and so the same for every reordering of the components (`canonicalQueryString_spec`).
-/

namespace SnowflakeStorage.S3

open PyStr
open scoped List

/-! ## Headers -/

/-- The header block of the specification: one terminated `name:value` line per entry. -/
def canonicalBlock (entries : List (PyStr × HeaderValue)) : PyStr :=
  (entries.map fun e => (e.1 ++ ':' :: SigV4.trimall e.2) ++ "\n".toList).flatten

/-- A header name as HTTP writes it: no whitespace and no line break. -/
def IsHeaderName (k : PyStr) : Prop := ∀ c ∈ k, isSpace c = false

instance (k : PyStr) : Decidable (IsHeaderName k) :=
  inferInstanceAs (Decidable (∀ c ∈ k, isSpace c = false))

theorem canonicalLine_of_isHeaderName {k : PyStr} (hk : IsHeaderName k) {v : HeaderValue}
    (hv : v ≠ .none) : canonicalLine k v = .ok (k ++ ':' :: SigV4.trimall v) := by
  have hnl : '\n' ∉ k := fun h => absurd (hk _ h) (by decide)
  cases v with
  | str v => simp [canonicalLine, SigV4.trimall, replace_of_not_mem hnl, strip_of_forall hk]
  | list v => simp [canonicalLine, SigV4.trimall, replace_of_not_mem hnl, strip_of_forall hk]
  | none => exact absurd rfl hv

/-- The comprehension `[(k, d[k]) for k in keys]` over keys of entries of `d`. -/
private theorem mapM_getItem {α : Type} (d : PyDict α) :
    ∀ L : List (PyStr × α), (∀ e ∈ L, e ∈ d.entries) →
      (L.map Prod.fst).mapM (fun k => (d.getItem k).map fun v => (k, v)) = .ok L
  | [], _ => rfl
  | e :: L, h => by
      have he : d.getItem e.1 = .ok e.2 :=
        PyDict.getItem_eq_ok.mpr (PyDict.get?_of_mem (h e (List.mem_cons_self _ _)))
      simp only [List.map_cons, List.mapM_cons, he,
        mapM_getItem d L fun e' he' => h e' (List.mem_cons_of_mem _ he')]
      rfl

/-- For lower-case names, `low_key_dict` holds the headers themselves, so the lookups
succeed and the loop runs over the entries sorted by name. -/
theorem constructCanonicalizedAndSignedHeaders_of_lower_keys (headers : PyDict HeaderValue)
    (hlow : ∀ k ∈ headers.keys, lower k = k) :
    constructCanonicalizedAndSignedHeaders headers =
      (do
        let lines ← (sortOn Prod.fst headers.entries).mapM fun e => canonicalLine e.1 e.2
        let ans := "\n".toList.intercalate lines
        return (if ans.isEmpty then ans else ans ++ "\n".toList,
          ";".toList.intercalate ((sortOn Prod.fst headers.entries).map Prod.fst))) := by
  have hlowDict : (PyDict.ofList (headers.entries.map fun e => (lower e.1, e.2))).entries =
      headers.entries := by
    have : headers.entries.map (fun e => (lower e.1, e.2)) = headers.entries := by
      conv_rhs => rw [← List.map_id headers.entries]
      exact List.map_congr_left fun e he => by rw [hlow _ (List.mem_map_of_mem _ he)]; rfl
    rw [this, PyDict.entries_ofList headers.nodup]
  have hres : ((sortOn Prod.fst headers.entries).map Prod.fst).mapM (fun k =>
      ((PyDict.ofList (headers.entries.map fun e => (lower e.1, e.2))).getItem k).map
        fun v => (k, v)) = .ok (sortOn Prod.fst headers.entries) := by
    simp only [PyDict.getItem_congr hlowDict]
    exact mapM_getItem headers _ fun e he => (sortOn_perm _ _).subset he
  simp only [constructCanonicalizedAndSignedHeaders, PyDict.sortOn_keys, hres, except_ok_bind]

/-- For lower-case header names without whitespace and values that are not `None`, the
block is the sorted, terminated `name:value` lines and the signed list the sorted names. -/
theorem constructCanonicalizedAndSignedHeaders_of_lower (headers : PyDict HeaderValue)
    (hlow : ∀ k ∈ headers.keys, lower k = k) (hname : ∀ k ∈ headers.keys, IsHeaderName k)
    (hval : ∀ e ∈ headers.entries, e.2 ≠ .none) :
    constructCanonicalizedAndSignedHeaders headers =
      .ok (canonicalBlock (sortOn Prod.fst headers.entries),
        ";".toList.intercalate ((sortOn Prod.fst headers.entries).map Prod.fst)) := by
  set sorted := sortOn Prod.fst headers.entries
  have hmem : ∀ e ∈ sorted, e ∈ headers.entries := fun e he => (sortOn_perm _ _).subset he
  have hlines : sorted.mapM (fun e => canonicalLine e.1 e.2) =
      .ok (sorted.map fun e => e.1 ++ ':' :: SigV4.trimall e.2) :=
    mapM_eq_ok fun e he => canonicalLine_of_isHeaderName
      (hname _ (List.mem_map_of_mem _ (hmem e he))) (hval e (hmem e he))
  have hblock := terminated_intercalate "\n".toList
    (sorted.map fun e => e.1 ++ ':' :: SigV4.trimall e.2) fun x hx => by
      obtain ⟨e, -, rfl⟩ := List.mem_map.mp hx
      simp
  simp only [List.map_map] at hblock
  rw [constructCanonicalizedAndSignedHeaders_of_lower_keys headers hlow]
  simp only [hlines, except_ok_bind, hblock]
  rfl

/-- A block that is built has no `None` value: the loop calls `strip` on every value. -/
theorem ne_none_of_constructCanonicalizedAndSignedHeaders_ok (headers : PyDict HeaderValue)
    (hlow : ∀ k ∈ headers.keys, lower k = k) {r : PyStr × PyStr}
    (h : constructCanonicalizedAndSignedHeaders headers = .ok r) :
    ∀ e ∈ headers.entries, e.2 ≠ .none := by
  rw [constructCanonicalizedAndSignedHeaders_of_lower_keys headers hlow] at h
  cases hl : (sortOn Prod.fst headers.entries).mapM fun e => canonicalLine e.1 e.2 with
  | error e => rw [hl] at h; cases h
  | ok lines =>
      intro e he hnone
      obtain ⟨b, hb⟩ := mapM_ok_forall hl e ((sortOn_perm _ _).symm.subset he)
      rw [hnone] at hb
      cases hb

/-- For such headers the result does not depend on the order of the entries. -/
theorem constructCanonicalizedAndSignedHeaders_perm {h₁ h₂ : PyDict HeaderValue}
    (hp : h₁.entries ~ h₂.entries) (hlow : ∀ k ∈ h₁.keys, lower k = k)
    (hname : ∀ k ∈ h₁.keys, IsHeaderName k) (hval : ∀ e ∈ h₁.entries, e.2 ≠ .none) :
    constructCanonicalizedAndSignedHeaders h₁ = constructCanonicalizedAndSignedHeaders h₂ := by
  have hk : h₂.keys ~ h₁.keys := (hp.map Prod.fst).symm
  rw [constructCanonicalizedAndSignedHeaders_of_lower h₁ hlow hname hval,
    constructCanonicalizedAndSignedHeaders_of_lower h₂ (fun k h => hlow k (hk.subset h))
      (fun k h => hname k (hk.subset h)) (fun e h => hval e (hp.symm.subset h)),
    sortOn_congr hp h₁.nodup]

/-- The stamp headers `x-amz-date` and `host`, in this order. -/
def dateHostHeaders : PyDict HeaderValue :=
  ⟨[("x-amz-date".toList, .str "d".toList), ("host".toList, .str "h".toList)], by decide⟩

/-- The same headers in the other order. -/
def hostDateHeaders : PyDict HeaderValue :=
  ⟨[("host".toList, .str "h".toList), ("x-amz-date".toList, .str "d".toList)], by decide⟩

/-- The two orders of the stamp headers give one block. -/
theorem constructCanonicalizedAndSignedHeaders_perm_stamps :
    dateHostHeaders.entries ~ hostDateHeaders.entries ∧
      (∀ k ∈ dateHostHeaders.keys, lower k = k) ∧ (∀ k ∈ dateHostHeaders.keys, IsHeaderName k) ∧
      (∀ e ∈ dateHostHeaders.entries, e.2 ≠ .none) ∧
      constructCanonicalizedAndSignedHeaders dateHostHeaders =
        constructCanonicalizedAndSignedHeaders hostDateHeaders :=
  have hp : dateHostHeaders.entries ~ hostDateHeaders.entries := .swap _ _ _
  have hlow : ∀ k ∈ dateHostHeaders.keys, lower k = k := by decide
  have hname : ∀ k ∈ dateHostHeaders.keys, IsHeaderName k := by decide
  have hval : ∀ e ∈ dateHostHeaders.entries, e.2 ≠ .none := by decide
  ⟨hp, hlow, hname, hval, constructCanonicalizedAndSignedHeaders_perm hp hlow hname hval⟩

/-- The header set of the specification's example of canonical ordering. -/
def specExampleHeaders : PyDict HeaderValue :=
  ⟨[("X-Amz-Date".toList, .str "d".toList), ("host".toList, .str "h".toList),
    ("X-Amz-Content-Sha256".toList, .str "s".toList)], by decide⟩

/-- The builder refuses the specification's own example: the first sorted name,
`X-Amz-Content-Sha256`, is looked up in the dictionary of lower-cased names and missed. -/
theorem constructCanonicalizedAndSignedHeaders_specExample :
    constructCanonicalizedAndSignedHeaders specExampleHeaders =
      .error (.keyError "X-Amz-Content-Sha256".toList) := rfl

/-! ## Query -/

/-- The `&`-separated components of a query string; the empty query has none. -/
def queryComponents (q : PyStr) : List PyStr := if q.isEmpty then [] else q.splitOn '&'

/-- The key of a component: the text before its first `=`. -/
def queryKey (e : PyStr) : PyStr := e.takeWhile (· != '=')

/-- A component written `key=value`: as it is when it has an `=`, with one added when not. -/
def writtenComponent (e : PyStr) : PyStr := if '=' ∈ e then e else e ++ ['=']

theorem not_mem_of_mem_queryComponents {q c : PyStr} (hc : c ∈ queryComponents q) : '&' ∉ c := by
  unfold queryComponents at hc
  split at hc
  · simp at hc
  · exact not_mem_of_mem_splitOn hc

theorem queryComponents_ne_singleton_nil (q : PyStr) : queryComponents q ≠ [[]] := by
  unfold queryComponents
  split
  · simp
  · intro h
    have := List.intercalate_splitOn q '&'
    rw [h] at this
    simp_all [List.intercalate]

/-- Joining components back with `&` and splitting again gives them back. -/
theorem queryComponents_intercalate {cs : List PyStr} (hcs : ∀ c ∈ cs, '&' ∉ c)
    (hne : cs ≠ [[]]) : queryComponents ("&".toList.intercalate cs) = cs := by
  cases cs with
  | nil => rfl
  | cons c rest =>
      have hq : ("&".toList.intercalate (c :: rest)).isEmpty = false := by
        cases rest with
        | nil => cases c <;> simp_all [List.intercalate]
        | cons d ds => simp [intercalate_cons_cons]
      simp only [queryComponents, hq]
      exact List.splitOn_intercalate _ '&' hcs (List.cons_ne_nil _ _)

/-- The code's canonical query string: the components written `key=value`, sorted by
key. -/
theorem canonicalQueryString_eq (q : PyStr) (hq : ((queryComponents q).map queryKey).Nodup) :
    canonicalQueryString q =
      "&".toList.intercalate ((sortOn queryKey (queryComponents q)).map writtenComponent) := by
  set pair : PyStr → PyStr × PyStr := fun e => ((partition '=' e).1, (partition '=' e).2.2)
  have hkey : ∀ e, (pair e).1 = queryKey e := fun e => partition_fst '=' e
  have hwrite : ∀ e, (pair e).1 ++ '=' :: (pair e).2 = writtenComponent e :=
    fun e => partition_join '=' e
  have hsort : ∀ cs : List PyStr, (cs.map queryKey).Nodup →
      sortOn Prod.fst (cs.map pair) = (sortOn queryKey cs).map pair := fun cs hn => by
    apply sortOn_eq_of_sorted ((sortOn_perm queryKey cs).map pair)
    have hn' : ((sortOn queryKey cs).map queryKey).Nodup :=
      ((sortOn_perm queryKey cs).map queryKey).nodup_iff.mpr hn
    rw [List.Sorted, List.pairwise_map]
    exact (sorted_lt_of_sorted_le (sorted_sortOn queryKey cs) hn').imp fun h => by
      simpa only [partition_fst, queryKey] using h
  unfold canonicalQueryString
  cases h : q.isEmpty
  · have hq' : ((q.splitOn '&').map queryKey).Nodup := by simpa [queryComponents, h] using hq
    simp only [queryComponents, h, Bool.false_eq_true, if_false, hsort _ hq', List.map_map,
      Function.comp_def, hwrite]
  · simp [queryComponents, h]

theorem canonicalQueryString_spec (q : PyStr) (hq : ((queryComponents q).map queryKey).Nodup) :
    (∃ l, l ~ queryComponents q ∧ l.Sorted (fun a b => queryKey a < queryKey b) ∧
      canonicalQueryString q = "&".toList.intercalate (l.map writtenComponent)) ∧
    ∀ cs, cs ~ queryComponents q →
      canonicalQueryString ("&".toList.intercalate cs) = canonicalQueryString q := by
  have hn : ((sortOn queryKey (queryComponents q)).map queryKey).Nodup :=
    ((sortOn_perm _ _).map queryKey).nodup_iff.mpr hq
  refine ⟨⟨_, sortOn_perm _ _, sorted_lt_of_sorted_le (sorted_sortOn _ _) hn,
    canonicalQueryString_eq q hq⟩, fun cs hp => ?_⟩
  have hcs : queryComponents ("&".toList.intercalate cs) = cs := by
    refine queryComponents_intercalate (fun c hc => not_mem_of_mem_queryComponents
      (hp.subset hc)) fun h => queryComponents_ne_singleton_nil q ?_
    rw [h] at hp
    exact List.perm_singleton.mp hp.symm
  have hncs : (cs.map queryKey).Nodup := (hp.map queryKey).nodup_iff.mpr hq
  rw [canonicalQueryString_eq q hq, canonicalQueryString_eq _ (by rw [hcs]; exact hncs), hcs,
    sortOn_congr hp hncs]

/-- The query of a part upload, read with a permuted copy of itself. -/
theorem canonicalQueryString_spec_partUpload :
    ((queryComponents "uploadId=u1&partNumber=2".toList).map queryKey).Nodup ∧
    ((∃ l, l ~ queryComponents "uploadId=u1&partNumber=2".toList ∧
      l.Sorted (fun a b => queryKey a < queryKey b) ∧
      canonicalQueryString "uploadId=u1&partNumber=2".toList =
        "&".toList.intercalate (l.map writtenComponent)) ∧
    ∀ cs, cs ~ queryComponents "uploadId=u1&partNumber=2".toList →
      canonicalQueryString ("&".toList.intercalate cs) =
        canonicalQueryString "uploadId=u1&partNumber=2".toList) :=
  ⟨by decide, canonicalQueryString_spec _ (by decide)⟩

end SnowflakeStorage.S3
