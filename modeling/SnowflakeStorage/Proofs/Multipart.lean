import SnowflakeStorage.S3.Client

/-!
# The multipart upload

After `_initiate_multipart_upload` the client keeps one slot per chunk in `etags`, and each
`_upload_chunk(i, chunk)` writes the `ETag` of a 200 response into slot `i`.  The caller
may call `_upload_chunk` in any order, repeat a chunk, and go on after a call raised, so a
run is any list of calls with the response each request got.

A part upload with a 200 response writes its slot only when the response has an `ETag`
header: without one, `response.headers["ETag"]` raises before the write and the slot keeps
what an earlier response put there.  A response with another status below 400 (a 201, a
204, a 3xx) passes `raise_for_status` and the call returns normally without writing
anything.

The chunk id is a Python `int`, and `self.etags[chunk_id]` counts a negative one from the
last slot: `_upload_chunk(-1, chunk)` fills the last slot while its PUT carries the part
number 0 (`uploadChunk_negative_chunkId`).  The run theorem is about chunk ids `≥ 0`.

Strategy: `uploadChunk_client` says what one call does to the client, `etagsAfter`;
`getElem?_foldl_etagsAfter` follows one slot through a run, `slotAfter`; the run theorem
`multipartRun_spec` assembles them with `initiateMultipartUpload_eq_ok` and the shape of
the completion document, `completeMultipartUploadDocument_children`.
-/

namespace SnowflakeStorage.S3

open PyStr

/-! ## What a part upload does -/

/-- The slots after the response `p.2` to `_upload_chunk(p.1, chunk)`: a 200 response with
an `ETag` header fills the slot `p.1` names (when there is one); anything else changes
nothing. -/
def etagsAfter (es : List (Option PyStr)) (p : Int × Response) : List (Option PyStr) :=
  if p.2.statusCode = 200 then
    match p.2.headers.get? "ETag".toList with
    | some e => setItem es p.1 (some e)
    | none => es
  else es

/-- Slot `i` after that response. -/
def slotAfter (i : Nat) (x : Option PyStr) (p : Int × Response) : Option PyStr :=
  if p.1 = i ∧ p.2.statusCode = 200 then (p.2.headers.get? "ETag".toList).or x else x

/-- The `ETag` of the latest 200 response that carries one among the responses to
`_upload_chunk(i, chunk)` in `run`. -/
def latestEtag (i : Nat) (run : List (Int × Response)) : Option PyStr := run.foldl (slotAfter i) none

theorem length_etagsAfter (es : List (Option PyStr)) (p : Int × Response) :
    (etagsAfter es p).length = es.length := by
  unfold etagsAfter
  split
  · split <;> simp
  · rfl

/-- Slot `i` after a response to a part upload with a chunk id `k ≥ 0`. -/
theorem getElem?_etagsAfter (es : List (Option PyStr)) (k : Nat) (r : Response) (i : Nat) :
    (etagsAfter es (k, r))[i]? = es[i]?.map (slotAfter i · (k, r)) := by
  unfold etagsAfter
  by_cases h200 : r.statusCode = 200
  · cases he : r.headers.get? "ETag".toList with
    | none =>
        have hx : ∀ x, slotAfter i x (k, r) = x := fun x => by
          simp only [slotAfter, he, Option.none_or, ite_self]
        simp [h200, hx]
    | some e =>
        by_cases hi : k = i
        · subst hi
          cases h : es[k]? with
          | none => simp [h200, he, List.getElem?_set, List.getElem?_eq_none_iff.mp h]
          | some x =>
              simp only [slotAfter, h200, he, setItem_natCast, List.getElem?_set,
                (List.getElem?_eq_some_iff.mp h).1, h, if_true, and_self, Option.map_some']
              rfl
        · have hx : ∀ x, slotAfter i x (k, r) = x := fun x => by simp [slotAfter, hi]
          simp [h200, he, List.getElem?_set, hi, hx]
  · have hx : ∀ x, slotAfter i x (k, r) = x := fun x => by simp [slotAfter, h200]
    simp [h200, hx]

theorem length_foldl_etagsAfter (run : List (Int × Response)) (es : List (Option PyStr)) :
    (run.foldl etagsAfter es).length = es.length := by
  induction run generalizing es with
  | nil => rfl
  | cons p run ih => rw [List.foldl_cons, ih, length_etagsAfter]

/-- Slot `i` through a run of chunk ids `≥ 0`. -/
theorem getElem?_foldl_etagsAfter (run : List (Int × Response)) (hrun : ∀ p ∈ run, 0 ≤ p.1)
    (es : List (Option PyStr)) (i : Nat) :
    (run.foldl etagsAfter es)[i]? = es[i]?.map fun x => run.foldl (slotAfter i) x := by
  induction run generalizing es with
  | nil => simp
  | cons p run ih =>
      obtain ⟨k, hk⟩ := Int.eq_ofNat_of_zero_le (hrun p (.head _))
      obtain ⟨_, r⟩ := p
      obtain rfl : _ = (k : Int) := hk
      rw [List.foldl_cons, ih (fun q hq => hrun q (.tail _ hq)), getElem?_etagsAfter, Option.map_map]
      rfl

/-- The slots the initiate call allocates, through a run: one per chunk, slot `i` holding
`latestEtag i run`. -/
theorem etagSlots_spec (n : Nat) (run : List (Int × Response)) (hrun : ∀ p ∈ run, 0 ≤ p.1) :
    (run.foldl etagsAfter (List.replicate n none)).length = n ∧
      ∀ i < n, (run.foldl etagsAfter (List.replicate n none))[i]? = some (latestEtag i run) := by
  refine ⟨by rw [length_foldl_etagsAfter, List.length_replicate], fun i hi => ?_⟩
  rw [getElem?_foldl_etagsAfter run hrun, List.getElem?_replicate, if_pos hi]
  rfl

/-- The completion document has one `Part` per slot, in order: part `k` carries slot `k`
and the part number `k + 1`. -/
theorem completeMultipartUploadDocument_children (es : List (Option PyStr)) :
    (SnowflakeS3RestClient.completeMultipartUploadDocument es).children.length = es.length ∧
      ∀ k (hk : k < es.length), (SnowflakeS3RestClient.completeMultipartUploadDocument es).children[k]? =
        some (.mk "Part".toList none
          [.mk "ETag".toList es[k] [], .mk "PartNumber".toList (some (reprNat (k + 1))) []]) := by
  refine ⟨by simp [SnowflakeS3RestClient.completeMultipartUploadDocument], fun k hk => ?_⟩
  simp [SnowflakeS3RestClient.completeMultipartUploadDocument, List.getElem?_enum,
    List.getElem?_eq_getElem hk]

namespace SnowflakeS3RestClient

variable (c : SnowflakeS3RestClient)

private theorem eq_with_etags {f : List (Option PyStr) → List (Option PyStr)}
    (h : c.etags.map f = c.etags) : c = { c with etags := c.etags.map f } := by
  rw [h]

/-- Whether `setEtag` stores the `ETag` or raises, the slots it leaves are the old ones
after `etags[i] = e`, which changes nothing when `i` names no slot. -/
private theorem setEtag_slots (etags : Option (List (Option PyStr))) (i : Int) (e : PyStr) :
    (match setEtag etags i e with
      | .ok es => some es
      | .error _ => etags) = etags.map (setItem · i (some e)) := by
  cases etags with
  | none => rfl
  | some es =>
    simp only [setEtag, Option.map_some']
    split_ifs with hi
    · rfl
    · simp only [setItem, Option.not_isSome_iff_eq_none.mp hi]

/-- One `_upload_chunk` call of a multipart upload changes the slots by `etagsAfter` and
nothing else, whether it returns or raises. -/
theorem uploadChunk_client (hn : c.numOfChunks ≠ 1) (p : Int × Response) :
    (c.uploadChunk p.1 p.2).client = { c with etags := c.etags.map (etagsAfter · p) } := by
  obtain ⟨i, r⟩ := p
  unfold uploadChunk
  rw [if_neg hn]
  by_cases h200 : r.statusCode = 200
  · rw [if_pos h200]
    cases he : r.headers.get? "ETag".toList with
    | none =>
      have hf : (etagsAfter · (i, r)) = fun es => es := by
        funext es
        simp only [etagsAfter, if_pos h200, he]
      simp only [CaseInsensitiveDict.getItem, he]
      exact c.eq_with_etags (by rw [hf, Option.map_id'])
    | some e =>
      have hslots := setEtag_slots c.etags i e
      have hf : (etagsAfter · (i, r)) = (setItem · i (some e)) := by
        funext es
        simp only [etagsAfter, if_pos h200, he]
      simp only [CaseInsensitiveDict.getItem, he, hf]
      split <;> rename_i heq <;> rw [heq] at hslots
      · exact c.eq_with_etags hslots.symm
      · rw [← hslots]
  · rw [if_neg h200]
    exact c.eq_with_etags (by simp [etagsAfter, h200])

/-- The client after `_upload_chunk` calls in order, each with the response its request
got, whether the call returned or raised. -/
def uploadRun (run : List (Int × Response)) : SnowflakeS3RestClient :=
  run.foldl (fun c p => (c.uploadChunk p.1 p.2).client) c

/-- A run of a multipart upload changes the slots by `etagsAfter`, one call after the other,
and nothing else. -/
theorem uploadRun_eq (hn : c.numOfChunks ≠ 1) (run : List (Int × Response)) :
    c.uploadRun run = { c with etags := c.etags.map (run.foldl etagsAfter) } := by
  induction run generalizing c with
  | nil => simp only [uploadRun, List.foldl_nil, Option.map_id']
  | cons p run ih =>
      rw [uploadRun, List.foldl_cons, ← uploadRun, uploadChunk_client c hn,
        ih { c with etags := c.etags.map (etagsAfter · p) } hn]
      simp only [Option.map_map, Function.comp_def, List.foldl_cons]

/-- An initiate call whose response has status 200 and that returns read a third child of
the response's root, took its text as the upload id and allocated one slot per chunk. -/
theorem initiateMultipartUpload_eq_ok {r : Response} (h200 : r.statusCode = 200)
    (h : (c.initiateMultipartUpload r).result = .ok ()) :
    ∃ root child, r.document = some root ∧ root.getChild 2 = .ok child ∧
      (c.initiateMultipartUpload r).client =
        { c with uploadId := child.text, etags := some (List.replicate c.numOfChunks none) } := by
  unfold initiateMultipartUpload at h ⊢
  rw [if_pos h200] at h ⊢
  cases hd : r.document with
  | none => rw [hd] at h; cases h
  | some root =>
      cases hg : root.getChild 2 with
      | error e => simp only [hd, hg] at h; cases h
      | ok child => exact ⟨root, child, rfl, hg, by simp only [hg]⟩

end SnowflakeS3RestClient

/-- What a multipart upload guarantees after the initiate response `r` and the part
uploads `run`: one slot per chunk, slot `i` the `ETag` of the latest 200 response to
`_upload_chunk(i, chunk)` that carries one; the upload id the text of the third child of
the initiate response's root; every part upload, the completion and the abort addressed to
the object's URL with that upload id; and a completion document of one part per slot,
numbered from 1. -/
def MultipartRunSpec (c : SnowflakeS3RestClient) (contentType octetStream : PyStr)
    (r : Response) (run : List (Int × Response)) : Prop :=
  ∃ root child, r.document = some root ∧ root.getChild 2 = .ok child ∧
    ∃ es, ((c.initiateMultipartUpload r).client.uploadRun run).etags = some es ∧
      es.length = c.numOfChunks ∧
      (∀ i < c.numOfChunks, es[i]? = some (latestEtag i run)) ∧
      ((c.initiateMultipartUpload r).client.uploadRun run).uploadId = child.text ∧
      (∀ i chunk, (((c.initiateMultipartUpload r).client.uploadRun run).uploadChunkRequest
          contentType octetStream i chunk).url =
        c.objectUrl c.meta.dstFileName ++ '?' ::
          ("partNumber=".toList ++ reprInt (i + 1) ++ "&uploadId=".toList ++
            formatOption child.text)) ∧
      ((c.initiateMultipartUpload r).client.uploadRun run).completeMultipartUploadRequest =
        .ok ⟨c.objectUrl c.meta.dstFileName ++ "?uploadId=".toList ++ formatOption child.text,
          "POST".toList, none, none,
          some (SnowflakeS3RestClient.completeMultipartUploadDocument es).tostring⟩ ∧
      ((c.initiateMultipartUpload r).client.uploadRun run).abortMultipartUploadRequest =
        child.text.map (fun _ =>
          ⟨c.objectUrl c.meta.dstFileName ++ "?uploadId=".toList ++ formatOption child.text,
            "DELETE".toList, none, none, none⟩) ∧
      (SnowflakeS3RestClient.completeMultipartUploadDocument es).children.length =
        c.numOfChunks ∧
      ∀ k (hk : k < es.length),
        (SnowflakeS3RestClient.completeMultipartUploadDocument es).children[k]? =
          some (.mk "Part".toList none
            [.mk "ETag".toList es[k] [], .mk "PartNumber".toList (some (reprNat (k + 1))) []])

/-- A multipart upload from an initiate call whose response has status 200 and that
returns, through any part uploads with chunk ids `≥ 0` in any order, repeated or raising,
keeps `MultipartRunSpec`. -/
theorem multipartRun_spec (c : SnowflakeS3RestClient) (contentType octetStream : PyStr)
    {r : Response} (hn : 1 < c.numOfChunks) (h200 : r.statusCode = 200)
    (hinit : (c.initiateMultipartUpload r).result = .ok ()) (run : List (Int × Response))
    (hrun : ∀ p ∈ run, 0 ≤ p.1) :
    MultipartRunSpec c contentType octetStream r run := by
  obtain ⟨root, child, hd, hg, hc⟩ := c.initiateMultipartUpload_eq_ok h200 hinit
  have hn' : c.numOfChunks ≠ 1 := by omega
  obtain ⟨hlen, hslots⟩ := etagSlots_spec c.numOfChunks run hrun
  obtain ⟨hdoc, hparts⟩ :=
    completeMultipartUploadDocument_children (run.foldl etagsAfter (List.replicate c.numOfChunks none))
  have hrun : (c.initiateMultipartUpload r).client.uploadRun run =
      { c with uploadId := child.text,
               etags := some (run.foldl etagsAfter (List.replicate c.numOfChunks none)) } := by
    rw [hc, SnowflakeS3RestClient.uploadRun_eq
      { c with uploadId := child.text, etags := some (List.replicate c.numOfChunks none) } hn' run]
    rfl
  refine ⟨root, child, hd, hg, _, by rw [hrun], hlen, hslots, by rw [hrun], fun i chunk => ?_,
    by rw [hrun]; rfl, ?_, hdoc.trans hlen, hparts⟩
  · simp only [hrun, SnowflakeS3RestClient.uploadChunkRequest, hn', if_false]
    rfl
  · rw [hrun]
    cases child.text <;> rfl

/-! ## Two part uploads -/

/-- A client about to upload an object in two parts. -/
def twoPartClient : SnowflakeS3RestClient where
  meta := ⟨"src".toList, "dst".toList, "d".toList, none⟩
  regionName := "r".toList
  s3location := ⟨"b".toList, []⟩
  endpoint := "https://b.s3.amazonaws.com".toList
  chunkSize := 4
  numOfChunks := 2
  encryptionMetadata := none
  uploadId := none
  etags := none
  downloaded := []

/-- The response to the initiate call: status 200 and the upload id `u1`. -/
def initiateResponse : Response where
  statusCode := 200
  headers := CaseInsensitiveDict.empty
  text := ("<InitiateMultipartUploadResult><Bucket>b</Bucket><Key>dst</Key>" ++
    "<UploadId>u1</UploadId></InitiateMultipartUploadResult>").toList
  content := []
  document := some (.mk "InitiateMultipartUploadResult".toList none
    [.mk "Bucket".toList (some "b".toList) [], .mk "Key".toList (some "dst".toList) [],
      .mk "UploadId".toList (some "u1".toList) []])
  blank_no_document h := absurd h (by decide)

/-- A response with status `s`, the given headers and an empty body. -/
def bareResponse (s : Nat) (headers : CaseInsensitiveDict) : Response :=
  ⟨s, headers, [], [], none, fun _ => rfl⟩

/-- The headers `ETag: e`. -/
def etagHeaders (e : PyStr) : CaseInsensitiveDict := ⟨[("ETag".toList, e)], List.nodup_singleton _⟩

/-- The latest 200 response to a part upload of chunk `i`, whose query carried
`partNumber={i+1}`, whether or not it has an `ETag` header. -/
def latestOkResponse (i : Nat) (run : List (Int × Response)) : Option Response :=
  run.foldl (fun acc p => if p.1 = (i : Int) ∧ p.2.statusCode = 200 then some p.2 else acc) none

/-- Part 2 answered with an `ETag` after the initiate call. -/
theorem multipartRun_spec_twoParts :
    1 < twoPartClient.numOfChunks ∧ initiateResponse.statusCode = 200 ∧
      (twoPartClient.initiateMultipartUpload initiateResponse).result = .ok () ∧
      (∀ p ∈ [((1 : Int), bareResponse 200 (etagHeaders "b".toList))], 0 ≤ p.1) ∧
      MultipartRunSpec twoPartClient "Content-Type".toList "application/octet-stream".toList
        initiateResponse [(1, bareResponse 200 (etagHeaders "b".toList))] :=
  have hrun : ∀ p ∈ [((1 : Int), bareResponse 200 (etagHeaders "b".toList))], 0 ≤ p.1 := by
    simp
  ⟨by decide, rfl, rfl, hrun, multipartRun_spec twoPartClient _ _ (by decide)
    (show initiateResponse.statusCode = 200 from rfl) rfl _ hrun⟩

/-- Part 1 sent twice, both times answered 200: first with an `ETag`, then without. -/
def repeatedPartRun : List (Int × Response) :=
  [(0, bareResponse 200 (etagHeaders "a".toList)), (0, bareResponse 200 CaseInsensitiveDict.empty)]

/-- Slot 0 keeps the first `ETag` although the latest 200 response for part 1 has none. -/
theorem uploadChunk_keeps_earlier_etag :
    (twoPartClient.initiateMultipartUpload initiateResponse).result = .ok () ∧
      ((twoPartClient.initiateMultipartUpload initiateResponse).client.uploadRun
        repeatedPartRun).etags = some [some "a".toList, none] ∧
      (latestOkResponse 0 repeatedPartRun).map (fun r => r.headers.get? "ETag".toList) =
        some none :=
  ⟨rfl, rfl, rfl⟩

/-- Part 1 is answered 201, part 2 200 with an `ETag`: the initiate call and both part
uploads return normally, and the completion would list part 1 without an `ETag`. -/
theorem partUpload_created_leaves_empty_slot :
    ∃ c₁ c₂ c₃, twoPartClient.initiateMultipartUpload initiateResponse = ⟨.ok (), c₁⟩ ∧
      c₁.uploadChunk 0 (bareResponse 201 CaseInsensitiveDict.empty) = ⟨.ok (), c₂⟩ ∧
      c₂.uploadChunk 1 (bareResponse 200 (etagHeaders "b".toList)) = ⟨.ok (), c₃⟩ ∧
      c₃.etags = some [none, some "b".toList] :=
  ⟨_, _, _, rfl, rfl, rfl, rfl⟩

end SnowflakeStorage.S3
