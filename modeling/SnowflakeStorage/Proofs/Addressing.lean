import SnowflakeStorage.Proofs.Authentication

/-!
# The object every request addresses

The service reads the key of a request's object from the path of the URL it receives,
percent-decoded (`SigV4.objectKey`).  The client writes that path as
`quote(path + name.lstrip("/"))`, which `requests` sends unchanged when the key has no `.`
or `..` segment (`prepareUrl_objectUrl`), and decoding undoes `quote`
(`objectKey_objectUrl`).  `requests_objectKey` collects the key of each kind of request;
`Proofs/Runs.lean` carries this over whole runs.
-/

namespace SnowflakeStorage.S3

open PyStr Url

/-! ## One request -/

/-- The key the client stores the file `name` under: the stage path and the name without
its leading `/`, in UTF-8. -/
def SnowflakeS3RestClient.keyOf (c : SnowflakeS3RestClient) (name : PyStr) : Bytes :=
  encodeUtf8 (c.s3location.path ++ lstrip '/' name)

theorem quote_not_mem_query {ch : Char} {s : PyStr} (h : ch ∈ quote s) : ch ∉ ['?', '#'] :=
  fun hm => quote_not_mem h ((by decide : ∀ x ∈ ['?', '#'], x ∈ ['?', '#', ';']) ch hm)

namespace SnowflakeS3RestClient

variable {c : SnowflakeS3RestClient} {host : PyStr} (hhost : IsNetloc host)
  (hend : c.endpoint = "https://".toList ++ host)
include hhost hend

/-- `requests` sends the object URL of a key without dot segments as it is. -/
theorem prepareUrl_objectUrl {name : PyStr} (hkey : SigV4.PlainKey (c.keyOf name)) :
    prepareUrl (c.objectUrl name) = c.objectUrl name := by
  simp only [objectUrl, objectPath, hend, List.append_assoc]
  rw [← List.append_assoc, prepareUrl_https hhost,
    preparePathAndQuery_path (fun _ => quote_not_mem_query) (SigV4.plainPath_quote hkey)]

/-- So it does with a query that is not empty and has no `#`. -/
theorem prepareUrl_objectUrl_query {name q : PyStr} (hkey : SigV4.PlainKey (c.keyOf name))
    (hne : q ≠ []) (hq : '#' ∉ q) :
    prepareUrl (c.objectUrl name ++ '?' :: q) = c.objectUrl name ++ '?' :: q := by
  simp only [objectUrl, objectPath, hend, List.append_assoc, List.cons_append]
  rw [← List.append_assoc, prepareUrl_https hhost, ← List.cons_append,
    preparePathAndQuery_query (fun _ => quote_not_mem_query) (SigV4.plainPath_quote hkey) hne hq]

/-- The object URL of `name` addresses the key of `name`. -/
theorem objectKey_objectUrl (name : PyStr) : SigV4.objectKey (c.objectUrl name) = some (c.keyOf name) := by
  have hp := urlparse_https_path hhost fun _ => quote_not_mem (s := c.s3location.path ++ lstrip '/' name)
  simp only [SigV4.objectKey, SigV4.urlPath, objectUrl, objectPath, hend, List.append_assoc] at hp ⊢
  simp only [hp, List.isEmpty_nil, if_true, List.append_nil, SigV4.percentDecode_quote]
  rfl

/-- The object URL of a key without dot segments, as `requests` sends it, addresses that key. -/
theorem objectKey_prepareUrl_objectUrl {name : PyStr} (hkey : SigV4.PlainKey (c.keyOf name)) :
    SigV4.objectKey (prepareUrl (c.objectUrl name)) = some (c.keyOf name) := by
  rw [prepareUrl_objectUrl hhost hend hkey, objectKey_objectUrl hhost hend]

/-- A query after it does not move the key, whatever the query holds. -/
theorem objectKey_prepareUrl_objectUrl_query {name : PyStr} (hkey : SigV4.PlainKey (c.keyOf name))
    (q : PyStr) : SigV4.objectKey (prepareUrl (c.objectUrl name ++ '?' :: q)) = some (c.keyOf name) := by
  obtain ⟨tail, htail, hhead⟩ :=
    preparePathAndQuery_append (fun _ => quote_not_mem_query) (SigV4.plainPath_quote hkey) q
  obtain ⟨hpath, hparams⟩ := urlparse_https_path_append hhost
    (fun _ => quote_not_mem (s := c.s3location.path ++ lstrip '/' name)) hhead
  simp only [objectUrl, objectPath, hend, List.append_assoc, List.cons_append] at hpath hparams ⊢
  rw [← List.append_assoc, prepareUrl_https hhost, ← List.cons_append, htail]
  simp only [SigV4.objectKey, SigV4.urlPath, List.append_assoc, List.cons_append, hpath, hparams,
    List.isEmpty_nil, if_true, List.append_nil, SigV4.percentDecode_quote]
  rfl

/-- The URL naming the upload id addresses the destination's key. -/
theorem objectKey_prepareUrl_uploadIdUrl (hkey : SigV4.PlainKey (c.keyOf c.meta.dstFileName)) :
    SigV4.objectKey (prepareUrl c.uploadIdUrl) = some (c.keyOf c.meta.dstFileName) := by
  rw [c.uploadIdUrl_eq]
  exact c.objectKey_prepareUrl_objectUrl_query hhost hend hkey _

/-- `requests` sends the accelerate query as it is. -/
theorem prepareUrl_transferAccelerateConfigRequest :
    prepareUrl c.transferAccelerateConfigRequest.url = c.transferAccelerateConfigRequest.url := by
  have hprep : preparePathAndQuery ('/' :: '?' :: "accelerate".toList) =
      '/' :: '?' :: "accelerate".toList :=
    @preparePathAndQuery_query [] (fun _ h => nomatch h) (SigV4.plainPath_quote (s := []) (by decide))
      _ (by decide) (by decide)
  show prepareUrl (c.endpoint ++ "/?accelerate".toList) = c.endpoint ++ "/?accelerate".toList
  rw [hend, List.append_assoc, show "/?accelerate".toList = '/' :: '?' :: "accelerate".toList from rfl,
    ← List.append_assoc, prepareUrl_https hhost, hprep]

end SnowflakeS3RestClient

/-- The keys the requests of `c` address as `requests` sends them, one field per operation,
for names whose keys have no dot segment. -/
structure Addresses (c : SnowflakeS3RestClient) (contentType octetStream : PyStr) : Prop where
  probe : ∀ filename, SigV4.PlainKey (c.keyOf filename) →
    SigV4.objectKey (prepareUrl (c.getFileHeaderRequest filename).url) = some (c.keyOf filename)
  initiate : SigV4.PlainKey (c.keyOf c.meta.dstFileName) →
    SigV4.objectKey (prepareUrl (c.initiateMultipartUploadRequest contentType octetStream).url) =
      some (c.keyOf c.meta.dstFileName)
  upload : SigV4.PlainKey (c.keyOf c.meta.dstFileName) → ∀ chunkId chunk,
    SigV4.objectKey (prepareUrl (c.uploadChunkRequest contentType octetStream chunkId chunk).url) =
      some (c.keyOf c.meta.dstFileName)
  complete : SigV4.PlainKey (c.keyOf c.meta.dstFileName) → ∀ r,
    c.completeMultipartUploadRequest = .ok r →
      SigV4.objectKey (prepareUrl r.url) = some (c.keyOf c.meta.dstFileName)
  abort : SigV4.PlainKey (c.keyOf c.meta.dstFileName) → ∀ r, c.abortMultipartUploadRequest = some r →
    SigV4.objectKey (prepareUrl r.url) = some (c.keyOf c.meta.dstFileName)
  download : SigV4.PlainKey (c.keyOf c.meta.srcFileName) → ∀ chunkId,
    SigV4.objectKey (prepareUrl (c.downloadChunkRequest chunkId).url) = some (c.keyOf c.meta.srcFileName)
  accelerate : SigV4.objectKey (prepareUrl c.transferAccelerateConfigRequest.url) = some []

/-- Every request of a client whose endpoint is `https://` and a host addresses the key of
its file: the probed name, the destination of an upload, the source of a download; the
accelerate query addresses the bucket itself, the empty key. -/
theorem requests_objectKey {c : SnowflakeS3RestClient} {host : PyStr} (hhost : IsNetloc host)
    (hend : c.endpoint = "https://".toList ++ host) (contentType octetStream : PyStr) :
    Addresses c contentType octetStream where
  probe _ hkey := c.objectKey_prepareUrl_objectUrl hhost hend hkey
  initiate hkey := c.objectKey_prepareUrl_objectUrl_query hhost hend hkey _
  upload hkey chunkId chunk := by
    unfold SnowflakeS3RestClient.uploadChunkRequest
    split
    · exact c.objectKey_prepareUrl_objectUrl hhost hend hkey
    · exact c.objectKey_prepareUrl_objectUrl_query hhost hend hkey _
  complete hkey r h := by
    unfold SnowflakeS3RestClient.completeMultipartUploadRequest at h
    split at h <;> cases h
    exact c.objectKey_prepareUrl_uploadIdUrl hhost hend hkey
  abort hkey r h := by
    unfold SnowflakeS3RestClient.abortMultipartUploadRequest at h
    split at h <;> cases h
    exact c.objectKey_prepareUrl_uploadIdUrl hhost hend hkey
  download hkey chunkId := by
    have hurl : (c.downloadChunkRequest chunkId).url = c.objectUrl c.meta.srcFileName := by
      unfold SnowflakeS3RestClient.downloadChunkRequest
      split <;> rfl
    rw [hurl]
    exact c.objectKey_prepareUrl_objectUrl hhost hend hkey
  accelerate := by
    rw [c.prepareUrl_transferAccelerateConfigRequest hhost hend]
    show SigV4.objectKey (c.endpoint ++ "/?accelerate".toList) = _
    rw [hend, show "/?accelerate".toList = ['/'] ++ '?' :: "accelerate".toList from rfl,
      ← List.append_assoc, SigV4.objectKey, SigV4.urlPath,
      @urlparse_https_query host [] hhost (fun _ h => nomatch h) _ (by decide)]
    rfl

end SnowflakeStorage.S3
