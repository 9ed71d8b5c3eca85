import SnowflakeStorage.Python.Requests
import SnowflakeStorage.S3.Signer
import SnowflakeStorage.Constants

/-!
# `SnowflakeS3RestClient`

The state of an S3 client and its operations.  Every operation of `s3_storage_client.py`
makes at most one call of `_send_request_with_authentication_and_retry`, so each is split
in two here:

* the request it asks the dispatcher for (`...Request`): URL, verb, the `x_amz_headers`
  to sign, the unsigned `headers`, and the body, each `None` where the source passes none;
* what it does with the response the dispatcher returns (`getFileHeader`,
  `initiateMultipartUpload`, ...): a new state and a result, or an exception.

An exception does not roll back the assignments made before it, so an operation returns
an `Outcome`: the result or the exception, together with the state.  The dispatcher itself,
`_send_request_with_retry`, belongs to the base class and is not under `src/`; the
statements about runs quantify over every response it may return.

The base class also owns `num_of_chunks`, `chunk_size`, the encryption metadata and
`write_downloaded_chunk`; the first three are fields of the state, and the calls of the
last are recorded in `downloaded`, in order.
-/

namespace SnowflakeStorage

namespace S3

open PyStr Url

/-! ## Constants and records -/

/-- `META_PREFIX`. -/
def metaPrefix : PyStr := "x-amz-meta-".toList

/-- `SFC_DIGEST`. -/
def sfcDigest : PyStr := "sfc-digest".toList

/-- `AMZ_MATDESC`. -/
def amzMatdesc : PyStr := "x-amz-matdesc".toList

/-- `AMZ_KEY`. -/
def amzKey : PyStr := "x-amz-key".toList

/-- `AMZ_IV`. -/
def amzIv : PyStr := "x-amz-iv".toList

/-- `EXPIRED_TOKEN`. -/
def expiredToken : PyStr := "ExpiredToken".toList

/-- The fields of `SnowflakeFileMeta` the client reads and writes. -/
structure SnowflakeFileMeta where
  srcFileName : PyStr
  dstFileName : PyStr
  sha256Digest : PyStr
  resultStatus : Option ResultStatus

/-- `S3Location`. -/
structure S3Location where
  bucketName : PyStr
  path : PyStr
  deriving DecidableEq, Repr

/-- `_extract_bucket_name_and_path(stage_location)`. -/
def extractBucketNameAndPath (stageLocation : PyStr) : S3Location :=
  let (bucketName, _, path) := partition '/' stageLocation
  ⟨bucketName, if !path.isEmpty && !endswith path '/' then path ++ "/".toList else path⟩

/-- The entries of `stage_info` the constructor reads; `endPoint` is `None` or a string. -/
structure StageInfo where
  region : PyStr
  location : PyStr
  endPoint : Option PyStr

/-- The endpoint chosen by `__init__`: the stage's own endpoint when it is a non-empty
string, else the accelerate endpoint when asked for, else the regional or the global one. -/
def endpointOf (stageInfo : StageInfo) (bucketName : PyStr)
    (useAccelerateEndpoint useS3RegionalUrl : Bool) : PyStr :=
  match stageInfo.endPoint with
  | some e@(_ :: _) => "https://".toList ++ bucketName ++ '.' :: e
  | _ =>
    if useAccelerateEndpoint then
      "https://".toList ++ bucketName ++ ".s3-accelerate.amazonaws.com".toList
    else if useS3RegionalUrl then
      "https://".toList ++ bucketName ++ ".s3.".toList ++ stageInfo.region ++ ".amazonaws.com".toList
    else "https://".toList ++ bucketName ++ ".s3.amazonaws.com".toList

/-- The state of a client. -/
structure SnowflakeS3RestClient where
  meta : SnowflakeFileMeta
  regionName : PyStr
  s3location : S3Location
  endpoint : PyStr
  chunkSize : Nat
  numOfChunks : Nat
  encryptionMetadata : Option EncryptionMetadata
  uploadId : Option PyStr
  etags : Option (List (Option PyStr))
  downloaded : List (Nat × Bytes)

/-- `__init__`, given what the base class computes. -/
def SnowflakeS3RestClient.init (meta : SnowflakeFileMeta) (stageInfo : StageInfo)
    (chunkSize numOfChunks : Nat) (encryptionMetadata : Option EncryptionMetadata)
    (useAccelerateEndpoint useS3RegionalUrl : Bool) : SnowflakeS3RestClient :=
  let s3location := extractBucketNameAndPath stageInfo.location
  { meta, regionName := stageInfo.region, s3location,
    endpoint := endpointOf stageInfo s3location.bucketName useAccelerateEndpoint useS3RegionalUrl,
    chunkSize, numOfChunks, encryptionMetadata, uploadId := none, etags := none,
    downloaded := [] }

/-- One call of `_send_request_with_authentication_and_retry`. -/
structure S3Request where
  url : PyStr
  verb : PyStr
  xAmzHeaders : Option (PyDict HeaderValue)
  headers : Option (PyDict HeaderValue)
  data : Option Bytes

/-- What an operation leaves: its result or the exception it raised, and the state. -/
structure Outcome (α : Type) where
  result : Except PyError α
  client : SnowflakeS3RestClient

namespace SnowflakeS3RestClient

variable (c : SnowflakeS3RestClient)

/-! ## Paths -/

/-- `quote(self.s3location.path + name.lstrip("/"))`. -/
def objectPath (name : PyStr) : PyStr := quote (c.s3location.path ++ lstrip '/' name)

/-- `self.endpoint + f"/{path}"` for the object `name`. -/
def objectUrl (name : PyStr) : PyStr := c.endpoint ++ '/' :: c.objectPath name

/-! ## Probe -/

/-- The request of `get_file_header(filename)`. -/
def getFileHeaderRequest (filename : PyStr) : S3Request :=
  ⟨c.objectUrl filename, "HEAD".toList, none, none, none⟩

/-- `int(x)` for `x` a string or `None`. -/
def intOfOption : Option PyStr → Except PyError Int
  | some s => toInt s
  | none => .error .typeError

/-- Python's truth value of an optional string. -/
def truthyOption : Option PyStr → Bool
  | some s => !s.isEmpty
  | none => false

/-- The encryption metadata `get_file_header` reads from the response's headers: present
exactly when the key header is a non-empty string. -/
def probedEncryptionMetadata (metadata : CaseInsensitiveDict) : Option EncryptionMetadata :=
  if truthyOption (metadata.get? (metaPrefix ++ amzKey)) then
    some ⟨metadata.get? (metaPrefix ++ amzKey), metadata.get? (metaPrefix ++ amzIv),
      metadata.get? (metaPrefix ++ amzMatdesc)⟩
  else none

/-- `get_file_header(filename)`, once the dispatcher returned `response`. -/
def getFileHeader (response : Response) : Outcome (Option FileHeader) :=
  if response.statusCode = 200 then
    let c' := { c with meta := { c.meta with resultStatus := some .uploaded } }
    let metadata := response.headers
    match intOfOption (metadata.get? "Content-Length".toList) with
    | .ok n =>
      ⟨.ok (some ⟨metadata.get? (metaPrefix ++ sfcDigest), n, probedEncryptionMetadata metadata⟩), c'⟩
    | .error e => ⟨.error e, c'⟩
  else if response.statusCode = 404 then
    ⟨.ok none, { c with meta := { c.meta with resultStatus := some .notFoundFile } }⟩
  else
    match response.raiseForStatus with
    | .ok () => ⟨.ok none, c⟩
    | .error e => ⟨.error e, c⟩

/-! ## Upload -/

/-- An optional string as a header value. -/
def headerOfOption : Option PyStr → HeaderValue
  | some s => .str s
  | none => .none

/-- `_prepare_file_metadata()`.  A named tuple is always true, so the three encryption
entries are added whenever there is encryption metadata. -/
def prepareFileMetadata : PyDict HeaderValue :=
  let s3Metadata := PyDict.ofList [(metaPrefix ++ sfcDigest, .str c.meta.sha256Digest)]
  match c.encryptionMetadata with
  | some e =>
    s3Metadata.update (PyDict.ofList
      [(metaPrefix ++ amzIv, headerOfOption e.iv), (metaPrefix ++ amzKey, headerOfOption e.key),
        (metaPrefix ++ amzMatdesc, headerOfOption e.matdesc)])
  | none => s3Metadata

/-- The names `_prepare_file_metadata` can write. -/
def metadataNames : List PyStr :=
  [metaPrefix ++ sfcDigest, metaPrefix ++ amzIv, metaPrefix ++ amzKey, metaPrefix ++ amzMatdesc]

theorem mem_keys_prepareFileMetadata {k : PyStr} (hk : k ∈ c.prepareFileMetadata.keys) :
    k ∈ metadataNames := by
  unfold prepareFileMetadata at hk
  split at hk
  · rcases PyDict.mem_keys_update.mp hk with hk | hk
    · rw [PyDict.keys, PyDict.entries_ofList (by simp only [List.map_cons, List.map_nil]; decide)] at hk
      simp only [List.map_cons, List.map_nil, List.mem_cons, List.not_mem_nil, or_false] at hk
      rcases hk with rfl | rfl | rfl <;> simp [metadataNames]
    · rw [PyDict.keys, PyDict.entries_ofList (by simp only [List.map_cons, List.map_nil]; decide)] at hk
      simp only [List.map_cons, List.map_nil, List.mem_singleton] at hk
      simp [metadataNames, hk]
  · rw [PyDict.keys, PyDict.entries_ofList (by simp only [List.map_cons, List.map_nil]; decide)] at hk
    simp only [List.map_cons, List.map_nil, List.mem_singleton] at hk
    simp [metadataNames, hk]

variable (contentType octetStream : PyStr)

/-- `{HTTP_HEADER_CONTENT_TYPE: HTTP_HEADER_VALUE_OCTET_STREAM}`; both constants come from
`constants.py`, which is not under `src/`, and are parameters here. -/
def octetStreamHeaders : PyDict HeaderValue := PyDict.ofList [(contentType, .str octetStream)]

/-- The request of `_initiate_multipart_upload()`. -/
def initiateMultipartUploadRequest : S3Request :=
  ⟨c.objectUrl c.meta.dstFileName ++ "?uploads".toList, "POST".toList,
    some c.prepareFileMetadata, some (octetStreamHeaders contentType octetStream), none⟩

/-- `_initiate_multipart_upload()`, once the dispatcher returned `response`: the upload id is
the text of the third child of the response's root, and one etag slot per chunk. -/
def initiateMultipartUpload (response : Response) : Outcome Unit :=
  if response.statusCode = 200 then
    match response.document with
    | none => ⟨.error .parseError, c⟩
    | some root =>
      match root.getChild 2 with
      | .ok child =>
        ⟨.ok (), { c with uploadId := child.text, etags := some (List.replicate c.numOfChunks none) }⟩
      | .error e => ⟨.error e, c⟩
  else ⟨response.raiseForStatus, c⟩

/-- The query of a part upload: `partNumber={chunk_id+1}&uploadId={self.upload_id}`. -/
def partQuery (chunkId : Int) : PyStr :=
  "partNumber=".toList ++ reprInt (chunkId + 1) ++ "&uploadId=".toList ++ formatOption c.uploadId

/-- The request of `_upload_chunk(chunk_id, chunk)`: the whole object with its metadata
when there is one chunk, a part otherwise. -/
def uploadChunkRequest (chunkId : Int) (chunk : Bytes) : S3Request :=
  if c.numOfChunks = 1 then
    ⟨c.objectUrl c.meta.dstFileName, "PUT".toList, some c.prepareFileMetadata,
      some (octetStreamHeaders contentType octetStream), some chunk⟩
  else
    ⟨c.objectUrl c.meta.dstFileName ++ '?' :: c.partQuery chunkId, "PUT".toList, none, none,
      some chunk⟩

/-- `self.etags[chunk_id] = etag`: a `TypeError` before the initiate call, an `IndexError`
when `chunk_id` names no slot; a negative `chunk_id` counts from the last slot. -/
def setEtag : Option (List (Option PyStr)) → Int → PyStr → Except PyError (List (Option PyStr))
  | none, _, _ => .error .typeError
  | some etags, chunkId, etag =>
    if (listIndex etags.length chunkId).isSome then .ok (setItem etags chunkId (some etag))
    else .error .indexError

/-- `_upload_chunk(chunk_id, chunk)`, once the dispatcher returned `response`: a part's
`ETag` is stored when the status is 200, and `raise_for_status` decides what is raised. -/
def uploadChunk (chunkId : Int) (response : Response) : Outcome Unit :=
  if c.numOfChunks = 1 then ⟨response.raiseForStatus, c⟩
  else if response.statusCode = 200 then
    match response.headers.getItem "ETag".toList with
    | .error e => ⟨.error e, c⟩
    | .ok etag =>
      match setEtag c.etags chunkId etag with
      | .error e => ⟨.error e, c⟩
      | .ok etags => ⟨response.raiseForStatus, { c with etags := some etags }⟩
  else ⟨response.raiseForStatus, c⟩

/-- The document of `_complete_multipart_upload()`: one `Part` per slot, numbered from 1. -/
def completeMultipartUploadDocument (etags : List (Option PyStr)) : Element :=
  .mk "CompleteMultipartUpload".toList none (etags.enum.map fun p =>
    .mk "Part".toList none
      [.mk "ETag".toList p.2 [], .mk "PartNumber".toList (some (reprNat (p.1 + 1))) []])

/-- The URL of the completion and of the abort: `uploadId={self.upload_id}`. -/
def uploadIdUrl : PyStr :=
  c.objectUrl c.meta.dstFileName ++ "?uploadId=".toList ++ formatOption c.uploadId

/-- The request of `_complete_multipart_upload()`; `enumerate(None)` raises before the
initiate call. -/
def completeMultipartUploadRequest : Except PyError S3Request :=
  match c.etags with
  | some etags =>
    .ok ⟨c.uploadIdUrl, "POST".toList, none, none,
      some (completeMultipartUploadDocument etags).tostring⟩
  | none => .error .typeError

/-- The request of `_abort_multipart_upload()`: none before an upload id is known. -/
def abortMultipartUploadRequest : Option S3Request :=
  match c.uploadId with
  | some _ => some ⟨c.uploadIdUrl, "DELETE".toList, none, none, none⟩
  | none => none

/-- `_complete_multipart_upload()` and `_abort_multipart_upload()`, once the dispatcher
returned `response`. -/
def finishMultipartUpload (response : Response) : Outcome Unit := ⟨response.raiseForStatus, c⟩

/-! ## Download -/

/-- The byte range of chunk `chunk_id` of `download_chunk`: closed for every chunk but the
last, open for the last. -/
def chunkRange (chunkId : Nat) : PyStr :=
  if chunkId < c.numOfChunks - 1 then
    reprNat (chunkId * c.chunkSize) ++ '-' :: reprInt ((chunkId + 1) * c.chunkSize - 1 : Int)
  else reprNat (chunkId * c.chunkSize) ++ "-".toList

/-- The request of `download_chunk(chunk_id)`. -/
def downloadChunkRequest (chunkId : Nat) : S3Request :=
  if c.numOfChunks = 1 then ⟨c.objectUrl c.meta.srcFileName, "GET".toList, none, none, none⟩
  else
    ⟨c.objectUrl c.meta.srcFileName, "GET".toList, none,
      some (PyDict.ofList [("Range".toList, .str ("bytes=".toList ++ c.chunkRange chunkId))]), none⟩

/-- `download_chunk(chunk_id)`, once the dispatcher returned `response`. -/
def downloadChunk (chunkId : Nat) (response : Response) : Outcome Unit :=
  if c.numOfChunks = 1 then
    if response.statusCode = 200 then
      ⟨response.raiseForStatus,
        { c with
          downloaded := c.downloaded ++ [(0, response.content)]
          meta := { c.meta with resultStatus := some .downloaded } }⟩
    else ⟨response.raiseForStatus, c⟩
  else if response.statusCode = 200 ∨ response.statusCode = 206 then
    ⟨response.raiseForStatus, { c with downloaded := c.downloaded ++ [(chunkId, response.content)] }⟩
  else ⟨response.raiseForStatus, c⟩

/-! ## Service queries -/

/-- The request of `transfer_accelerate_config()`. -/
def transferAccelerateConfigRequest : S3Request :=
  ⟨c.endpoint ++ "/?accelerate".toList, "GET".toList, none, none, none⟩

end SnowflakeS3RestClient

/-- `transfer_accelerate_config()`, once the dispatcher returned `response`: the value of
`config.find("Status") and config.find("Status").text == "Enabled"` for a 200, `False`
otherwise. -/
def transferAccelerateConfig (response : Response) : Except PyError PyObj :=
  if response.statusCode = 200 then
    match response.document with
    | none => .error .parseError
    | some config =>
      let status : PyObj := match config.find "Status".toList with
        | some e => .element e
        | none => .none
      .ok (status.and fun _ => .bool ((config.find "Status".toList).map Element.text ==
        some (some "Enabled".toList)))
  else .ok (.bool false)

/-- `_has_expired_token(response)`. -/
def hasExpiredToken (response : Response) : Except PyError Bool :=
  if response.statusCode ≠ 400 then .ok false
  else if response.text.isEmpty || isspace response.text then .ok false
  else
    match response.document with
    | none => .error .parseError
    | some err =>
      match err.find "Code".toList with
      | some code => .ok (code.text == some expiredToken)
      | none => .error .attributeError

end S3

end SnowflakeStorage
