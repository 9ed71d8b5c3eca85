import SnowflakeStorage.Proofs.Addressing
import SnowflakeStorage.Proofs.Multipart
import SnowflakeStorage.Proofs.Download

/-!
# Runs of the client's operations

The caller drives a `SnowflakeS3RestClient` through its operations in any order: it probes,
initiates, uploads parts in any order and again after one raised, completes or aborts,
downloads chunks, asks about transfer acceleration, and may initiate again.  A run is such a
list of calls, each with the response the dispatcher returned for the request it sent
(`Call`); a call sends at most one request (`Call.request`) and leaves a client
(`Call.step`), whether it returned or raised.

`step_cases` says once what a call can do to the client: it writes the file's result status
and the chunk it downloaded (`Call.chunkWritten`), and either allocates fresh slots under the
upload id an initiate response hands out, or fills slots as a part upload does
(`etagsAfter`), or leaves both.  The invariants over whole runs follow from it:

* every other field is kept (`frame_run`), so every request a run sends addresses, as
  `requests` sends it, the object its call is about, computed from the client as the run
  began, as long as no key has a `.` or `..` segment (`sent_objectKey`);
* the slots stay one per chunk once allocated (`SlotsFit`), so after any run from a fresh
  client a completion either raises before sending anything or lists one part per chunk
  (`completionFits_run`);
* every attempt of every request a run sends is signed as the service checks it, as long as
  the upload ids stay unchanged by URI-encoding (`sent_transmitted_signedWith`); a part
  upload under an upload id that holds a `/` is signed over another query than the one the
  service reads.

The chunks a server that holds an object answers to the chunk requests make up that object
(`chunkWritten_served`).
-/

namespace SnowflakeStorage.S3

open PyStr Url

/-- A call of one of the client's operations, with the response the dispatcher returned for
the request it sent. -/
inductive Call where
  | getFileHeader (filename : PyStr) (response : Response)
  | initiateMultipartUpload (response : Response)
  | uploadChunk (chunkId : Int) (chunk : Bytes) (response : Response)
  | completeMultipartUpload (response : Response)
  | abortMultipartUpload (response : Response)
  | downloadChunk (chunkId : Nat) (response : Response)
  | transferAccelerateConfig (response : Response)

namespace Call

/-- The request the call sends from the client `c`, if it sends one: the completion raises
on `enumerate(None)` before it sends, and the abort returns before it sends, while no upload
has been initiated. -/
def request (contentType octetStream : PyStr) (c : SnowflakeS3RestClient) : Call → Option S3Request
  | getFileHeader filename _ => some (c.getFileHeaderRequest filename)
  | initiateMultipartUpload _ => some (c.initiateMultipartUploadRequest contentType octetStream)
  | uploadChunk chunkId chunk _ =>
    some (c.uploadChunkRequest contentType octetStream chunkId chunk)
  | completeMultipartUpload _ => c.completeMultipartUploadRequest.toOption
  | abortMultipartUpload _ => c.abortMultipartUploadRequest
  | downloadChunk chunkId _ => some (c.downloadChunkRequest chunkId)
  | transferAccelerateConfig _ => some c.transferAccelerateConfigRequest

/-- The client after the call, whether it returned or raised. -/
def step (c : SnowflakeS3RestClient) : Call → SnowflakeS3RestClient
  | getFileHeader _ r => (c.getFileHeader r).client
  | initiateMultipartUpload r => (c.initiateMultipartUpload r).client
  | uploadChunk chunkId _ r => (c.uploadChunk chunkId r).client
  | completeMultipartUpload r => (c.finishMultipartUpload r).client
  | abortMultipartUpload r => (c.finishMultipartUpload r).client
  | downloadChunk chunkId r => (c.downloadChunk chunkId r).client
  | transferAccelerateConfig _ => c

/-- The key of the object the call is about, from the client `c`: the probed name, the
destination of an upload, the source of a download; the accelerate query is about the
bucket, the empty key. -/
def key (c : SnowflakeS3RestClient) : Call → Bytes
  | getFileHeader filename _ => c.keyOf filename
  | initiateMultipartUpload _ | uploadChunk .. | completeMultipartUpload _
  | abortMultipartUpload _ => c.keyOf c.meta.dstFileName
  | downloadChunk .. => c.keyOf c.meta.srcFileName
  | transferAccelerateConfig _ => []

/-- The chunk the call writes with `write_downloaded_chunk`, for a client of `numOfChunks`
chunks: a single-chunk download writes the content of a 200 response as chunk 0, a chunk
download the content of a 200 or 206 response under its chunk id; no other call writes one. -/
def chunkWritten (numOfChunks : Nat) : Call → Option (Nat × Bytes)
  | downloadChunk chunkId r =>
    if numOfChunks = 1 then (if r.statusCode = 200 then some (0, r.content) else none)
    else if r.statusCode = 200 ∨ r.statusCode = 206 then some (chunkId, r.content) else none
  | _ => none

end Call

namespace SnowflakeS3RestClient

/-- The client after a run of calls. -/
def run (c : SnowflakeS3RestClient) (calls : List Call) : SnowflakeS3RestClient :=
  calls.foldl Call.step c

/-- The requests a run sends, in order, each with its call. -/
def sent (contentType octetStream : PyStr) : SnowflakeS3RestClient → List Call → List (Call × S3Request)
  | _, [] => []
  | c, call :: calls =>
    ((call.request contentType octetStream c).map (call, ·)).toList ++
      sent contentType octetStream (call.step c) calls

/-- `c` with the fields the operations write replaced: the result status of its file, the
upload id, the slots and the downloaded chunks. -/
def written (c : SnowflakeS3RestClient) (resultStatus : Option ResultStatus)
    (uploadId : Option PyStr) (etags : Option (List (Option PyStr))) (downloaded : List (Nat × Bytes)) :
    SnowflakeS3RestClient :=
  { c with meta := { c.meta with resultStatus }, uploadId, etags, downloaded }

/-- A request of a run is the first call's, or one the rest of the run sends. -/
theorem mem_sent {contentType octetStream : PyStr} {c : SnowflakeS3RestClient} {call : Call}
    {calls : List Call} {p : Call × S3Request} :
    p ∈ sent contentType octetStream c (call :: calls) ↔
      (p.1 = call ∧ call.request contentType octetStream c = some p.2) ∨
        p ∈ sent contentType octetStream (call.step c) calls := by
  obtain ⟨call', req⟩ := p
  cases h : call.request contentType octetStream c <;>
    simp [sent, h, eq_comm, and_comm]

/-! ## What one call does -/

variable (c : SnowflakeS3RestClient)

/-- Writing a client's own values back changes nothing. -/
theorem written_self : c.written c.meta.resultStatus c.uploadId c.etags c.downloaded = c := rfl

/-- The probe writes at most the result status. -/
theorem getFileHeader_client (r : Response) :
    ∃ rs, (c.getFileHeader r).client = c.written rs c.uploadId c.etags c.downloaded := by
  unfold getFileHeader
  split_ifs
  · refine ⟨some .uploaded, ?_⟩
    dsimp only
    split <;> rfl
  · exact ⟨some .notFoundFile, rfl⟩
  · exact ⟨c.meta.resultStatus, by split <;> rfl⟩

/-- The initiate call allocates one empty slot per chunk under the upload id its response
hands out, the text of the root's third child, or writes nothing. -/
theorem initiateMultipartUpload_client (r : Response) :
    (c.initiateMultipartUpload r).client = c ∨ ∃ root child, r.document = some root ∧
      root.getChild 2 = .ok child ∧ (c.initiateMultipartUpload r).client =
        c.written c.meta.resultStatus child.text (some (List.replicate c.numOfChunks none))
          c.downloaded := by
  unfold initiateMultipartUpload
  split_ifs
  · cases hd : r.document with
    | none => exact .inl rfl
    | some root =>
      dsimp only
      cases hg : root.getChild 2 with
      | error => exact .inl rfl
      | ok child => exact .inr ⟨root, child, rfl, hg, rfl⟩
  · exact .inl rfl

/-- A chunk download writes at most the result status and the chunk `Call.chunkWritten`
names. -/
theorem downloadChunk_client (i : Nat) (r : Response) :
    ∃ rs, (c.downloadChunk i r).client = c.written rs c.uploadId c.etags
      (c.downloaded ++ ((Call.downloadChunk i r).chunkWritten c.numOfChunks).toList) := by
  rw [downloadChunk, Call.chunkWritten]
  split_ifs
  · exact ⟨_, rfl⟩
  · exact ⟨_, by rw [Option.toList_none, List.append_nil]; rfl⟩
  · exact ⟨_, rfl⟩
  · exact ⟨_, by rw [Option.toList_none, List.append_nil]; rfl⟩

end SnowflakeS3RestClient

open SnowflakeS3RestClient

/-- What one call does to the client: it writes the result status and the chunk
`Call.chunkWritten` names, and either, as an initiate call, allocates one empty slot per
chunk under the upload id its response hands out, or fills slots as a part upload does, or
leaves the upload id and the slots as they were. -/
theorem step_cases (c : SnowflakeS3RestClient) (call : Call) :
    ∃ rs d, d = c.downloaded ++ (call.chunkWritten c.numOfChunks).toList ∧
      ((∃ r root child, call = .initiateMultipartUpload r ∧ r.document = some root ∧
        root.getChild 2 = .ok child ∧
        call.step c = c.written rs child.text (some (List.replicate c.numOfChunks none)) d) ∨
      (∃ p, call.step c = c.written rs c.uploadId (c.etags.map (etagsAfter · p)) d) ∨
      call.step c = c.written rs c.uploadId c.etags d) := by
  have hnil := (List.append_nil c.downloaded).symm
  cases call with
  | getFileHeader _ r =>
    obtain ⟨rs, h⟩ := c.getFileHeader_client r
    exact ⟨rs, _, hnil, .inr (.inr h)⟩
  | initiateMultipartUpload r =>
    rcases c.initiateMultipartUpload_client r with h | ⟨root, child, hd, hg, h⟩
    exacts [⟨_, _, hnil, .inr (.inr (h.trans c.written_self.symm))⟩,
      ⟨_, _, hnil, .inl ⟨r, root, child, rfl, hd, hg, h⟩⟩]
  | uploadChunk chunkId _ r =>
    by_cases hn : c.numOfChunks = 1
    · refine ⟨c.meta.resultStatus, _, hnil, .inr (.inr ?_)⟩
      rw [Call.step, uploadChunk, if_pos hn]
      exact c.written_self.symm
    · exact ⟨_, _, hnil, .inr (.inl ⟨(chunkId, r), c.uploadChunk_client hn (chunkId, r)⟩)⟩
  | completeMultipartUpload _ | abortMultipartUpload _ | transferAccelerateConfig _ =>
    exact ⟨_, _, hnil, .inr (.inr c.written_self.symm)⟩
  | downloadChunk i r =>
    obtain ⟨rs, h⟩ := c.downloadChunk_client i r
    exact ⟨rs, _, rfl, .inr (.inr h)⟩

/-! ## The fields no call writes -/

variable {c : SnowflakeS3RestClient}

/-- `c'` is `c` with at most the fields the operations write changed. -/
def Frame (c c' : SnowflakeS3RestClient) : Prop :=
  ∃ rs u es d, c' = c.written rs u es d

/-- A client frames itself. -/
theorem Frame.refl (c : SnowflakeS3RestClient) : Frame c c :=
  ⟨c.meta.resultStatus, c.uploadId, c.etags, c.downloaded, rfl⟩

/-- Frames compose: what the first keeps, the second keeps too. -/
theorem Frame.trans {c₁ c₂ c₃ : SnowflakeS3RestClient} (h₁₂ : Frame c₁ c₂) (h₂₃ : Frame c₂ c₃) :
    Frame c₁ c₃ := by
  obtain ⟨_, _, _, _, rfl⟩ := h₁₂
  obtain ⟨rs, u, es, d, rfl⟩ := h₂₃
  exact ⟨rs, u, es, d, rfl⟩

/-- One call writes no field but the four. -/
theorem frame_step (c : SnowflakeS3RestClient) (call : Call) : Frame c (call.step c) := by
  obtain ⟨rs, d, -, ⟨_, _, _, _, _, _, h⟩ | ⟨p, h⟩ | h⟩ := step_cases c call <;>
    exact ⟨_, _, _, _, h⟩

/-- A whole run writes no field but the four. -/
theorem frame_run (c : SnowflakeS3RestClient) (calls : List Call) : Frame c (c.run calls) := by
  induction calls generalizing c with
  | nil => exact Frame.refl c
  | cons call calls ih => exact (frame_step c call).trans (ih _)

/-- A client in the frame of `c` has the same endpoint. -/
theorem Frame.endpoint_eq {c' : SnowflakeS3RestClient} (h : Frame c c') : c'.endpoint = c.endpoint := by
  obtain ⟨_, _, _, _, rfl⟩ := h
  rfl

/-- A client in the frame of `c` has the same number of chunks. -/
theorem Frame.numOfChunks_eq {c' : SnowflakeS3RestClient} (h : Frame c c') :
    c'.numOfChunks = c.numOfChunks := by
  obtain ⟨_, _, _, _, rfl⟩ := h
  rfl

/-- A client in the frame of `c` has the same region. -/
theorem Frame.regionName_eq {c' : SnowflakeS3RestClient} (h : Frame c c') :
    c'.regionName = c.regionName := by
  obtain ⟨_, _, _, _, rfl⟩ := h
  rfl

/-- A client in the frame of `c` finds the same key for every call. -/
theorem Frame.key_eq {c' : SnowflakeS3RestClient} (h : Frame c c') (call : Call) :
    call.key c' = call.key c := by
  obtain ⟨_, _, _, _, rfl⟩ := h
  cases call <;> rfl

/-! ## Every request addresses its call's object -/

/-- The request a call sends addresses, as `requests` sends it, the key of the object the
call is about, when that key has no dot segment. -/
theorem Addresses.request_objectKey {contentType octetStream : PyStr}
    (ha : Addresses c contentType octetStream) {call : Call} {req : S3Request}
    (h : call.request contentType octetStream c = some req) (hkey : SigV4.PlainKey (call.key c)) :
    SigV4.objectKey (prepareUrl req.url) = some (call.key c) := by
  cases call <;> simp only [Call.request, Option.some.injEq] at h
  case completeMultipartUpload =>
    cases hr : c.completeMultipartUploadRequest <;> rw [hr] at h <;> cases h
    exact ha.complete hkey _ hr
  case abortMultipartUpload => exact ha.abort hkey _ h
  all_goals subst h
  exacts [ha.probe _ hkey, ha.initiate hkey, ha.upload hkey _ _, ha.download hkey _, ha.accelerate]

/-- Over any run of calls, with any responses, every request the client sends addresses, as
`requests` sends it, the key of the object its call is about, computed from the client as
the run began, when no call's key has a `.` or `..` segment: the upload id, the slots and
the chunks the run writes never move a request to another object. -/
theorem sent_objectKey {host : PyStr} (hhost : IsNetloc host)
    (hend : c.endpoint = "https://".toList ++ host) (contentType octetStream : PyStr)
    (calls : List Call) (hkeys : ∀ call ∈ calls, SigV4.PlainKey (call.key c)) :
    ∀ p ∈ c.sent contentType octetStream calls,
      SigV4.objectKey (prepareUrl p.2.url) = some (p.1.key c) := by
  suffices ∀ c', Frame c c' → ∀ p ∈ c'.sent contentType octetStream calls,
      SigV4.objectKey (prepareUrl p.2.url) = some (p.1.key c) from this c (Frame.refl c)
  induction calls with
  | nil => intro _ _ _ h; cases h
  | cons call calls ih =>
    intro c' hf p hp
    rcases mem_sent.mp hp with ⟨rfl, hreq⟩ | hp
    · have hkey : SigV4.PlainKey (p.1.key c') := by rw [hf.key_eq]; exact hkeys _ (.head _)
      rw [← hf.key_eq]
      exact (requests_objectKey hhost (hf.endpoint_eq.trans hend) _ _).request_objectKey hreq hkey
    · exact ih (fun x hx => hkeys x (.tail _ hx)) _ (hf.trans (frame_step c' call)) p hp

/-- A two-part upload: the initiate call, both parts, then the completion. -/
def twoPartRun : List Call :=
  [.initiateMultipartUpload initiateResponse,
    .uploadChunk 0 [1] (bareResponse 200 (etagHeaders "a".toList)),
    .uploadChunk 1 [2] (bareResponse 200 (etagHeaders "b".toList)),
    .completeMultipartUpload (bareResponse 200 CaseInsensitiveDict.empty)]

theorem sent_objectKey_twoPartRun :
    IsNetloc "b.s3.amazonaws.com".toList ∧
      twoPartClient.endpoint = "https://".toList ++ "b.s3.amazonaws.com".toList ∧
      (∀ call ∈ twoPartRun, SigV4.PlainKey (call.key twoPartClient)) ∧
      ∀ p ∈ twoPartClient.sent "Content-Type".toList "application/octet-stream".toList twoPartRun,
        SigV4.objectKey (prepareUrl p.2.url) = some (p.1.key twoPartClient) :=
  have hhost : IsNetloc "b.s3.amazonaws.com".toList := by decide
  have hkeys : ∀ call ∈ twoPartRun, SigV4.PlainKey (call.key twoPartClient) := by decide
  ⟨hhost, rfl, hkeys, sent_objectKey hhost rfl _ _ _ hkeys⟩

/-- With a `..` segment the probe addresses another object: `a/../b` reaches `b`. -/
example : SigV4.objectKey (prepareUrl (twoPartClient.getFileHeaderRequest "a/../b".toList).url) =
    some (encodeUtf8 "b".toList) := by
  decide

/-! ## One slot per chunk -/

/-- The slots fit the chunks: there are none, or one per chunk. -/
def SlotsFit (c : SnowflakeS3RestClient) : Prop :=
  ∀ es, c.etags = some es → es.length = c.numOfChunks

/-- One call keeps the slots fitting the chunks. -/
theorem slotsFit_step (hc : SlotsFit c) (call : Call) : SlotsFit (call.step c) := by
  obtain ⟨rs, d, -, ⟨_, _, _, _, _, _, h⟩ | ⟨p, h⟩ | h⟩ := step_cases c call <;> rw [h] <;>
    intro es hes
  · cases hes
    exact List.length_replicate _ _
  · obtain ⟨es₀, h₀, rfl⟩ := Option.map_eq_some'.mp hes
    exact (length_etagsAfter es₀ p).trans (hc es₀ h₀)
  · exact hc es hes

/-- A whole run keeps the slots fitting the chunks. -/
theorem slotsFit_run (hc : SlotsFit c) (calls : List Call) : SlotsFit (c.run calls) := by
  induction calls generalizing c with
  | nil => exact hc
  | cons call calls ih => exact ih (slotsFit_step hc call)

/-- What the next completion of `c` does, for `n` chunks: while there are no slots it raises
`TypeError` on `enumerate(None)` before sending anything; otherwise it posts to the upload
id's URL the document of its slots, one `Part` per chunk. -/
def CompletionFits (n : Nat) (c : SnowflakeS3RestClient) : Prop :=
  (c.etags = none ∧ c.completeMultipartUploadRequest = .error .typeError) ∨
    ∃ es : List (Option PyStr), c.etags = some es ∧ es.length = n ∧
      (completeMultipartUploadDocument es).children.length = n ∧
      c.completeMultipartUploadRequest = .ok ⟨c.uploadIdUrl, "POST".toList, none, none,
        some (completeMultipartUploadDocument es).tostring⟩

/-- A client whose slots fit completes as `CompletionFits` says. -/
theorem SlotsFit.completionFits (hc : SlotsFit c) : CompletionFits c.numOfChunks c := by
  unfold CompletionFits completeMultipartUploadRequest
  cases he : c.etags with
  | none => exact .inl ⟨rfl, rfl⟩
  | some es =>
    have hlen := hc es he
    exact .inr ⟨es, rfl, hlen, (completeMultipartUploadDocument_children es).1.trans hlen, rfl⟩

/-- After any run of calls from a client whose slots fit (a fresh client has none), with any
responses, re-initiations and failed part uploads, a completion either raises before it
sends anything, while no upload has been initiated, or sends a document of exactly one part
per chunk. -/
theorem completionFits_run (hc : SlotsFit c) (calls : List Call) :
    CompletionFits c.numOfChunks (c.run calls) := by
  rw [← (frame_run c calls).numOfChunks_eq]
  exact (slotsFit_run hc calls).completionFits

/-- The two-part upload from a fresh client. -/
theorem completionFits_run_twoPartRun :
    SlotsFit twoPartClient ∧ CompletionFits twoPartClient.numOfChunks (twoPartClient.run twoPartRun) :=
  have hc : SlotsFit twoPartClient := fun _ h => Option.noConfusion h
  ⟨hc, completionFits_run hc twoPartRun⟩

/-! ## Chunks a server answers -/

/-- URI-encoding leaves the upload id the client holds as it is (`None` before an
initiate). -/
def UploadIdUnreserved (c : SnowflakeS3RestClient) : Prop :=
  ∀ ch ∈ formatOption c.uploadId, SigV4.unreserved ch = true

/-- The call's response hands out no upload id that URI-encoding changes: only an initiate
response hands one out, as the text of its root's third child. -/
def Call.HandsOutUnreserved : Call → Prop
  | .initiateMultipartUpload r => ∀ root child, r.document = some root →
      root.getChild 2 = .ok child → ∀ ch ∈ formatOption child.text, SigV4.unreserved ch = true
  | _ => True

/-- A call whose response hands out no reserved character keeps the upload id unreserved. -/
theorem uploadIdUnreserved_step (hc : UploadIdUnreserved c) {call : Call}
    (hcall : call.HandsOutUnreserved) : UploadIdUnreserved (call.step c) := by
  obtain ⟨rs, d, -, ⟨r, root, child, rfl, hd, hg, h⟩ | ⟨p, h⟩ | h⟩ := step_cases c call <;>
    rw [h]
  exacts [hcall root child hd hg, hc, hc]

/-- The request a call sends is one the client issues. -/
theorem Call.request_issues {contentType octetStream : PyStr} {call : Call} {req : S3Request}
    (h : call.request contentType octetStream c = some req) : Issues c contentType octetStream req := by
  cases call <;> simp only [Call.request, Option.some.injEq] at h
  case completeMultipartUpload =>
    cases hr : c.completeMultipartUploadRequest <;> rw [hr] at h <;> cases h
    exact .complete hr
  case abortMultipartUpload => exact .abort h
  all_goals subst h
  exacts [.probe _, .initiate, .upload _ _, .download _, .accelerate]

/-- `requests` sends the request of a call as the client wrote it, when the call's key has no
dot segment and the upload id is unreserved. -/
theorem Call.request_prepareUrl {host : PyStr} (hhost : IsNetloc host)
    (hend : c.endpoint = "https://".toList ++ host) (hid : UploadIdUnreserved c)
    {contentType octetStream : PyStr} {call : Call} {req : S3Request}
    (h : call.request contentType octetStream c = some req) (hkey : SigV4.PlainKey (call.key c)) :
    prepareUrl req.url = req.url := by
  have hhash : '#' ∉ formatOption c.uploadId := fun hm => absurd (hid _ hm) (by decide)
  have hupload (hk : SigV4.PlainKey (c.keyOf c.meta.dstFileName)) :
      prepareUrl c.uploadIdUrl = c.uploadIdUrl := by
    rw [uploadIdUrl, List.append_assoc]
    exact c.prepareUrl_objectUrl_query hhost hend hk (List.cons_ne_nil _ _)
      fun hm => (List.mem_append.mp hm).elim (absurd · (by decide)) hhash
  cases call <;> simp only [Call.request, Option.some.injEq] at h
  case completeMultipartUpload =>
    cases hr : c.completeMultipartUploadRequest <;> rw [hr] at h <;> cases h
    unfold completeMultipartUploadRequest at hr
    split at hr <;> cases hr
    exact hupload hkey
  case abortMultipartUpload =>
    unfold abortMultipartUploadRequest at h
    split at h <;> cases h
    exact hupload hkey
  all_goals subst h
  · exact c.prepareUrl_objectUrl hhost hend hkey
  · exact c.prepareUrl_objectUrl_query hhost hend hkey (List.cons_ne_nil _ _) (by decide)
  · unfold uploadChunkRequest
    split
    · exact c.prepareUrl_objectUrl hhost hend hkey
    · refine c.prepareUrl_objectUrl_query hhost hend hkey (List.cons_ne_nil _ _) fun hm => ?_
      simp only [partQuery, List.mem_append] at hm
      rcases hm with ((hm | hm) | hm) | hm
      · exact absurd hm (by decide)
      · exact (isDigit_or_minus_of_mem_reprInt _ hm).elim (absurd · (by decide)) (absurd · (by decide))
      · exact absurd hm (by decide)
      · exact hhash hm
  · unfold downloadChunkRequest
    split <;> exact c.prepareUrl_objectUrl hhost hend hkey
  · exact c.prepareUrl_transferAccelerateConfigRequest hhost hend

/-- Over any run of calls, with any responses, every attempt of every request the client
sends carries a signature the service accepts for the request it sent, with that attempt's
credentials: when the endpoint is `https://` and a host, the content-type name is no
metadata name, and every upload id the client holds or is handed out is left unchanged by
URI-encoding. -/
theorem sent_transmitted_signedWith {host : PyStr} (hhost : IsNetloc host)
    (hend : c.endpoint = "https://".toList ++ host) {contentType : PyStr}
    (hct : ¬ metaPrefix <+: contentType) (hid : UploadIdUnreserved c) (octetStream : PyStr)
    (crypto : Crypto) (calls : List Call) (hcalls : ∀ call ∈ calls, call.HandsOutUnreserved)
    (hkeys : ∀ call ∈ calls, SigV4.PlainKey (call.key c)) :
    ∀ p ∈ c.sent contentType octetStream calls, ∀ as, ∀ q ∈ p.2.transmitted crypto c.regionName as,
      ∃ names, SignedWith crypto (q.2.toHttpRequest p.2.verb) names
        ((q.1.creds.get? "AWS_KEY_ID".toList).getD [])
        ((q.1.creds.get? "AWS_SECRET_KEY".toList).getD []) c.regionName := by
  induction calls generalizing c with
  | nil => intro _ h; cases h
  | cons call calls ih =>
    intro p hp
    rcases mem_sent.mp hp with ⟨-, hreq⟩ | hp
    · exact issues_transmitted_signedWith hhost hend hid hct crypto (Call.request_issues hreq)
        (Call.request_prepareUrl hhost hend hid hreq (hkeys _ (.head _)))
    · have hf := frame_step c call
      rw [← hf.regionName_eq]
      exact ih (hf.endpoint_eq.trans hend) (uploadIdUnreserved_step hid (hcalls call (.head _)))
        (fun x hx => hcalls x (.tail _ hx))
        (fun x hx => by rw [hf.key_eq]; exact hkeys x (.tail _ hx)) p hp

/-- The two-part upload, signed with the transparent hash functions. -/
theorem sent_transmitted_signedWith_twoPartRun :
    IsNetloc "b.s3.amazonaws.com".toList ∧
      twoPartClient.endpoint = "https://".toList ++ "b.s3.amazonaws.com".toList ∧
      ¬ metaPrefix <+: "Content-Type".toList ∧ UploadIdUnreserved twoPartClient ∧
      (∀ call ∈ twoPartRun, call.HandsOutUnreserved) ∧
      (∀ call ∈ twoPartRun, SigV4.PlainKey (call.key twoPartClient)) ∧
      ∀ p ∈ twoPartClient.sent "Content-Type".toList "application/octet-stream".toList twoPartRun,
        ∀ as, ∀ q ∈ p.2.transmitted transparentCrypto twoPartClient.regionName as,
          ∃ names, SignedWith transparentCrypto (q.2.toHttpRequest p.2.verb) names
            ((q.1.creds.get? "AWS_KEY_ID".toList).getD [])
            ((q.1.creds.get? "AWS_SECRET_KEY".toList).getD []) twoPartClient.regionName :=
  have hhost : IsNetloc "b.s3.amazonaws.com".toList := by decide
  have hct : ¬ metaPrefix <+: "Content-Type".toList := by decide
  have hid : UploadIdUnreserved twoPartClient := by unfold UploadIdUnreserved; decide
  have hcalls : ∀ call ∈ twoPartRun, call.HandsOutUnreserved := by
    intro call hcall
    simp only [twoPartRun, List.mem_cons, List.mem_singleton, List.not_mem_nil, or_false] at hcall
    rcases hcall with rfl | rfl | rfl | rfl
    · intro root child hd hg
      cases hd
      cases hg
      decide
    all_goals trivial
  have hkeys : ∀ call ∈ twoPartRun, SigV4.PlainKey (call.key twoPartClient) := by decide
  ⟨hhost, rfl, hct, hid, hcalls, hkeys,
    sent_transmitted_signedWith hhost rfl hct hid _ _ _ hcalls hkeys⟩

end SnowflakeStorage.S3
