import SnowflakeStorage.S3.Client

/-!
# Object metadata: written by the upload, read back by the probe

`_prepare_file_metadata` puts the content digest and, for an encrypted file, the key, the
iv and the material description into `x-amz-meta-` headers of the single-shot PUT (one
chunk) or of the initiate POST (several chunks).  The object store keeps them and returns
them on a HEAD request, where `get_file_header` reads them back through the
case-insensitive headers of the response.

The probe rebuilds the encryption metadata only when the key header is a non-empty
string, so the round trip is exact for no encryption metadata and for a key, an iv and a
material description that are strings with a non-empty key.  `Content-Length` is read with
`int()`, which inverts `str()` on every natural number (`toInt_reprNat`).
-/

namespace SnowflakeStorage.S3

open PyStr

/-- The text the object store keeps for a header value. -/
def headerText : HeaderValue → Option PyStr
  | .str s => some s
  | _ => none

@[simp] theorem headerText_headerOfOption (o : Option PyStr) :
    headerText (SnowflakeS3RestClient.headerOfOption o) = o := by
  cases o <;> rfl

namespace SnowflakeS3RestClient

variable (c : SnowflakeS3RestClient)

/-- The metadata as the object store keeps it, name by name: the digest always, the three
encryption entries as the encryption metadata has them. -/
theorem storedMetadata :
    (c.prepareFileMetadata.get? (metaPrefix ++ sfcDigest)).bind headerText = some c.meta.sha256Digest ∧
      (c.prepareFileMetadata.get? (metaPrefix ++ amzKey)).bind headerText =
        c.encryptionMetadata.bind EncryptionMetadata.key ∧
      (c.prepareFileMetadata.get? (metaPrefix ++ amzIv)).bind headerText =
        c.encryptionMetadata.bind EncryptionMetadata.iv ∧
      (c.prepareFileMetadata.get? (metaPrefix ++ amzMatdesc)).bind headerText =
        c.encryptionMetadata.bind EncryptionMetadata.matdesc := by
  cases he : c.encryptionMetadata with
  | none =>
      have hentries : c.prepareFileMetadata.entries =
          [(metaPrefix ++ sfcDigest, .str c.meta.sha256Digest)] := by
        simp only [prepareFileMetadata, he]
        rfl
      simp only [PyDict.get?, hentries]
      exact ⟨rfl, rfl, rfl, rfl⟩
  | some e =>
      have hentries : c.prepareFileMetadata.entries =
          [(metaPrefix ++ sfcDigest, .str c.meta.sha256Digest),
            (metaPrefix ++ amzIv, headerOfOption e.iv), (metaPrefix ++ amzKey, headerOfOption e.key),
            (metaPrefix ++ amzMatdesc, headerOfOption e.matdesc)] := by
        simp only [prepareFileMetadata, he]
        rfl
      simp only [PyDict.get?, hentries]
      exact ⟨rfl, headerText_headerOfOption _, headerText_headerOfOption _,
        headerText_headerOfOption _⟩

end SnowflakeS3RestClient

/-- If the probe's response has status 200, carries back the metadata of the upload request
(the single-shot PUT of a one-chunk upload, or the initiate POST) as the object store
keeps it, and has `Content-Length` `n`, then `get_file_header` returns the digest, `n` and
the encryption metadata that were sent: for none, or for a key, an iv and a material
description that are strings with a non-empty key. -/
theorem getFileHeader_roundTrip (c probe : SnowflakeS3RestClient) (contentType octetStream : PyStr)
    {req : S3Request}
    (hreq : (c.numOfChunks = 1 ∧ ∃ chunkId chunk,
        req = c.uploadChunkRequest contentType octetStream chunkId chunk) ∨
      req = c.initiateMultipartUploadRequest contentType octetStream)
    (he : c.encryptionMetadata = none ∨
      ∃ k i m, c.encryptionMetadata = some ⟨some k, some i, some m⟩ ∧ k ≠ [])
    {r : Response} (h200 : r.statusCode = 200)
    (hstored : ∀ k ∈ SnowflakeS3RestClient.metadataNames,
      r.headers.get? k = ((req.xAmzHeaders.getD PyDict.empty).get? k).bind headerText)
    {n : Nat} (hlen : r.headers.get? "Content-Length".toList = some (reprNat n)) :
    (probe.getFileHeader r).result = .ok (some ⟨some c.meta.sha256Digest, n, c.encryptionMetadata⟩) := by
  have hsent : req.xAmzHeaders = some c.prepareFileMetadata := by
    rcases hreq with ⟨h1, _, _, rfl⟩ | rfl
    · simp only [SnowflakeS3RestClient.uploadChunkRequest, if_pos h1]
    · rfl
  obtain ⟨hdigest, hkey, hiv, hmatdesc⟩ := c.storedMetadata
  have hget : ∀ k ∈ SnowflakeS3RestClient.metadataNames,
      r.headers.get? k = (c.prepareFileMetadata.get? k).bind headerText := by
    simpa only [hsent, Option.getD_some] using hstored
  have hencryption :
      SnowflakeS3RestClient.probedEncryptionMetadata r.headers = c.encryptionMetadata := by
    rw [SnowflakeS3RestClient.probedEncryptionMetadata, hget _ (by decide), hkey]
    rcases he with he | ⟨k, i, m, he, hk⟩
    · rw [he]
      rfl
    · rw [hget _ (by decide), hget _ (by decide), hiv, hmatdesc, he]
      simp [SnowflakeS3RestClient.truthyOption, hk]
  simp only [SnowflakeS3RestClient.getFileHeader, if_pos h200, SnowflakeS3RestClient.intOfOption,
    hlen, toInt_reprNat, hget _ (by decide : metaPrefix ++ sfcDigest ∈ _), hdigest, hencryption]

/-- A one-chunk upload with encryption metadata. -/
def encryptedClient : SnowflakeS3RestClient where
  meta := ⟨"f".toList, "f".toList, "d1".toList, none⟩
  regionName := "r".toList
  s3location := ⟨"b".toList, []⟩
  endpoint := "https://b.s3.amazonaws.com".toList
  chunkSize := 8
  numOfChunks := 1
  encryptionMetadata := some ⟨some "K".toList, some "I".toList, some "M".toList⟩
  uploadId := none
  etags := none
  downloaded := []

/-- The HEAD response for it, the header names in another case. -/
def probeResponse : Response where
  statusCode := 200
  headers := ⟨[("X-Amz-Meta-Sfc-Digest".toList, "d1".toList), ("X-Amz-Meta-X-Amz-Key".toList, "K".toList),
    ("X-Amz-Meta-X-Amz-Iv".toList, "I".toList), ("X-Amz-Meta-X-Amz-Matdesc".toList, "M".toList),
    ("Content-Length".toList, "3".toList)], by decide⟩
  text := []
  content := []
  document := none
  blank_no_document _ := rfl

theorem getFileHeader_roundTrip_encrypted :
    probeResponse.statusCode = 200 ∧
      (encryptedClient.getFileHeader probeResponse).result =
        .ok (some ⟨some "d1".toList, 3, encryptedClient.encryptionMetadata⟩) :=
  ⟨rfl, getFileHeader_roundTrip encryptedClient encryptedClient "Content-Type".toList
    "application/octet-stream".toList (.inl ⟨rfl, 0, [1, 2, 3], rfl⟩) (.inr ⟨_, _, _, rfl, by decide⟩)
    rfl (by decide) (show probeResponse.headers.get? "Content-Length".toList = some (reprNat 3) from rfl)⟩

end SnowflakeStorage.S3
