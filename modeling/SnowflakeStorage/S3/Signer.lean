import SnowflakeStorage.Python.Dict
import SnowflakeStorage.Python.Url

/-!
# The static signing methods of `SnowflakeS3RestClient`

`_sign_bytes`, `_hash_bytes` and their hexadecimal variants, and the three builders of
Signature Version 4 that `_send_request_with_authentication_and_retry` chains: the header
block and signed-header list, the canonical request, and the string to sign.  SHA-256 and
HMAC-SHA-256 are the fields of `Crypto`, any pair of functions, so what is proved over them
holds for the real primitives.  The header builder sorts the names as given but looks them
up lower-cased (`Proofs/Canonical.lean`).
-/

namespace SnowflakeStorage

namespace S3

open PyStr

/-- SHA-256 and HMAC-SHA-256, as uninterpreted functions. -/
structure Crypto where
  sha256 : Bytes → Bytes
  hmacSha256 : (key : Bytes) → (msg : Bytes) → Bytes

/-- The lower-case hexadecimal digit of `n < 16`. -/
def hexLower (n : Nat) : Char := if n < 10 then Char.ofNat (48 + n) else Char.ofNat (87 + n)

/-- `binascii.hexlify(b).decode()`: two lower-case hexadecimal digits per byte. -/
def hexlify (b : Bytes) : PyStr := b.flatMap fun x => [hexLower (x.toNat / 16), hexLower (x.toNat % 16)]

variable (crypto : Crypto)

/-- `_sign_bytes(secret_key, _input)`: HMAC-SHA-256 of the UTF-8 encoding of `_input`. -/
def signBytes (secretKey : Bytes) (input : PyStr) : Bytes :=
  crypto.hmacSha256 secretKey (encodeUtf8 input)

/-- `_sign_bytes_hex(secret_key, _input)`. -/
def signBytesHex (secretKey : Bytes) (input : PyStr) : PyStr :=
  hexlify (signBytes crypto secretKey input)

/-- `_hash_bytes(_input)`: SHA-256. -/
def hashBytes (input : Bytes) : Bytes := crypto.sha256 input

/-- `_hash_bytes_hex(_input)`. -/
def hashBytesHex (input : Bytes) : PyStr := hexlify (hashBytes crypto input)

/-- A header value as the signer receives it: a string, a list of strings, or the `None`
that `urlparse(url).hostname` gives for a URL without a host. -/
inductive HeaderValue where
  | str (s : PyStr)
  | list (l : List PyStr)
  | none
  deriving DecidableEq, Repr

/-- One line of the header block, from the loop of
`_construct_canonicalized_and_signed_headers`: a list is comma-joined, a `None` has no
`strip` and raises. -/
def canonicalLine (k : PyStr) : HeaderValue → Except PyError PyStr
  | .str v => .ok (strip (replace '\n' ' ' k) ++ ':' :: collapseSpaces (strip v))
  | .list v => .ok (strip (replace '\n' ' ' k) ++ ':' :: collapseSpaces (strip (",".toList.intercalate v)))
  | .none => .error .attributeError

/-- `_construct_canonicalized_and_signed_headers(headers)`. -/
def constructCanonicalizedAndSignedHeaders (headers : PyDict HeaderValue) :
    Except PyError (PyStr × PyStr) := do
  let lowKeyDict := PyDict.ofList (headers.entries.map fun e => (lower e.1, e.2))
  let sortedHeaders := sortOn id headers.keys
  let res ← sortedHeaders.mapM fun k => (lowKeyDict.getItem k).map fun v => (k, v)
  let lines ← res.mapM fun e => canonicalLine e.1 e.2
  let ans := "\n".toList.intercalate lines
  return (if ans.isEmpty then ans else ans ++ "\n".toList, ";".toList.intercalate sortedHeaders)

/-- The canonical query string of `_construct_canonical_request_and_signed_headers`: the
`&`-separated components, each split at its first `=`, sorted by key alone, joined back. -/
def canonicalQueryString (urlQuery : PyStr) : PyStr :=
  let kv : List (PyStr × PyStr) :=
    if urlQuery.isEmpty then []
    else sortOn Prod.fst ((urlQuery.splitOn '&').map fun e => ((partition '=' e).1, (partition '=' e).2.2))
  "&".toList.intercalate (kv.map fun e => e.1 ++ '=' :: e.2)

/-- `_construct_canonical_request_and_signed_headers(verb, canonical_uri_parameter,
url_query, canonical_headers, payload)`. -/
def constructCanonicalRequestAndSignedHeaders (verb canonicalUriParameter urlQuery : PyStr)
    (canonicalHeaders : PyDict HeaderValue) (payload : Bytes) : Except PyError (PyStr × PyStr) := do
  let (block, signedHeaders) ← constructCanonicalizedAndSignedHeaders canonicalHeaders
  return ("\n".toList.intercalate
      [verb, if canonicalUriParameter.isEmpty then "/".toList else canonicalUriParameter,
        canonicalQueryString urlQuery, block, signedHeaders, lower (hashBytesHex crypto payload)],
    signedHeaders)

/-- `_construct_string_to_sign(region_name, service_name, amzdate, canonical_request_hash)`:
the string to sign and the credential scope. -/
def constructStringToSign (regionName serviceName amzdate canonicalRequestHash : PyStr) :
    PyStr × PyStr :=
  let scope := amzdate.take 8 ++ '/' :: regionName ++ '/' :: serviceName ++ "/aws4_request".toList
  ("\n".toList.intercalate ["AWS4-HMAC-SHA256".toList, amzdate, scope, canonicalRequestHash], scope)

theorem hexLower_toLower : ∀ n < 16, (hexLower n).toLower = hexLower n := by decide

/-- A hexadecimal digest is already lower-case. -/
@[simp] theorem lower_hexlify (b : Bytes) : lower (hexlify b) = hexlify b := by
  have h : ∀ x : UInt8, ([hexLower (x.toNat / 16), hexLower (x.toNat % 16)]).map Char.toLower =
      [hexLower (x.toNat / 16), hexLower (x.toNat % 16)] := fun x => by
    have hx : x.toNat < 256 := x.toNat_lt_size
    simp [hexLower_toLower _ (by omega : x.toNat / 16 < 16),
      hexLower_toLower _ (by omega : x.toNat % 16 < 16)]
  simp only [lower, hexlify, List.map_flatMap, h]

@[simp] theorem lower_hashBytesHex (b : Bytes) :
    lower (hashBytesHex crypto b) = hexlify (crypto.sha256 b) :=
  lower_hexlify _

@[simp] theorem lower_signBytesHex (key : Bytes) (input : PyStr) :
    lower (signBytesHex crypto key input) = hexlify (crypto.hmacSha256 key (encodeUtf8 input)) :=
  lower_hexlify _

end S3

end SnowflakeStorage
