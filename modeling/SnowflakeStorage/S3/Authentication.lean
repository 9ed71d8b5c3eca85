import SnowflakeStorage.S3.Client

/-!
# `_send_request_with_authentication_and_retry`

The method fills in its defaults, adds `x-amz-content-sha256` to `x_amz_headers` once, and
hands the dispatcher the closure `generate_authenticated_url_and_args_v4`, which the
dispatcher calls again on every attempt.  Each call reads the clock and the credentials as
they are at that moment, writes `x-amz-date`, `x-amz-security-token` and `host` into
`x_amz_headers`, signs, copies `x_amz_headers` into `headers`, sets `Authorization`, and
returns the URL and `rest_args`.

The two dictionaries are captured by the closure and mutated in place, so they carry over
from one attempt to the next: that is the state `SigningState`.  What an attempt reads from
outside is an `Attempt`: the formatted clock and the credential dictionary.
`transmitted` runs the closure over any sequence of attempts, as long as they return.
-/

namespace SnowflakeStorage.S3

open PyStr Url

/-- The dictionaries the closure mutates: `x_amz_headers` and `headers`. -/
structure SigningState where
  xAmzHeaders : PyDict HeaderValue
  headers : PyDict HeaderValue

/-- What one attempt reads from outside: `datetime.utcnow().strftime("%Y%m%dT%H%M%SZ")` and
`self.credentials.creds`. -/
structure Attempt where
  amzdate : PyStr
  creds : PyDict PyStr

/-- The `(url, rest_args)` an attempt returns: the URL, `rest_args["headers"]`, and
`rest_args["data"]` when present. -/
structure RestArgs where
  url : PyStr
  headers : PyDict HeaderValue
  data : Option Bytes

namespace S3Request

variable (crypto : Crypto) (regionName : PyStr) (request : S3Request)

/-- `data`, or `b""` when the caller passed none. -/
def body : Bytes := request.data.getD []

/-- The dictionaries before the first attempt: the caller's (or `{}`), with the payload
hash added to `x_amz_headers`. -/
def initialSigningState : SigningState :=
  ⟨(request.xAmzHeaders.getD PyDict.empty).insert "x-amz-content-sha256".toList
      (.str (hashBytesHex crypto request.body)),
    request.headers.getD PyDict.empty⟩

/-- `urlparse(url).hostname` as the value of the `host` header. -/
def hostValue : HeaderValue :=
  match hostname (urlparse request.url) with
  | some h => .str h
  | none => .none

/-- `x_amz_headers` after the three assignments that open the closure. -/
def stampedHeaders (xAmz : PyDict HeaderValue) (a : Attempt) : PyDict HeaderValue :=
  ((xAmz.insert "x-amz-date".toList (.str a.amzdate)).insert "x-amz-security-token".toList
    (.str ((a.creds.get? "AWS_TOKEN".toList).getD []))).insert "host".toList request.hostValue

/-- The names the three stamps write. -/
def stampNames : List PyStr := ["x-amz-date", "x-amz-security-token", "host"].map String.toList

theorem get?_stampedHeaders (xAmz : PyDict HeaderValue) (a : Attempt) {k : PyStr}
    (hk : k ∉ stampNames) : (request.stampedHeaders xAmz a).get? k = xAmz.get? k := by
  simp only [stampNames, List.map_cons, List.map_nil, List.mem_cons, List.not_mem_nil, or_false,
    not_or] at hk
  simp only [stampedHeaders, PyDict.get?_insert, if_neg hk.1, if_neg hk.2.1, if_neg hk.2.2]

theorem get?_stampedHeaders_date (xAmz : PyDict HeaderValue) (a : Attempt) :
    (request.stampedHeaders xAmz a).get? "x-amz-date".toList = some (.str a.amzdate) := by
  simp only [stampedHeaders, PyDict.get?_insert]
  rfl

theorem mem_keys_stampedHeaders {xAmz : PyDict HeaderValue} {a : Attempt} {k : PyStr} :
    k ∈ (request.stampedHeaders xAmz a).keys ↔ k ∈ xAmz.keys ∨ k ∈ stampNames := by
  simp only [PyDict.mem_keys_iff_get?_isSome]
  by_cases hk : k ∈ stampNames
  · simp only [hk, or_true, iff_true]
    simp only [stampNames, List.map_cons, List.map_nil, List.mem_cons, List.not_mem_nil,
      or_false] at hk
    rcases hk with rfl | rfl | rfl <;> simp [stampedHeaders]
  · simp [get?_stampedHeaders request xAmz a hk, hk]

/-- `parsed_url.path + (f";{parsed_url.params}" if parsed_url.params else "")`. -/
def canonicalUriParameter : PyStr :=
  let p := urlparse request.url
  p.path ++ if p.params.isEmpty then [] else ';' :: p.params

/-- The four chained `_sign_bytes` that derive the signing key. -/
def signingKey (secret shortAmzdate : PyStr) : Bytes :=
  let kDate := signBytes crypto (encodeUtf8 ("AWS4".toList ++ secret)) shortAmzdate
  let kRegion := signBytes crypto kDate regionName
  let kService := signBytes crypto kRegion "s3".toList
  signBytes crypto kService "aws4_request".toList

/-- The closure from the canonical request on: `_construct_string_to_sign`, the signing
key, the signature and the text of the header. -/
def authorizationHeader (a : Attempt) (canonicalRequest signedHeaders secret keyId : PyStr) :
    PyStr :=
  let (stringToSign, scope) := constructStringToSign regionName "s3".toList a.amzdate
    (lower (hashBytesHex crypto (encodeUtf8 canonicalRequest)))
  let signature :=
    lower (signBytesHex crypto (signingKey crypto regionName secret (a.amzdate.take 8)) stringToSign)
  "AWS4-HMAC-SHA256 ".toList ++ "Credential=".toList ++ keyId ++ '/' :: scope ++ ", ".toList ++
    "SignedHeaders=".toList ++ signedHeaders ++ ", ".toList ++ "Signature=".toList ++ signature

/-- `generate_authenticated_url_and_args_v4()` on attempt `a`, from state `st`.  The secret
key is read before the key id, as in the source; the pure steps between are in
`authorizationHeader`. -/
def generateAuthenticatedUrlAndArgsV4 (a : Attempt) (st : SigningState) :
    Except PyError (RestArgs × SigningState) := do
  let xAmz := request.stampedHeaders st.xAmzHeaders a
  let (canonicalRequest, signedHeaders) ← constructCanonicalRequestAndSignedHeaders crypto
    request.verb request.canonicalUriParameter (urlparse request.url).query xAmz request.body
  let secret ← a.creds.getItem "AWS_SECRET_KEY".toList
  let keyId ← a.creds.getItem "AWS_KEY_ID".toList
  let headers := (st.headers.update xAmz).insert "Authorization".toList
    (.str (authorizationHeader crypto regionName a canonicalRequest signedHeaders secret keyId))
  return (⟨request.url, headers, if request.body.isEmpty then none else some request.body⟩,
    ⟨xAmz, headers⟩)

/-- What an attempt that returns did: it built the canonical request from the stamped
headers, read both credentials, and sent `headers` updated with the stamped headers and
the new `Authorization`, which it also keeps for the next attempt. -/
theorem generateAuthenticatedUrlAndArgsV4_eq_ok {a : Attempt} {st : SigningState}
    {r : RestArgs × SigningState}
    (h : request.generateAuthenticatedUrlAndArgsV4 crypto regionName a st = .ok r) :
    ∃ canonicalRequest signedHeaders secret keyId,
      constructCanonicalRequestAndSignedHeaders crypto request.verb request.canonicalUriParameter
          (urlparse request.url).query (request.stampedHeaders st.xAmzHeaders a) request.body =
        .ok (canonicalRequest, signedHeaders) ∧
      a.creds.get? "AWS_SECRET_KEY".toList = some secret ∧
      a.creds.get? "AWS_KEY_ID".toList = some keyId ∧
      r = (⟨request.url, (st.headers.update (request.stampedHeaders st.xAmzHeaders a)).insert
            "Authorization".toList (.str (authorizationHeader crypto regionName a canonicalRequest
              signedHeaders secret keyId)),
          if request.body.isEmpty then none else some request.body⟩,
        ⟨request.stampedHeaders st.xAmzHeaders a,
          (st.headers.update (request.stampedHeaders st.xAmzHeaders a)).insert
            "Authorization".toList (.str (authorizationHeader crypto regionName a canonicalRequest
              signedHeaders secret keyId))⟩) := by
  simp only [generateAuthenticatedUrlAndArgsV4, except_bind_eq_ok] at h
  obtain ⟨⟨canonicalRequest, signedHeaders⟩, hc, secret, hs, keyId, hk, hr⟩ := h
  exact ⟨canonicalRequest, signedHeaders, secret, keyId, hc, PyDict.getItem_eq_ok.mp hs,
    PyDict.getItem_eq_ok.mp hk, (Except.ok.inj hr).symm⟩

/-- The attempts that return, from state `st`, each with what it returned. -/
def transmittedFrom : SigningState → List Attempt → List (Attempt × RestArgs)
  | _, [] => []
  | st, a :: as =>
    match generateAuthenticatedUrlAndArgsV4 crypto regionName request a st with
    | .ok (args, st') => (a, args) :: transmittedFrom st' as
    | .error _ => []

/-- The attempts of one call of `_send_request_with_authentication_and_retry`. -/
def transmitted (as : List Attempt) : List (Attempt × RestArgs) :=
  request.transmittedFrom crypto regionName (request.initialSigningState crypto) as

end S3Request

end SnowflakeStorage.S3
