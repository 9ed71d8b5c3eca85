import SnowflakeStorage.S3.Authentication
import SnowflakeStorage.Proofs.Canonical

/-!
# The client's signature against the reference

Each attempt of `generate_authenticated_url_and_args_v4` is compared with what the service
computes from the request it receives (`Reference/SigV4.lean`).

The header half always agrees.  The closure signs exactly the keys of `x_amz_headers`,
which are lower-case names, and copies them into `headers`, so the service reads the same
values back; `x-amz-content-sha256` is put there once and never overwritten by the
stamps.  This holds on every attempt of a run, whatever the clock and the credentials do
between attempts, because the two dictionaries the closure keeps keep the invariant
`SigningState.Inv`.

The URL half agrees when `requests` sends the URL as the closure returned it (its path
has no `.` or `..` segment) and the URL is already in canonical form (`CanonicalUrl`): the
client signs the path and the query as they stand, while the service decodes and
re-encodes them.  Every path the client builds comes out of `quote` and is canonical, but
the upload id goes into the query unencoded, so a part upload, the completion and the
abort are signed over a different query string than the service's whenever the upload
id has a character outside `A-Z a-z 0-9 - . _ ~`.

Strategy: `generateAuthenticatedUrlAndArgsV4_eq_ok` says what an attempt that returns did;
`canonicalRequest_eq_reference` and `authorizationHeader_eq_reference` compare its two
halves with the reference; `transmittedFrom_signedWith` runs the invariant over the
attempts.  `clientRequest_canonicalUrl` covers the client's requests, and
`partUpload_signature_mismatch` is a part upload that the service rejects.
-/

namespace SnowflakeStorage.S3

open PyStr Url
open scoped List

/-! ## What the service checks -/

/-- The request an attempt puts on the wire: its verb, the URL the closure returned as
`requests` prepares it, and the headers and body the closure returned. -/
def RestArgs.toHttpRequest (verb : PyStr) (args : RestArgs) : SigV4.HttpRequest :=
  ⟨verb, prepareUrl args.url, args.headers, args.data.getD []⟩

/-- The headers every request of the client must sign. -/
def requiredSignedHeaders : List PyStr :=
  ["host", "x-amz-content-sha256", "x-amz-date", "x-amz-security-token"].map String.toList

/-- A request the service accepts as signed with `keyId` and `secret` for `region`: its
`Authorization` is the reference signature over `names`; each name is a header that was
sent; the required headers and every `x-amz-meta-` header sent are among the names; and
`x-amz-content-sha256` is the hash of the body. -/
structure SignedWith (crypto : Crypto) (req : SigV4.HttpRequest) (names : List PyStr)
    (keyId secret region : PyStr) : Prop where
  authorization : req.headers.get? "Authorization".toList =
    some (.str (SigV4.authorization crypto req names keyId secret region "s3".toList))
  sent : ∀ n ∈ names, n ∈ req.headers.keys
  required : ∀ n ∈ requiredSignedHeaders, n ∈ names
  metadata : ∀ n ∈ req.headers.keys, metaPrefix <+: n → n ∈ names
  contentHash : req.headers.get? "x-amz-content-sha256".toList =
    some (.str (hexlify (crypto.sha256 req.body)))

/-- A query whose names and values URI-encoding leaves unchanged and whose names are
pairwise distinct. -/
def CanonicalQuery (q : PyStr) : Prop :=
  (∀ e ∈ queryComponents q,
    SigV4.uriEncode false (partition '=' e).1 = (partition '=' e).1 ∧
      SigV4.uriEncode false (partition '=' e).2.2 = (partition '=' e).2.2) ∧
    ((queryComponents q).map queryKey).Nodup

instance (q : PyStr) : Decidable (CanonicalQuery q) := inferInstanceAs (Decidable (_ ∧ _))

/-- A URL the service reads back as the client wrote it: no `;params`, a path that
URI-encoding leaves unchanged, and a canonical query. -/
structure CanonicalUrl (url : PyStr) : Prop where
  params : (urlparse url).params = []
  path : SigV4.uriEncode true (urlparse url).path = (urlparse url).path
  query : CanonicalQuery (urlparse url).query

/-! ## The canonical request -/

section CanonicalRequest

variable {url : PyStr} (hurl : CanonicalUrl url)
include hurl

theorem canonicalUri_eq_reference :
    (if (SigV4.urlPath url).isEmpty then "/".toList else SigV4.urlPath url) =
      SigV4.canonicalUri url := by
  have hp : SigV4.urlPath url = (urlparse url).path := by simp [SigV4.urlPath, hurl.params]
  rw [SigV4.canonicalUri, hp, hurl.path]
  cases (urlparse url).path <;> rfl

theorem canonicalQueryString_eq_reference :
    canonicalQueryString (urlparse url).query = SigV4.canonicalQuery url := by
  set comps := queryComponents (urlparse url).query
  have hparams : SigV4.queryParameters url =
      comps.map fun e => ((partition '=' e).1, (partition '=' e).2.2) :=
    List.map_congr_left fun e he => by rw [(hurl.query.1 e he).1, (hurl.query.1 e he).2]
  have hkeys : ((comps.map fun e => ((partition '=' e).1, (partition '=' e).2.2)).map
      Prod.fst).Nodup := by
    simpa only [List.map_map, Function.comp_def, partition_fst] using hurl.query.2
  have hsort := sortOn_congr (sortOn_perm Prod.snd _)
    (((sortOn_perm Prod.snd _).map Prod.fst).nodup_iff.mpr hkeys)
  rw [SigV4.canonicalQuery, hparams, hsort, canonicalQueryString]
  by_cases hq : (urlparse url).query.isEmpty <;> simp [comps, queryComponents, hq]

end CanonicalRequest

/-- The reference's canonical headers over the sorted names of `xAmz`, for a request that
sent every entry of `xAmz`, are the client's header block. -/
theorem canonicalHeaders_eq_canonicalBlock (req : SigV4.HttpRequest) (xAmz : PyDict HeaderValue)
    (hsent : ∀ e ∈ xAmz.entries, req.headers.get? e.1 = some e.2) :
    SigV4.canonicalHeaders req ((sortOn Prod.fst xAmz.entries).map Prod.fst) =
      canonicalBlock (sortOn Prod.fst xAmz.entries) := by
  rw [SigV4.canonicalHeaders, canonicalBlock, List.map_map]
  congr 1
  refine List.map_congr_left fun e he => ?_
  simp [hsent e ((sortOn_perm _ _).subset he)]

/-- `"\n".join` puts a newline between each two lines. -/
theorem intercalate_newline_cons (a b : PyStr) (l : List PyStr) :
    "\n".toList.intercalate (a :: b :: l) = a ++ '\n' :: "\n".toList.intercalate (b :: l) := by
  rw [intercalate_cons_cons, List.append_assoc]
  rfl

theorem intercalate_newline (a b c d e f : PyStr) :
    "\n".toList.intercalate [a, b, c, d, e, f] =
      a ++ '\n' :: b ++ '\n' :: c ++ '\n' :: d ++ '\n' :: e ++ '\n' :: f := by
  simp only [intercalate_newline_cons, intercalate_singleton, List.append_assoc, List.cons_append]

/-- When the client's canonical request is built over a canonical URL and lower-case header
names, it is the reference's canonical request of any request that sent those headers,
signed over their sorted names. -/
theorem canonicalRequest_eq_reference (crypto : Crypto) (req : SigV4.HttpRequest)
    (hurl : CanonicalUrl req.url) {xAmz : PyDict HeaderValue}
    (hnames : ∀ k ∈ xAmz.keys, lower k = k ∧ IsHeaderName k)
    (hsent : ∀ e ∈ xAmz.entries, req.headers.get? e.1 = some e.2) {creq signed : PyStr}
    (h : constructCanonicalRequestAndSignedHeaders crypto req.verb (SigV4.urlPath req.url)
      (urlparse req.url).query xAmz req.body = .ok (creq, signed)) :
    creq = SigV4.canonicalRequest crypto req (sortOn id xAmz.keys) ∧
      signed = ";".toList.intercalate (sortOn id xAmz.keys) := by
  have hlow : ∀ k ∈ xAmz.keys, lower k = k := fun k hk => (hnames k hk).1
  obtain ⟨⟨block, signed'⟩, hc, hr⟩ := except_bind_eq_ok.mp h
  have hval := ne_none_of_constructCanonicalizedAndSignedHeaders_ok xAmz hlow hc
  rw [constructCanonicalizedAndSignedHeaders_of_lower xAmz hlow (fun k hk => (hnames k hk).2)
    hval] at hc
  cases hc
  cases hr
  refine ⟨?_, by rw [PyDict.sortOn_keys]⟩
  rw [PyDict.sortOn_keys, SigV4.canonicalRequest, canonicalHeaders_eq_canonicalBlock req xAmz hsent,
    canonicalUri_eq_reference hurl, canonicalQueryString_eq_reference hurl, lower_hashBytesHex,
    intercalate_newline]

/-- From the reference's canonical request over `names`, and with the request's
`x-amz-date` the attempt's clock, the client's `Authorization` is the reference's. -/
theorem authorizationHeader_eq_reference (crypto : Crypto) (regionName : PyStr) (a : Attempt)
    (req : SigV4.HttpRequest) (names : List PyStr) (secret keyId : PyStr)
    (hdate : SigV4.amzDate req = a.amzdate) :
    S3Request.authorizationHeader crypto regionName a (SigV4.canonicalRequest crypto req names)
        (";".toList.intercalate names) secret keyId =
      SigV4.authorization crypto req names keyId secret regionName "s3".toList := by
  have hc : "AWS4-HMAC-SHA256 Credential=".toList =
      "AWS4-HMAC-SHA256 ".toList ++ "Credential=".toList := rfl
  have hs : ", SignedHeaders=".toList = ", ".toList ++ "SignedHeaders=".toList := rfl
  have hg : ", Signature=".toList = ", ".toList ++ "Signature=".toList := rfl
  simp only [S3Request.authorizationHeader, constructStringToSign, SigV4.authorization,
    SigV4.signature, SigV4.stringToSign, SigV4.scope, hdate, lower_hashBytesHex,
    lower_signBytesHex, intercalate_newline_cons, intercalate_singleton, hc, hs, hg,
    List.append_assoc, List.cons_append]
  rfl

/-! ## Every attempt -/

namespace S3Request

variable (crypto : Crypto) (regionName : PyStr) (request : S3Request)

/-- What holds of the closure's two dictionaries before every attempt: the keys of
`x_amz_headers` are lower-case header names and include the payload hash, and every key
of `headers` is the caller's, a key of `x_amz_headers`, or `Authorization`. -/
structure SigningInv (st : SigningState) : Prop where
  names : ∀ k ∈ st.xAmzHeaders.keys, lower k = k ∧ IsHeaderName k
  contentHash : st.xAmzHeaders.get? "x-amz-content-sha256".toList =
    some (.str (hashBytesHex crypto request.body))
  headers : ∀ k ∈ st.headers.keys,
    k ∈ (request.headers.getD PyDict.empty).keys ∨ k ∈ st.xAmzHeaders.keys ∨ k = "Authorization".toList

variable {crypto regionName request}

theorem stampNames_names : ∀ k ∈ stampNames, lower k = k ∧ IsHeaderName k := by decide

theorem ne_authorization {k : PyStr} (hk : lower k = k) : k ≠ "Authorization".toList := by
  rintro rfl
  exact absurd hk (by decide)

/-- The headers an attempt sends read every stamped entry back. -/
theorem get?_sent {st : SigningState} {xAmz : PyDict HeaderValue} {auth k : PyStr} {v : HeaderValue}
    (hk : k ≠ "Authorization".toList) (h : xAmz.get? k = some v) :
    ((st.headers.update xAmz).insert "Authorization".toList (.str auth)).get? k = some v := by
  rw [PyDict.get?_insert, if_neg hk, PyDict.get?_update, h]
  rfl

theorem signingInv_initialSigningState
    (hxamz : ∀ k ∈ (request.xAmzHeaders.getD PyDict.empty).keys, lower k = k ∧ IsHeaderName k) :
    SigningInv crypto request (request.initialSigningState crypto) where
  names k hk := by
    simp only [initialSigningState, PyDict.keys_insert] at hk
    split_ifs at hk
    · exact hxamz k hk
    · rcases List.mem_append.mp hk with hk | hk
      · exact hxamz k hk
      · rw [List.mem_singleton.mp hk]
        decide
  contentHash := by simp only [initialSigningState, PyDict.get?_insert, if_pos]
  headers k hk := .inl hk

/-- One attempt that returns keeps the invariant. -/
theorem signingInv_step {a : Attempt} {st st' : SigningState} {args : RestArgs}
    (hinv : SigningInv crypto request st)
    (h : request.generateAuthenticatedUrlAndArgsV4 crypto regionName a st = .ok (args, st')) :
    SigningInv crypto request st' := by
  obtain ⟨creq, signed, secret, keyId, -, -, -, hr⟩ := generateAuthenticatedUrlAndArgsV4_eq_ok _ _ _ h
  obtain ⟨-, rfl⟩ := Prod.mk.inj hr
  have hgrow : ∀ k ∈ st.xAmzHeaders.keys, k ∈ (request.stampedHeaders st.xAmzHeaders a).keys :=
    fun k hk => request.mem_keys_stampedHeaders.mpr (.inl hk)
  refine ⟨fun k hk => ?_, ?_, fun k hk => ?_⟩
  · rcases request.mem_keys_stampedHeaders.mp hk with hk | hk
    · exact hinv.names k hk
    · exact stampNames_names k hk
  · rw [get?_stampedHeaders _ _ _ (by decide), hinv.contentHash]
  · simp only [PyDict.keys_insert] at hk
    split_ifs at hk
    · rcases PyDict.mem_keys_update.mp hk with hk | hk
      · exact .inr (.inl hk)
      · exact (hinv.headers k hk).imp_right (Or.imp_left (hgrow k))
    · rcases List.mem_append.mp hk with hk | hk
      · rcases PyDict.mem_keys_update.mp hk with hk | hk
        · exact .inr (.inl hk)
        · exact (hinv.headers k hk).imp_right (Or.imp_left (hgrow k))
      · exact .inr (.inr (List.mem_singleton.mp hk))

theorem getD_body (b : Bytes) : (if b.isEmpty then none else some b).getD [] = b := by
  cases b <;> rfl

/-- An attempt that returns, over a canonical URL that `requests` sends unchanged and from a
state of the invariant, sends a request the service accepts: signed over the sorted keys of `x_amz_headers` with the
attempt's credentials. -/
theorem signedWith_of_generate (hurl : CanonicalUrl request.url)
    (hprep : prepareUrl request.url = request.url)
    (hmeta : ∀ k ∈ (request.headers.getD PyDict.empty).keys, ¬ metaPrefix <+: k)
    {a : Attempt} {st st' : SigningState} {args : RestArgs} (hinv : SigningInv crypto request st)
    (h : request.generateAuthenticatedUrlAndArgsV4 crypto regionName a st = .ok (args, st')) :
    SignedWith crypto (args.toHttpRequest request.verb) (sortOn id st'.xAmzHeaders.keys)
      ((a.creds.get? "AWS_KEY_ID".toList).getD []) ((a.creds.get? "AWS_SECRET_KEY".toList).getD [])
      regionName := by
  have hinv' := signingInv_step hinv h
  obtain ⟨creq, signed, secret, keyId, hc, hs, hk, hr⟩ :=
    generateAuthenticatedUrlAndArgsV4_eq_ok _ _ _ h
  obtain ⟨rfl, rfl⟩ := Prod.mk.inj hr
  set X := request.stampedHeaders st.xAmzHeaders a
  set H := (st.headers.update X).insert "Authorization".toList
    (.str (authorizationHeader crypto regionName a creq signed secret keyId))
  have hlow : ∀ k ∈ X.keys, lower k = k := fun k hk => (hinv'.names k hk).1
  have hsentKey : ∀ k ∈ X.keys, k ∈ H.keys := fun k hk => by
    obtain ⟨v, hv⟩ := Option.isSome_iff_exists.mp ((PyDict.mem_keys_iff_get?_isSome _ _).mp hk)
    rw [PyDict.mem_keys_iff_get?_isSome, get?_sent (ne_authorization (hlow k hk)) hv]
    rfl
  have hnames : ∀ k, k ∈ sortOn id X.keys ↔ k ∈ X.keys := fun k => (sortOn_perm id X.keys).mem_iff
  set req : SigV4.HttpRequest := ⟨request.verb, request.url, H, request.body⟩
  have hreq : RestArgs.toHttpRequest request.verb
      ⟨request.url, H, if request.body.isEmpty then none else some request.body⟩ = req := by
    simp only [RestArgs.toHttpRequest, getD_body, hprep]
  obtain ⟨hcreq, hsigned⟩ := canonicalRequest_eq_reference crypto req hurl hinv'.names
    (fun e he => get?_sent (ne_authorization (hlow _ (List.mem_map_of_mem _ he)))
      (PyDict.get?_of_mem he)) hc
  have hdate : SigV4.amzDate req = a.amzdate := by
    rw [SigV4.amzDate, get?_sent (by decide) (get?_stampedHeaders_date request _ a)]
  rw [hreq]
  refine ⟨?_, fun n hn => hsentKey n ((hnames n).mp hn), fun n hn => (hnames n).mpr ?_,
    fun n hn hpre => (hnames n).mpr ?_, ?_⟩
  · rw [PyDict.get?_insert, if_pos rfl, hcreq, hsigned, authorizationHeader_eq_reference _ _ _ _ _
      _ _ hdate, hs, hk]
    rfl
  · simp only [requiredSignedHeaders, List.map_cons, List.map_nil, List.mem_cons,
      List.not_mem_nil, or_false] at hn
    rcases hn with rfl | rfl | rfl | rfl
    · exact request.mem_keys_stampedHeaders.mpr (.inr (by decide))
    · rw [PyDict.mem_keys_iff_get?_isSome, hinv'.contentHash]
      rfl
    · exact request.mem_keys_stampedHeaders.mpr (.inr (by decide))
    · exact request.mem_keys_stampedHeaders.mpr (.inr (by decide))
  · have hauth : ¬ metaPrefix <+: "Authorization".toList := by decide
    simp only [H, PyDict.keys_insert] at hn
    have hn' : n ∈ (st.headers.update X).keys := by
      split_ifs at hn
      · exact hn
      · rcases List.mem_append.mp hn with hn | hn
        · exact hn
        · exact absurd (List.mem_singleton.mp hn ▸ hpre) hauth
    rcases PyDict.mem_keys_update.mp hn' with hn | hn
    · exact hn
    · rcases hinv.headers n hn with hn | hn | rfl
      · exact absurd hpre (hmeta n hn)
      · exact request.mem_keys_stampedHeaders.mpr (.inl hn)
      · exact absurd hpre hauth
  · rw [get?_sent (by decide) hinv'.contentHash]
    rfl

/-- Every attempt of a run that returns sends a request the service accepts. -/
theorem transmittedFrom_signedWith (hurl : CanonicalUrl request.url)
    (hprep : prepareUrl request.url = request.url)
    (hmeta : ∀ k ∈ (request.headers.getD PyDict.empty).keys, ¬ metaPrefix <+: k) :
    ∀ (as : List Attempt) (st : SigningState), SigningInv crypto request st →
      ∀ p ∈ request.transmittedFrom crypto regionName st as,
        ∃ names, SignedWith crypto (p.2.toHttpRequest request.verb) names
          ((p.1.creds.get? "AWS_KEY_ID".toList).getD [])
          ((p.1.creds.get? "AWS_SECRET_KEY".toList).getD []) regionName
  | [], _, _, _, hp => absurd hp (List.not_mem_nil _)
  | a :: as, st, hinv, p, hp => by
      unfold transmittedFrom at hp
      split at hp
      · next args st' h =>
        rcases List.mem_cons.mp hp with rfl | hp
        · exact ⟨_, signedWith_of_generate hurl hprep hmeta hinv h⟩
        · exact transmittedFrom_signedWith hurl hprep hmeta as st' (signingInv_step hinv h) p hp
      · exact absurd hp (List.not_mem_nil _)

/-- Every attempt of one call of `_send_request_with_authentication_and_retry` that returns,
for a canonical URL that `requests` sends unchanged, lower-case `x_amz_headers` names and no `x-amz-meta-` name among the
caller's `headers`, is signed as the service computes it. -/
theorem transmitted_signedWith (hurl : CanonicalUrl request.url)
    (hprep : prepareUrl request.url = request.url)
    (hxamz : ∀ k ∈ (request.xAmzHeaders.getD PyDict.empty).keys, lower k = k ∧ IsHeaderName k)
    (hmeta : ∀ k ∈ (request.headers.getD PyDict.empty).keys, ¬ metaPrefix <+: k)
    (as : List Attempt) :
    ∀ p ∈ request.transmitted crypto regionName as,
      ∃ names, SignedWith crypto (p.2.toHttpRequest request.verb) names
        ((p.1.creds.get? "AWS_KEY_ID".toList).getD [])
        ((p.1.creds.get? "AWS_SECRET_KEY".toList).getD []) regionName :=
  transmittedFrom_signedWith hurl hprep hmeta as _ (signingInv_initialSigningState hxamz)

end S3Request

/-! ## The client's URLs -/

theorem unreserved_of_isDigit {c : Char} (h : c.isDigit = true) : SigV4.unreserved c = true := by
  have hc : c.toNat ≤ 57 := by
    simp only [Char.isDigit, Bool.and_eq_true, decide_eq_true_eq] at h
    exact h.2
  simp [SigV4.unreserved, Char.isAlphanum, h, show c.toNat < 128 by omega]

theorem uriEncode_slash_quote (s : PyStr) :
    SigV4.uriEncode true ('/' :: quote s) = '/' :: quote s := by
  rw [SigV4.uriEncode.eq_3 _ _ _ (fun _ _ _ e _ => absurd e (by decide)), if_pos (by decide),
    SigV4.uriEncode_quote]
  rfl

theorem quote_not_mem {c : Char} {s : PyStr} (h : c ∈ quote s) : c ∉ ['?', '#', ';'] := by
  rcases SigV4.mem_quote h with h | rfl | rfl
  · intro hc
    simp only [List.mem_cons, List.not_mem_nil, or_false] at hc
    rcases hc with rfl | rfl | rfl <;> exact absurd h (by decide)
  all_goals decide

/-- `https://host/` and a quoted path. -/
theorem canonicalUrl_https {host : PyStr} (hhost : IsNetloc host) (s : PyStr) :
    CanonicalUrl ("https://".toList ++ host ++ '/' :: quote s) := by
  have hp := urlparse_https_path hhost fun _ => quote_not_mem (s := s)
  exact ⟨by rw [hp], by rw [hp]; exact uriEncode_slash_quote s,
    by rw [hp]; exact (by decide : CanonicalQuery [])⟩

/-- `https://host/`, a quoted path and a canonical query. -/
theorem canonicalUrl_https_query {host : PyStr} (hhost : IsNetloc host) (s q : PyStr)
    (hq : CanonicalQuery q) (hh : '#' ∉ q) :
    CanonicalUrl ("https://".toList ++ host ++ '/' :: quote s ++ '?' :: q) := by
  have hp := urlparse_https_query hhost (fun _ => quote_not_mem (s := s)) q hh
  exact ⟨by rw [hp], by rw [hp]; exact uriEncode_slash_quote s, by rw [hp]; exact hq⟩

/-- A query of `name=value` pairs with unreserved names and values and distinct names is
canonical. -/
theorem canonicalQuery_pairs (ps : List (PyStr × PyStr))
    (hps : ∀ p ∈ ps, (∀ c ∈ p.1, SigV4.unreserved c = true) ∧ ∀ c ∈ p.2, SigV4.unreserved c = true)
    (hnodup : (ps.map Prod.fst).Nodup) :
    CanonicalQuery ("&".toList.intercalate (ps.map fun p => p.1 ++ '=' :: p.2)) ∧
      '#' ∉ "&".toList.intercalate (ps.map fun p => p.1 ++ '=' :: p.2) := by
  have hres : ∀ x ∈ ['&', '=', '#'], SigV4.unreserved x = false := by decide
  have hnot : ∀ p ∈ ps, ∀ x ∈ ['&', '=', '#'], x ∉ p.1 ∧ x ∉ p.2 := fun p hp x hx =>
    ⟨fun h => absurd ((hps p hp).1 x h) (by rw [hres x hx]; decide),
      fun h => absurd ((hps p hp).2 x h) (by rw [hres x hx]; decide)⟩
  have hpart : ∀ p ∈ ps, partition '=' (p.1 ++ '=' :: p.2) = (p.1, ['='], p.2) := fun p hp =>
    partition_append_cons (hnot p hp '=' (by decide)).1 _
  have hcomps : queryComponents ("&".toList.intercalate (ps.map fun p => p.1 ++ '=' :: p.2)) =
      ps.map fun p => p.1 ++ '=' :: p.2 := by
    refine queryComponents_intercalate (fun c hc => ?_) fun h => ?_
    · obtain ⟨p, hp, rfl⟩ := List.mem_map.mp hc
      simp only [List.mem_append, List.mem_cons, not_or]
      exact ⟨(hnot p hp '&' (by decide)).1, by decide, (hnot p hp '&' (by decide)).2⟩
    · obtain ⟨p, -, hp⟩ := List.mem_map.mp (h ▸ List.mem_singleton_self [])
      exact absurd hp (by simp)
  refine ⟨⟨fun e he => ?_, ?_⟩, fun h => ?_⟩
  · rw [hcomps] at he
    obtain ⟨p, hp, rfl⟩ := List.mem_map.mp he
    rw [hpart p hp]
    exact ⟨SigV4.uriEncode_of_unreserved _ (hps p hp).1,
      SigV4.uriEncode_of_unreserved _ (hps p hp).2⟩
  · rw [hcomps, List.map_map]
    refine (List.map_congr_left fun p hp => ?_).symm ▸ hnodup
    simp only [Function.comp_apply, queryKey, ← partition_fst, hpart p hp]
  · rcases mem_intercalate h with h | ⟨x, hx, h⟩
    · exact absurd h (by decide)
    · obtain ⟨p, hp, rfl⟩ := List.mem_map.mp hx
      rcases List.mem_append.mp h with h | h
      · exact (hnot p hp '#' (by decide)).1 h
      · rcases List.mem_cons.mp h with h | h
        · exact absurd h (by decide)
        · exact (hnot p hp '#' (by decide)).2 h

/-! ## The client's requests -/

/-- The requests a `SnowflakeS3RestClient` sends through
`_send_request_with_authentication_and_retry`: the probe, the initiate, the single-shot or
part upload, the completion, the abort, the chunk download and the accelerate query. -/
inductive Issues (c : SnowflakeS3RestClient) (contentType octetStream : PyStr) : S3Request → Prop
  | probe (filename : PyStr) : Issues c contentType octetStream (c.getFileHeaderRequest filename)
  | initiate : Issues c contentType octetStream (c.initiateMultipartUploadRequest contentType octetStream)
  | upload (chunkId : Int) (chunk : Bytes) :
      Issues c contentType octetStream (c.uploadChunkRequest contentType octetStream chunkId chunk)
  | complete {r : S3Request} (h : c.completeMultipartUploadRequest = .ok r) :
      Issues c contentType octetStream r
  | abort {r : S3Request} (h : c.abortMultipartUploadRequest = some r) :
      Issues c contentType octetStream r
  | download (chunkId : Nat) : Issues c contentType octetStream (c.downloadChunkRequest chunkId)
  | accelerate : Issues c contentType octetStream c.transferAccelerateConfigRequest

namespace SnowflakeS3RestClient

variable (c : SnowflakeS3RestClient)

theorem partQuery_eq (chunkId : Int) :
    c.partQuery chunkId = "&".toList.intercalate
      ([("partNumber".toList, reprInt (chunkId + 1)), ("uploadId".toList, formatOption c.uploadId)].map
        fun p => p.1 ++ '=' :: p.2) := by
  simp only [partQuery, List.map_cons, List.map_nil, intercalate_cons_cons, intercalate_singleton,
    List.append_assoc, List.cons_append, List.singleton_append, List.nil_append,
    show "partNumber=".toList = "partNumber".toList ++ ['='] from rfl,
    show "&uploadId=".toList = '&' :: ("uploadId".toList ++ ['=']) from rfl,
    show "&".toList = ['&'] from rfl]

theorem uploadIdUrl_eq : c.uploadIdUrl = c.objectUrl c.meta.dstFileName ++ '?' ::
    "&".toList.intercalate ([("uploadId".toList, formatOption c.uploadId)].map
      fun p => p.1 ++ '=' :: p.2) := by
  simp only [uploadIdUrl, List.map_cons, List.map_nil, intercalate_singleton, List.append_assoc]
  rfl

end SnowflakeS3RestClient

section Issued

variable {c : SnowflakeS3RestClient} {contentType octetStream host : PyStr}
  (hhost : IsNetloc host) (hend : c.endpoint = "https://".toList ++ host)
  (hid : ∀ ch ∈ formatOption c.uploadId, SigV4.unreserved ch = true)
  (hct : ¬ metaPrefix <+: contentType)
include hhost hend

theorem canonicalUrl_objectUrl (name : PyStr) : CanonicalUrl (c.objectUrl name) := by
  simp only [SnowflakeS3RestClient.objectUrl, SnowflakeS3RestClient.objectPath, hend]
  exact canonicalUrl_https hhost _

theorem canonicalUrl_objectUrl_query (name q : PyStr) (hq : CanonicalQuery q) (hh : '#' ∉ q) :
    CanonicalUrl (c.objectUrl name ++ '?' :: q) := by
  simp only [SnowflakeS3RestClient.objectUrl, SnowflakeS3RestClient.objectPath, hend]
  exact canonicalUrl_https_query hhost _ q hq hh

include hid hct

/-- Every request the client issues has a canonical URL, lower-case `x_amz_headers` names
and no `x-amz-meta-` name among its other headers, when the endpoint is `https://` and a
host, the upload id is unreserved and the content-type name is no metadata name. -/
theorem issues_signable {req : S3Request} (hreq : Issues c contentType octetStream req) :
    CanonicalUrl req.url ∧
      (∀ k ∈ (req.xAmzHeaders.getD PyDict.empty).keys, lower k = k ∧ IsHeaderName k) ∧
      ∀ k ∈ (req.headers.getD PyDict.empty).keys, ¬ metaPrefix <+: k := by
  have hnone :
      ∀ {P : PyStr → Prop} (k : PyStr), k ∈ (PyDict.empty : PyDict HeaderValue).keys → P k :=
    fun _ h => nomatch h
  have hmeta : ∀ k ∈ c.prepareFileMetadata.keys, lower k = k ∧ IsHeaderName k := fun k hk =>
    (by decide : ∀ k ∈ SnowflakeS3RestClient.metadataNames, lower k = k ∧ IsHeaderName k) k
      (c.mem_keys_prepareFileMetadata hk)
  have hoctet : ∀ k ∈ (SnowflakeS3RestClient.octetStreamHeaders contentType octetStream).keys,
      ¬ metaPrefix <+: k := fun k hk => by
    rw [SnowflakeS3RestClient.octetStreamHeaders, PyDict.keys_ofList_singleton] at hk
    rw [List.mem_singleton.mp hk]
    exact hct
  have hpairs : ∀ (ps : List (PyStr × PyStr)),
      (∀ p ∈ ps, (∀ c ∈ p.1, SigV4.unreserved c = true) ∧ ∀ c ∈ p.2, SigV4.unreserved c = true) →
      (ps.map Prod.fst).Nodup → ∀ name, CanonicalUrl (c.objectUrl name ++ '?' ::
        "&".toList.intercalate (ps.map fun p => p.1 ++ '=' :: p.2)) := fun ps hps hn name =>
    canonicalUrl_objectUrl_query hhost hend name _ (canonicalQuery_pairs ps hps hn).1
      (canonicalQuery_pairs ps hps hn).2
  have hupload : CanonicalUrl c.uploadIdUrl := by
    rw [c.uploadIdUrl_eq]
    refine hpairs _ (fun p hp => ?_) (by simp only [List.map_cons, List.map_nil]; decide) _
    rw [List.mem_singleton.mp hp]
    exact ⟨by dsimp only; decide, hid⟩
  cases hreq with
  | probe filename => exact ⟨canonicalUrl_objectUrl hhost hend _, hnone, hnone⟩
  | initiate =>
      exact ⟨canonicalUrl_objectUrl_query hhost hend _ "uploads".toList (by decide) (by decide),
        hmeta, hoctet⟩
  | upload chunkId chunk =>
      unfold SnowflakeS3RestClient.uploadChunkRequest
      split
      · exact ⟨canonicalUrl_objectUrl hhost hend _, hmeta, hoctet⟩
      · refine ⟨?_, hnone, hnone⟩
        rw [SnowflakeS3RestClient.partQuery_eq]
        refine hpairs _ (fun p hp => ?_) (by simp only [List.map_cons, List.map_nil]; decide) _
        simp only [List.mem_cons, List.mem_singleton, List.not_mem_nil, or_false] at hp
        rcases hp with rfl | rfl
        · refine ⟨by dsimp only; decide, fun _ h => ?_⟩
          rcases isDigit_or_minus_of_mem_reprInt _ h with h | rfl
          exacts [unreserved_of_isDigit h, rfl]
        · exact ⟨by dsimp only; decide, hid⟩
  | complete h =>
      unfold SnowflakeS3RestClient.completeMultipartUploadRequest at h
      split at h
      · cases h
        exact ⟨hupload, hnone, hnone⟩
      · cases h
  | abort h =>
      unfold SnowflakeS3RestClient.abortMultipartUploadRequest at h
      split at h
      · cases h
        exact ⟨hupload, hnone, hnone⟩
      · cases h
  | download chunkId =>
      unfold SnowflakeS3RestClient.downloadChunkRequest
      split
      · exact ⟨canonicalUrl_objectUrl hhost hend _, hnone, hnone⟩
      · refine ⟨canonicalUrl_objectUrl hhost hend _, hnone, fun k hk => ?_⟩
        dsimp only at hk
        rw [Option.getD_some, PyDict.keys_ofList_singleton] at hk
        rw [List.mem_singleton.mp hk]
        decide
  | accelerate =>
      have hurl : c.endpoint ++ "/?accelerate".toList =
          "https://".toList ++ host ++ '/' :: quote [] ++ '?' :: "accelerate".toList := by
        simp only [hend, List.append_assoc]
        rfl
      refine ⟨?_, hnone, hnone⟩
      show CanonicalUrl (c.endpoint ++ "/?accelerate".toList)
      rw [hurl]
      exact canonicalUrl_https_query hhost [] _ (by decide) (by decide)

/-- Every attempt that returns, of every request the client issues whose URL `requests`
sends unchanged, sends a request the service accepts as signed with that attempt's
credentials, under the same conditions. -/
theorem issues_transmitted_signedWith (crypto : Crypto) {req : S3Request}
    (hreq : Issues c contentType octetStream req) (hprep : prepareUrl req.url = req.url)
    (as : List Attempt) :
    ∀ p ∈ req.transmitted crypto c.regionName as,
      ∃ names, SignedWith crypto (p.2.toHttpRequest req.verb) names
        ((p.1.creds.get? "AWS_KEY_ID".toList).getD [])
        ((p.1.creds.get? "AWS_SECRET_KEY".toList).getD []) c.regionName :=
  let ⟨hurl, hx, hm⟩ := issues_signable hhost hend hid hct hreq
  S3Request.transmitted_signedWith hurl hprep hx hm as

end Issued

/-! ## A part upload the service rejects -/

/-- A client in the middle of a two-part upload whose upload id has a `/`. -/
def slashUploadIdClient : SnowflakeS3RestClient where
  meta := ⟨"k".toList, "k".toList, "d".toList, none⟩
  regionName := "r".toList
  s3location := ⟨"b".toList, []⟩
  endpoint := "https://b.s3.amazonaws.com".toList
  chunkSize := 4
  numOfChunks := 2
  encryptionMetadata := none
  uploadId := some "abc/def".toList
  etags := some [none, none]
  downloaded := []

/-- SHA-256 and HMAC-SHA-256 replaced by functions that return their message, so that a
signature spells out what was signed. -/
def transparentCrypto : Crypto := ⟨id, fun _ m => m⟩

/-- One attempt: a clock and a credential set without a session token. -/
def sampleAttempt : Attempt :=
  ⟨"20240101T000000Z".toList,
    PyDict.ofList [("AWS_KEY_ID".toList, "AK".toList), ("AWS_SECRET_KEY".toList, "SK".toList)]⟩

/-- The first part upload of that client. -/
def slashPartRequest : S3Request :=
  slashUploadIdClient.uploadChunkRequest "Content-Type".toList "application/octet-stream".toList 0
    [1, 2]

set_option maxRecDepth 20000 in
/-- The first attempt of the first part upload returns, and its `Authorization` is not the
signature the service computes for the request it sent, over the names the header lists. -/
theorem partUpload_signature_mismatch :
    ∃ args st', slashPartRequest.generateAuthenticatedUrlAndArgsV4 transparentCrypto "r".toList
        sampleAttempt (slashPartRequest.initialSigningState transparentCrypto) = .ok (args, st') ∧
      args.headers.get? "Authorization".toList ≠
        some (.str (SigV4.authorization transparentCrypto (args.toHttpRequest slashPartRequest.verb)
          (sortOn id st'.xAmzHeaders.keys) "AK".toList "SK".toList "r".toList "s3".toList)) :=
  ⟨_, _, rfl, by decide⟩

set_option maxRecDepth 20000 in
/-- The two canonical query strings of that request. -/
example :
    canonicalQueryString "partNumber=1&uploadId=abc/def".toList =
        "partNumber=1&uploadId=abc/def".toList ∧
      SigV4.canonicalQuery (slashUploadIdClient.objectUrl "k".toList ++ '?' ::
        slashUploadIdClient.partQuery 0) = "partNumber=1&uploadId=abc%2Fdef".toList := by
  decide

end SnowflakeStorage.S3
