import SnowflakeStorage.S3.Signer

/-!
# AWS Signature Version 4, as the service computes it

The signature the object store recomputes from a request it receives, written from the
published description of Signature Version 4 and independent of the client's code.  The
client's signer is compared with it in `Proofs/Authentication.lean`.

For a request (verb, URL, headers, body) and a list of signed header names:

* the canonical URI is the URL's path, URI-encoded once, or `/` when empty;
* the canonical query string has one `name=value` per `&`-separated parameter (the `=`
  written even when the value is empty), name and value URI-encoded, sorted by name and
  then by value, joined by `&`;
* the canonical headers are one line `name:Trimall(value)` per signed name, in the order of
  the list, each terminated by a newline; Trimall trims the value and turns each run of
  spaces into one space;
* the canonical request is the verb, the canonical URI, the canonical query, the canonical
  headers, the signed names joined by `;`, and the hexadecimal SHA-256 of the body, one per
  line;
* the string to sign is `AWS4-HMAC-SHA256`, the request's `x-amz-date`, the scope
  `date/region/service/aws4_request` (with `date` the first eight characters of
  `x-amz-date`) and the hexadecimal SHA-256 of the canonical request, one per line;
* the signing key is HMAC-SHA-256 chained from `AWS4` followed by the secret through the
  date, the region, the service and `aws4_request`, and the signature is the hexadecimal
  HMAC-SHA-256 of the string to sign under it.

The service sees the URL's components percent-decoded and encodes them again.  `uriEncode`
computes that composition on the component as sent: an unreserved character stays, a `%`
with two hexadecimal digits stays as an escape (with upper-case digits), and every other
character is percent-encoded byte by byte in UTF-8.
-/

namespace SnowflakeStorage.SigV4

open PyStr Url S3

/-- A request as it goes on the wire. -/
structure HttpRequest where
  verb : PyStr
  url : PyStr
  headers : PyDict HeaderValue
  body : Bytes

/-- The characters `UriEncode` leaves alone: ASCII letters and digits and `-._~`. -/
def unreserved (c : Char) : Bool :=
  c.toNat < 128 && (c.isAlphanum || c == '-' || c == '.' || c == '_' || c == '~')

/-- A hexadecimal digit. -/
def isHex (c : Char) : Bool := c.isDigit || ('a' ≤ c && c ≤ 'f') || ('A' ≤ c && c ≤ 'F')

/-- `%XY` for each UTF-8 byte of `c`. -/
def percentEncode (c : Char) : PyStr :=
  (String.utf8EncodeChar c).flatMap fun b => ['%', hexUpper (b.toNat / 16), hexUpper (b.toNat % 16)]

/-- `UriEncode` of the decoded component, computed on the component as sent; `/` is kept
in a path. -/
def uriEncode (keepSlash : Bool) : PyStr → PyStr
  | [] => []
  | '%' :: a :: b :: rest =>
    if isHex a && isHex b then '%' :: a.toUpper :: b.toUpper :: uriEncode keepSlash rest
    else "%25".toList ++ uriEncode keepSlash (a :: b :: rest)
  | c :: rest =>
    (if unreserved c || (keepSlash && c == '/') then [c] else percentEncode c) ++
      uriEncode keepSlash rest

/-- The path with its `;params`, as the URL carries it. -/
def urlPath (url : PyStr) : PyStr :=
  let p := urlparse url
  p.path ++ if p.params.isEmpty then [] else ';' :: p.params

/-- The canonical URI. -/
def canonicalUri (url : PyStr) : PyStr :=
  if urlPath url = [] then "/".toList else uriEncode true (urlPath url)

/-- The parameters of the URL's query, name and value URI-encoded. -/
def queryParameters (url : PyStr) : List (PyStr × PyStr) :=
  let q := (urlparse url).query
  (if q.isEmpty then [] else q.splitOn '&').map fun e =>
    (uriEncode false (partition '=' e).1, uriEncode false (partition '=' e).2.2)

/-- The canonical query string: sorted by name, then by value. -/
def canonicalQuery (url : PyStr) : PyStr :=
  "&".toList.intercalate
    ((sortOn Prod.fst (sortOn Prod.snd (queryParameters url))).map fun p => p.1 ++ '=' :: p.2)

/-- Trimall, on a header value; a list is first comma-joined. -/
def trimall : HeaderValue → PyStr
  | .str v => collapseSpaces (strip v)
  | .list v => collapseSpaces (strip (",".toList.intercalate v))
  | .none => []

/-- The canonical headers: one terminated `name:value` line per signed name. -/
def canonicalHeaders (req : HttpRequest) (signed : List PyStr) : PyStr :=
  (signed.map fun n => (n ++ ':' :: trimall ((req.headers.get? n).getD .none)) ++ "\n".toList).flatten

/-- The canonical request. -/
def canonicalRequest (crypto : Crypto) (req : HttpRequest) (signed : List PyStr) : PyStr :=
  req.verb ++ '\n' :: canonicalUri req.url ++ '\n' :: canonicalQuery req.url ++ '\n' ::
    canonicalHeaders req signed ++ '\n' :: ";".toList.intercalate signed ++ '\n' ::
      hexlify (crypto.sha256 req.body)

/-- The request's `x-amz-date`. -/
def amzDate (req : HttpRequest) : PyStr :=
  match req.headers.get? "x-amz-date".toList with
  | some (.str d) => d
  | _ => []

/-- The credential scope. -/
def scope (req : HttpRequest) (region service : PyStr) : PyStr :=
  (amzDate req).take 8 ++ '/' :: region ++ '/' :: service ++ "/aws4_request".toList

/-- The string to sign. -/
def stringToSign (crypto : Crypto) (req : HttpRequest) (signed : List PyStr)
    (region service : PyStr) : PyStr :=
  "AWS4-HMAC-SHA256".toList ++ '\n' :: amzDate req ++ '\n' :: scope req region service ++ '\n' ::
    hexlify (crypto.sha256 (encodeUtf8 (canonicalRequest crypto req signed)))

/-- The signing key. -/
def signingKey (crypto : Crypto) (secret date region service : PyStr) : Bytes :=
  let h := fun (k : Bytes) (m : PyStr) => crypto.hmacSha256 k (encodeUtf8 m)
  h (h (h (h (encodeUtf8 ("AWS4".toList ++ secret)) date) region) service) "aws4_request".toList

/-- The signature. -/
def signature (crypto : Crypto) (req : HttpRequest) (signed : List PyStr)
    (secret region service : PyStr) : PyStr :=
  hexlify (crypto.hmacSha256 (signingKey crypto secret ((amzDate req).take 8) region service)
    (encodeUtf8 (stringToSign crypto req signed region service)))

/-- The `Authorization` header value. -/
def authorization (crypto : Crypto) (req : HttpRequest) (signed : List PyStr)
    (keyId secret region service : PyStr) : PyStr :=
  "AWS4-HMAC-SHA256 Credential=".toList ++ keyId ++ '/' :: scope req region service ++
    ", SignedHeaders=".toList ++ ";".toList.intercalate signed ++ ", Signature=".toList ++
      signature crypto req signed secret region service

/-! ## The object a request addresses -/

/-- The value of a hexadecimal digit. -/
def hexValue (c : Char) : Nat :=
  if c.isDigit then c.toNat - 48 else if 'a' ≤ c ∧ c ≤ 'f' then c.toNat - 87 else c.toNat - 55

/-- A URL component as the service decodes it: `%XY` is the byte `XY` and every other
character its UTF-8 bytes; a `%` without two hexadecimal digits after it is rejected. -/
def percentDecode : PyStr → Option Bytes
  | [] => some []
  | '%' :: a :: b :: rest =>
    if isHex a && isHex b then (percentDecode rest).map ((hexValue a * 16 + hexValue b).toUInt8 :: ·)
    else none
  | '%' :: _ => none
  | c :: rest => (percentDecode rest).map (String.utf8EncodeChar c ++ ·)

/-- The key of the object a request addresses: the path of its URL after the leading `/`,
decoded. -/
def objectKey (url : PyStr) : Option Bytes :=
  match urlPath url with
  | '/' :: key => percentDecode key
  | _ => none

/-! ## Components that are already encoded

The client's object paths come out of `quote`, whose output URI-encoding leaves unchanged,
and so does a component of unreserved characters alone.
-/

set_option maxRecDepth 4000 in
/-- A byte `quote` keeps is an unreserved character or `/`, and never `%`. -/
theorem quoteByte_safe (b : UInt8) (h : (alwaysSafe b || b.toNat == 47) = true) :
    Char.ofNat b.toNat ≠ '%' ∧
      (unreserved (Char.ofNat b.toNat) || Char.ofNat b.toNat == '/') = true := by
  obtain ⟨v⟩ := b
  revert v
  decide

theorem hexUpper_encoded : ∀ n < 16,
    isHex (hexUpper n) = true ∧ (hexUpper n).toUpper = hexUpper n ∧ unreserved (hexUpper n) = true := by
  decide

theorem uriEncode_quoteByte_append (b : UInt8) (rest : PyStr) :
    uriEncode true (quoteByte b ++ rest) = quoteByte b ++ uriEncode true rest := by
  unfold quoteByte
  split
  · next h =>
    obtain ⟨hc, hu⟩ := quoteByte_safe b h
    rw [List.singleton_append, uriEncode.eq_3 _ _ _ (fun _ _ _ e _ => hc e), if_pos (by simpa using hu)]
  · have hb : b.toNat < 256 := b.toNat_lt_size
    obtain ⟨h1, u1, -⟩ := hexUpper_encoded (b.toNat / 16) (by omega)
    obtain ⟨h2, u2, -⟩ := hexUpper_encoded (b.toNat % 16) (by omega)
    simp [uriEncode, h1, h2, u1, u2]

/-- `quote`'s output is its own URI encoding. -/
theorem uriEncode_quote (s : PyStr) : uriEncode true (quote s) = quote s := by
  unfold quote
  induction encodeUtf8 s with
  | nil => rfl
  | cons b bs ih => rw [List.flatMap_cons, uriEncode_quoteByte_append, ih]

/-- Every character of `quote`'s output is unreserved, `/` or the `%` of an escape. -/
theorem mem_quote {c : Char} {s : PyStr} (h : c ∈ quote s) : unreserved c ∨ c = '/' ∨ c = '%' := by
  obtain ⟨b, -, hb⟩ := List.mem_flatMap.mp h
  unfold quoteByte at hb
  split at hb
  · next hs =>
    obtain ⟨-, hu⟩ := quoteByte_safe b hs
    rw [List.mem_singleton.mp hb]
    simp only [Bool.or_eq_true, beq_iff_eq] at hu
    exact hu.imp_right .inl
  · have hb' : b.toNat < 256 := b.toNat_lt_size
    rcases List.mem_cons.mp hb with rfl | hb
    · exact .inr (.inr rfl)
    · rcases List.mem_pair.mp hb with rfl | rfl
      · exact .inl (hexUpper_encoded _ (by omega)).2.2
      · exact .inl (hexUpper_encoded _ (by omega)).2.2

set_option maxRecDepth 4000 in
/-- A byte `quote` keeps is its own UTF-8 encoding. -/
theorem utf8EncodeChar_quoteByte_safe (b : UInt8) (h : (alwaysSafe b || b.toNat == 47) = true) :
    String.utf8EncodeChar (Char.ofNat b.toNat) = [b] := by
  obtain ⟨v⟩ := b
  revert v
  decide

theorem hexValue_hexUpper : ∀ n < 16, hexValue (hexUpper n) = n := by decide

/-- The service decodes each byte `quote` wrote back to that byte. -/
theorem percentDecode_quoteByte_append (b : UInt8) (rest : PyStr) :
    percentDecode (quoteByte b ++ rest) = (percentDecode rest).map (b :: ·) := by
  unfold quoteByte
  split
  · next h =>
    rw [List.singleton_append, percentDecode.eq_4 _ _ (fun _ _ _ e _ => (quoteByte_safe b h).1 e)
      (quoteByte_safe b h).1, utf8EncodeChar_quoteByte_safe b h]
    rfl
  · have hb : b.toNat < 256 := b.toNat_lt_size
    obtain ⟨h1, -, -⟩ := hexUpper_encoded (b.toNat / 16) (by omega)
    obtain ⟨h2, -, -⟩ := hexUpper_encoded (b.toNat % 16) (by omega)
    simp only [List.cons_append, List.nil_append, percentDecode, h1, h2, Bool.and_self, if_true,
      hexValue_hexUpper _ (by omega : b.toNat / 16 < 16), hexValue_hexUpper _ (by omega : b.toNat % 16 < 16),
      Nat.div_add_mod']
    rw [show b.toNat.toUInt8 = b from UInt8.toNat.inj (UInt8.toNat_ofNat_of_lt b.toNat_lt_size)]
    rfl

theorem percentDecode_flatMap_quoteByte (bs : Bytes) :
    percentDecode (bs.flatMap quoteByte) = some bs := by
  induction bs with
  | nil => rfl
  | cons b bs ih => rw [List.flatMap_cons, percentDecode_quoteByte_append, ih]; rfl

/-- Decoding `quote s` gives the UTF-8 bytes of `s`. -/
theorem percentDecode_quote (s : PyStr) : percentDecode (quote s) = some (encodeUtf8 s) :=
  percentDecode_flatMap_quoteByte _

/-! ## Keys without dot segments -/

/-- A key none of whose `/`-separated segments is `.` or `..`. -/
def PlainKey (k : Bytes) : Prop := ∀ seg ∈ k.splitOn 47, seg ≠ [46] ∧ seg ≠ [46, 46]

instance (k : Bytes) : Decidable (PlainKey k) := inferInstanceAs (Decidable (∀ seg ∈ _, _))

/-- `quote` writes a `/` for the byte `/` only. -/
theorem eq_slash_of_mem_quoteByte (b : UInt8) (h : '/' ∈ quoteByte b) : b = 47 := by
  unfold quoteByte at h
  split at h
  · next hs =>
    have hb := utf8EncodeChar_quoteByte_safe b hs
    rw [← List.mem_singleton.mp h] at hb
    exact (List.singleton_inj.mp hb).symm
  · have hb : b.toNat < 256 := b.toNat_lt_size
    rcases List.mem_cons.mp h with h | h
    · exact absurd h (by decide)
    · rcases List.mem_pair.mp h with h | h <;>
        exact absurd (h ▸ (hexUpper_encoded _ (by omega)).2.2) (by decide)

/-- The segments of `quote`'s output are the quoted segments of the bytes. -/
theorem splitOn_flatMap_quoteByte (bs : Bytes) :
    (bs.flatMap quoteByte).splitOn '/' = (bs.splitOn 47).map (·.flatMap quoteByte) := by
  induction bs with
  | nil => rfl
  | cons b bs ih =>
    rw [List.flatMap_cons]
    by_cases hb : b = 47
    · subst hb
      rw [show quoteByte 47 = [] ++ ['/'] from rfl, List.append_assoc, List.singleton_append,
        splitOn_append_cons, ih]
      simp [List.splitOn, List.splitOnP_cons]
    · rw [splitOn_append_of_not_mem (fun h => hb (eq_slash_of_mem_quoteByte b h)), ih]
      simp only [List.splitOn, List.splitOnP_cons, beq_iff_eq, hb, if_false]
      cases bs.splitOnP (· == 47) <;> simp

/-- The service sees a path without dot segments when the key has none. -/
theorem plainPath_quote {s : PyStr} (h : PlainKey (encodeUtf8 s)) : PlainPath ('/' :: quote s) := by
  intro seg hseg
  rw [← List.nil_append ('/' :: _), splitOn_append_cons, quote, splitOn_flatMap_quoteByte] at hseg
  rcases List.mem_append.mp hseg with hseg | hseg
  · rw [List.splitOn_nil, List.mem_singleton] at hseg
    subst hseg
    decide
  · obtain ⟨k, hk, rfl⟩ := List.mem_map.mp hseg
    have hdec := percentDecode_flatMap_quoteByte k
    constructor <;> intro he <;> rw [he] at hdec
    exacts [(h k hk).1 (Option.some.inj hdec).symm, (h k hk).2 (Option.some.inj hdec).symm]

/-- A component of unreserved characters is its own URI encoding. -/
theorem uriEncode_of_unreserved (keepSlash : Bool) {s : PyStr} (h : ∀ c ∈ s, unreserved c = true) :
    uriEncode keepSlash s = s := by
  induction s with
  | nil => rfl
  | cons c s ih =>
      have hc := h c (List.mem_cons_self c s)
      have hne : c ≠ '%' := by rintro rfl; exact absurd hc (by decide)
      rw [uriEncode.eq_3 _ _ _ (fun _ _ _ e _ => hne e), if_pos (by simp [hc]),
        ih fun x hx => h x (List.mem_cons_of_mem c hx)]
      rfl

end SnowflakeStorage.SigV4
