import SnowflakeStorage.Python.Basic

/-!
# `urllib.parse`

The S3 client builds every URL by string concatenation, percent-encodes the object path
with `quote`, and takes the URL apart again with `urlparse` to sign it: the path (with its
`;params`), the query and the host name.

`urlparse` follows CPython's `urlsplit` and `_splitparams`: an optional scheme before the
first `:`, a network location after `//` up to the first `/`, `?` or `#`, then the
fragment after the first `#`, the query after the first `?`, and the parameters after the
first `;` of the last path segment.  The removal of ASCII tabs and newlines and the
validation of bracketed IPv6 hosts are left out: the client never builds such URLs.
-/

namespace SnowflakeStorage

namespace PyStr

/-- `s.rpartition(sep)`: the text before the last `sep`, the separator, and the text after
it; `("", "", s)` when there is none. -/
def rpartition (sep : Char) (s : PyStr) : PyStr × PyStr × PyStr :=
  let r := partition sep s.reverse
  if r.2.1.isEmpty then ([], [], s) else (r.2.2.reverse, [sep], r.1.reverse)

/-- `s.encode("utf-8")`. -/
def encodeUtf8 (s : PyStr) : Bytes := s.flatMap String.utf8EncodeChar

end PyStr

namespace Url

open PyStr

/-- The upper-case hexadecimal digit of `n < 16`. -/
def hexUpper (n : Nat) : Char := if n < 10 then Char.ofNat (48 + n) else Char.ofNat (55 + n)

/-- `quote`'s `_ALWAYS_SAFE`: ASCII letters and digits and `_.-~`. -/
def alwaysSafe (b : UInt8) : Bool :=
  let c := Char.ofNat b.toNat
  b.toNat < 128 && (c.isAlphanum || c == '_' || c == '.' || c == '-' || c == '~')

/-- One byte of `quote`'s output: kept when safe, `%XX` otherwise. -/
def quoteByte (b : UInt8) : PyStr :=
  if alwaysSafe b || b.toNat == 47 then [Char.ofNat b.toNat]
  else ['%', hexUpper (b.toNat / 16), hexUpper (b.toNat % 16)]

/-- `urllib.parse.quote(s)`, with its default `safe='/'`. -/
def quote (s : PyStr) : PyStr := (encodeUtf8 s).flatMap quoteByte

/-- The characters `urlsplit` accepts in a scheme. -/
def isSchemeChar (c : Char) : Bool := c.isAlphanum || c == '+' || c == '-' || c == '.'

/-- The schemes whose last path segment may carry `;params`. -/
def usesParams : List PyStr :=
  ["", "ftp", "hdl", "prospero", "http", "imap", "https", "shttp", "rtsp", "rtspu", "sip",
    "sips", "mms", "sftp", "tel"].map String.toList

/-- `urlparse(url)`'s six components. -/
structure ParseResult where
  scheme : PyStr
  netloc : PyStr
  path : PyStr
  params : PyStr
  query : PyStr
  fragment : PyStr
  deriving DecidableEq, Repr

/-- The scheme before the first `:`, when the text before it is one. -/
def splitScheme (url : PyStr) : PyStr × PyStr :=
  let (s, colon, rest) := partition ':' url
  match s with
  | c :: _ =>
    if !colon.isEmpty && c.toNat < 128 && c.isAlpha && s.all isSchemeChar then (lower s, rest)
    else ([], url)
  | [] => ([], url)

/-- `_splitnetloc(url, 2)` after the `//`: up to the first `/`, `?` or `#`. -/
def splitNetloc (url : PyStr) : PyStr × PyStr :=
  (url.takeWhile fun c => c ∉ ['/', '?', '#'], url.dropWhile fun c => c ∉ ['/', '?', '#'])

/-- `_splitparams(path)`: the parameters after the first `;` of the last segment. -/
def splitParams (path : PyStr) : PyStr × PyStr :=
  let (dir, slash, last) := rpartition '/' path
  let (seg, semi, params) := partition ';' last
  if semi.isEmpty then (path, []) else (dir ++ slash ++ seg, params)

/-- `urllib.parse.urlparse(url)`. -/
def urlparse (url : PyStr) : ParseResult :=
  let (scheme, rest) := splitScheme url
  let (netloc, rest) := if rest.take 2 = "//".toList then splitNetloc (rest.drop 2) else ([], rest)
  let (rest, hash, fragment) := partition '#' rest
  let (path, question, query) := partition '?' rest
  let (path, params) :=
    if scheme ∈ usesParams && ';' ∈ path then splitParams path else (path, [])
  ⟨scheme, netloc, path, params, if question.isEmpty then [] else query,
    if hash.isEmpty then [] else fragment⟩

/-- `urlparse(url).hostname`: the host of the network location, lower-cased up to a
`%` zone, or `None` when it is empty. -/
def hostname (r : ParseResult) : Option PyStr :=
  let hostinfo := (rpartition '@' r.netloc).2.2
  let host :=
    if '[' ∈ hostinfo then (partition ']' (partition '[' hostinfo).2.2).1
    else (partition ':' hostinfo).1
  let (h, percent, zone) := partition '%' host
  if host.isEmpty then none else some (lower h ++ percent ++ zone)

/-! ## The URL `requests` sends

`requests` prepares a URL before sending it (`PreparedRequest.prepare_url`): the vendored
urllib3 splits it with `parse_url`, which for an `http` or `https` URL removes the dot
segments of the path (`_remove_path_dot_segments`, RFC 3986 section 5.2.4), and the parts
are joined again, with `/` for an empty path.  The rest of the preparation is not
modelled: the lower-casing and IDNA encoding of the host, the percent-encoding of
characters outside the sets `parse_url` allows, and `requote_uri`.
-/

/-- One segment of the loop of `_remove_path_dot_segments`: `.` is dropped, `..` drops the
last segment kept, if any, and every other segment is kept. -/
def dotSegmentStep (output : List PyStr) (segment : PyStr) : List PyStr :=
  if segment = ['.'] then output
  else if segment ≠ ['.', '.'] then output ++ [segment]
  else output.dropLast

/-- `_remove_path_dot_segments(path)` of urllib3. -/
def removePathDotSegments (path : PyStr) : PyStr :=
  let output := (path.splitOn '/').foldl dotSegmentStep []
  let output :=
    if startswith path '/' && output.head?.all (!·.isEmpty) then [] :: output else output
  let output := if "/.".toList <:+ path ∨ "/..".toList <:+ path then output ++ [[]] else output
  "/".toList.intercalate output

/-- The characters that end the authority of `parse_url`'s `URI_RE`. -/
def authorityEnd : List Char := ['/', '\\', '?', '#']

/-- What `requests` sends after the authority `r`: the path up to the first `?` or `#`
without its dot segments (`/` when that leaves it empty), then the query and the fragment
when they are not empty. -/
def preparePathAndQuery (r : PyStr) : PyStr :=
  let (beforeHash, _, fragment) := partition '#' r
  let (path, _, query) := partition '?' beforeHash
  let path := removePathDotSegments path
  (if path.isEmpty then "/".toList else path) ++ (if query.isEmpty then [] else '?' :: query) ++
    (if fragment.isEmpty then [] else '#' :: fragment)

/-- The URL `requests` sends for `url`: an `http` or `https` URL with an authority is
rebuilt from its scheme, its authority and `preparePathAndQuery` of the rest; other URLs,
which `requests` passes through or rejects, are returned as they are. -/
def prepareUrl (url : PyStr) : PyStr :=
  let (scheme, rest) := splitScheme url
  if scheme ∈ ["http".toList, "https".toList] ∧ rest.take 2 = "//".toList then
    scheme ++ "://".toList ++ (rest.drop 2).takeWhile (· ∉ authorityEnd) ++
      preparePathAndQuery ((rest.drop 2).dropWhile (· ∉ authorityEnd))
  else url

/-- A path none of whose `/`-separated segments is `.` or `..`. -/
def PlainPath (path : PyStr) : Prop := ∀ seg ∈ path.splitOn '/', seg ≠ ['.'] ∧ seg ≠ ['.', '.']

theorem foldl_dotSegmentStep {segs : List PyStr} (h : ∀ seg ∈ segs, seg ≠ ['.'] ∧ seg ≠ ['.', '.'])
    (output : List PyStr) : segs.foldl dotSegmentStep output = output ++ segs := by
  induction segs generalizing output with
  | nil => exact (List.append_nil _).symm
  | cons seg segs ih =>
    have hstep : dotSegmentStep output seg = output ++ [seg] := by
      simp [dotSegmentStep, (h seg (.head _)).1, (h seg (.head _)).2]
    rw [List.foldl_cons, hstep, ih fun s hs => h s (.tail _ hs)]
    simp

/-- A path without dot segments is left as it is. -/
theorem removePathDotSegments_of_plain {path : PyStr} (h : PlainPath path) :
    removePathDotSegments path = path := by
  have hstart : (startswith path '/' &&
      ((path.splitOn '/').head?.all fun s => !s.isEmpty)) = false := by
    match path with
    | [] => rfl
    | c :: rest =>
      by_cases hc : c = '/'
      · subst hc
        simp [List.splitOn, List.splitOnP_cons]
      · simp [startswith, hc]
  -- a path ending in `/.` or `/..` has `.` or `..` as its last segment
  have hlast (t seg : PyStr) (hs : '/' ∉ seg) : seg ∈ (t ++ '/' :: seg).splitOn '/' := by
    rw [splitOn_append_cons, splitOn_of_not_mem hs]
    simp
  have hend : ¬ ("/.".toList <:+ path ∨ "/..".toList <:+ path) := by
    rintro (⟨t, rfl⟩ | ⟨t, rfl⟩)
    exacts [(h _ (hlast t ['.'] (by decide))).1 rfl, (h _ (hlast t ['.', '.'] (by decide))).2 rfl]
  simp only [removePathDotSegments, foldl_dotSegmentStep h, List.nil_append, hstart, hend,
    Bool.false_eq_true, if_false]
  exact List.intercalate_splitOn path '/'

/-! ## URLs of the client's form

Every URL the S3 client signs is `https://`, a host, a `/` path and an optional query.
-/

/-- A network location that `urlsplit` and `parse_url` both read to its end: no `/`, `\\`,
`?` or `#`. -/
def IsNetloc (host : PyStr) : Prop := ∀ c ∈ host, c ∉ authorityEnd

instance (host : PyStr) : Decidable (IsNetloc host) := inferInstanceAs (Decidable (∀ c ∈ host, _))

theorem splitScheme_https (rest : PyStr) :
    splitScheme ("https:".toList ++ rest) = ("https".toList, rest) := by
  have h : "https:".toList = "https".toList ++ [':'] := rfl
  rw [h, List.append_assoc, List.singleton_append, splitScheme,
    partition_append_cons (by decide : ':' ∉ "https".toList)]
  rfl

theorem splitNetloc_append {host : PyStr} (hhost : IsNetloc host) (rest : PyStr) :
    splitNetloc (host ++ '/' :: rest) = (host, '/' :: rest) := by
  have hsub : ∀ x ∈ ['/', '?', '#'], x ∈ authorityEnd := by decide
  have hpos : ∀ a ∈ host, decide (a ∉ ['/', '?', '#']) = true := fun a ha =>
    decide_eq_true fun h => hhost a ha (hsub a h)
  simp only [splitNetloc]
  rw [List.takeWhile_append_of_pos hpos, List.dropWhile_append_of_pos hpos]
  simp [List.takeWhile_cons, List.dropWhile_cons]

/-- The scheme and the network location of `https://host/rest`. -/
theorem https_netloc {host : PyStr} (hhost : IsNetloc host) (rest : PyStr) :
    splitScheme ("https://".toList ++ (host ++ '/' :: rest)) =
        ("https".toList, "//".toList ++ (host ++ '/' :: rest)) ∧
      ("//".toList ++ (host ++ '/' :: rest)).take 2 = "//".toList ∧
      ("//".toList ++ (host ++ '/' :: rest)).drop 2 = host ++ '/' :: rest ∧
      splitNetloc (host ++ '/' :: rest) = (host, '/' :: rest) :=
  ⟨splitScheme_https _, List.take_left' rfl, List.drop_left' rfl, splitNetloc_append hhost rest⟩

/-- `urlparse` of `https://host/path?query`. -/
theorem urlparse_https_query {host path : PyStr} (hhost : IsNetloc host)
    (hpath : ∀ c ∈ path, c ∉ ['?', '#', ';']) (query : PyStr) (hq : '#' ∉ query) :
    urlparse ("https://".toList ++ host ++ '/' :: path ++ '?' :: query) =
      ⟨"https".toList, host, '/' :: path, [], query, []⟩ := by
  have hnh : '#' ∉ '/' :: (path ++ '?' :: query) := by
    simp [hq]
    exact fun h => hpath _ h (by decide)
  have hnq : '?' ∉ path := fun h => hpath _ h (by decide)
  have hns : ';' ∉ '/' :: path := by
    simp
    exact fun h => hpath _ h (by decide)
  obtain ⟨e1, e2, e3, e4⟩ := https_netloc hhost (path ++ '?' :: query)
  simp only [List.append_assoc, List.cons_append]
  simp only [urlparse, e1, e2, e3, e4, if_pos, partition_of_not_mem hnh,
    partition_cons_of_ne (by decide : '/' ≠ '?'), partition_append_cons hnq, hns]
  simp

/-- A `/` and a path without any of the characters `cs` has none of them either, when `/`
is not one. -/
theorem not_mem_slash_cons {cs path : PyStr} (hcs : '/' ∉ cs) (hpath : ∀ c ∈ path, c ∉ cs) :
    ∀ x ∈ cs, x ∉ '/' :: path := fun x hx h =>
  (List.mem_cons.mp h).elim (fun e => hcs (e ▸ hx)) (hpath x · hx)

/-- The path of `https://host/path` followed by nothing, a query or a fragment. -/
theorem urlparse_https_path_append {host path : PyStr} (hhost : IsNetloc host)
    (hpath : ∀ c ∈ path, c ∉ ['?', '#', ';']) {tail : PyStr}
    (htail : ∀ c ∈ tail.head?, c = '?' ∨ c = '#') :
    (urlparse ("https://".toList ++ host ++ '/' :: path ++ tail)).path = '/' :: path ∧
      (urlparse ("https://".toList ++ host ++ '/' :: path ++ tail)).params = [] := by
  have hn := not_mem_slash_cons (by decide) hpath
  have htail' : (partition '?' (partition '#' tail).1).1 = [] := by
    match tail, htail with
    | [], _ => rfl
    | c :: t, h =>
      rcases h c rfl with rfl | rfl
      · rw [partition_cons_of_ne (by decide)]
        simp [partition]
      · simp [partition]
  obtain ⟨e1, e2, e3, e4⟩ := https_netloc hhost (path ++ tail)
  simp only [List.append_assoc, List.cons_append]
  simp only [urlparse, e1, e2, e3, e4, if_pos]
  rw [← List.cons_append, partition_append_of_not_mem (hn '#' (by decide)),
    partition_append_of_not_mem (hn '?' (by decide)), htail', List.append_nil]
  simp [hn ';' (by decide)]

/-- `urlparse` of `https://host/path`. -/
theorem urlparse_https_path {host path : PyStr} (hhost : IsNetloc host)
    (hpath : ∀ c ∈ path, c ∉ ['?', '#', ';']) :
    urlparse ("https://".toList ++ host ++ '/' :: path) =
      ⟨"https".toList, host, '/' :: path, [], [], []⟩ := by
  have hn := not_mem_slash_cons (by decide) hpath
  obtain ⟨e1, e2, e3, e4⟩ := https_netloc hhost path
  simp only [List.append_assoc]
  simp only [urlparse, e1, e2, e3, e4, if_pos, partition_of_not_mem (hn '#' (by decide)),
    partition_of_not_mem (hn '?' (by decide)), hn ';' (by decide)]
  simp

/-- `requests` keeps the scheme and the host of `https://host/...` and prepares the rest. -/
theorem prepareUrl_https {host : PyStr} (hhost : IsNetloc host) (r : PyStr) :
    prepareUrl ("https://".toList ++ host ++ '/' :: r) =
      "https://".toList ++ host ++ preparePathAndQuery ('/' :: r) := by
  have hpos : ∀ a ∈ host, decide (a ∉ authorityEnd) = true := fun a ha =>
    decide_eq_true (hhost a ha)
  obtain ⟨e1, e2, e3, -⟩ := https_netloc hhost r
  simp only [List.append_assoc] at e1 ⊢
  simp only [prepareUrl, e1, e2, e3, List.takeWhile_append_of_pos hpos,
    List.dropWhile_append_of_pos hpos]
  simp [List.takeWhile_cons, List.dropWhile_cons, authorityEnd]

/-- A path without `?`, `#` or dot segments is sent as it is. -/
theorem preparePathAndQuery_path {path : PyStr} (hpath : ∀ c ∈ path, c ∉ ['?', '#'])
    (hplain : PlainPath ('/' :: path)) : preparePathAndQuery ('/' :: path) = '/' :: path := by
  have hn := not_mem_slash_cons (by decide) hpath
  simp [preparePathAndQuery, partition_of_not_mem (hn '#' (by decide)),
    partition_of_not_mem (hn '?' (by decide)), removePathDotSegments_of_plain hplain]

/-- Such a path followed by a query is sent with at most a query and a fragment after it. -/
theorem preparePathAndQuery_append {path : PyStr} (hpath : ∀ c ∈ path, c ∉ ['?', '#'])
    (hplain : PlainPath ('/' :: path)) (query : PyStr) :
    ∃ tail, preparePathAndQuery ('/' :: path ++ '?' :: query) = '/' :: path ++ tail ∧
      ∀ c ∈ tail.head?, c = '?' ∨ c = '#' := by
  have hn := not_mem_slash_cons (by decide) hpath
  simp only [preparePathAndQuery]
  rw [partition_append_of_not_mem (hn '#' (by decide)), partition_cons_of_ne (by decide)]
  dsimp only
  rw [partition_append_cons (hn '?' (by decide)), removePathDotSegments_of_plain hplain]
  refine ⟨(if (partition '#' query).1.isEmpty then [] else '?' :: (partition '#' query).1) ++
    (if (partition '#' query).2.2.isEmpty then [] else '#' :: (partition '#' query).2.2),
    by simp, fun c hc => ?_⟩
  split_ifs at hc <;> simp only [List.nil_append, List.cons_append, List.head?_cons,
    List.head?_nil, Option.mem_def, Option.some.injEq, reduceCtorEq] at hc <;> subst hc <;> simp

/-- So is such a path followed by a query that is not empty and has no `#`. -/
theorem preparePathAndQuery_query {path : PyStr} (hpath : ∀ c ∈ path, c ∉ ['?', '#'])
    (hplain : PlainPath ('/' :: path)) {query : PyStr} (hne : query ≠ []) (hq : '#' ∉ query) :
    preparePathAndQuery ('/' :: path ++ '?' :: query) = '/' :: path ++ '?' :: query := by
  have hn := not_mem_slash_cons (by decide) hpath
  have hh : '#' ∉ '/' :: path ++ '?' :: query := by
    simp only [List.mem_append, List.mem_cons, not_or]
    exact ⟨(by simpa using hn '#' (by decide)), by decide, hq⟩
  simp only [preparePathAndQuery]
  rw [partition_of_not_mem hh, partition_append_cons (hn '?' (by decide)),
    removePathDotSegments_of_plain hplain]
  simp [hne]

end Url

end SnowflakeStorage
