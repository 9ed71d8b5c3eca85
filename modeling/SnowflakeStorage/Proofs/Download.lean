import SnowflakeStorage.S3.Client

/-!
# The byte ranges of a chunked download

With `num_of_chunks = n > 1`, `download_chunk(i)` asks for chunk `i` with a `Range` header:
`bytes={i*c}-{(i+1)*c-1}` for every chunk but the last, `bytes={i*c}-` for the last, `c`
being `chunk_size`.  Read as a server reads an RFC 7233 byte range (`parseByteRange`),
these headers cut the object into consecutive pieces: chunk `i` starts where chunk `i - 1`
stopped, every offset is asked for by exactly one chunk, and when the object's size `S`
satisfies `(n-1)*c < S ≤ n*c` every chunk starts inside the object.

Strategy: `parseByteRange_render` and `parseByteRange_render_open` are the round trip of the
header's two forms; `rangeOf_downloadChunkRequest` reads the range back from the request;
`downloadChunk_ranges_tile` is the arithmetic over those ranges.
-/

namespace SnowflakeStorage.S3

open PyStr

/-! ## Reading a `Range` header -/

/-- A `Range` header value with one byte range, as a server reads it (RFC 7233,
`bytes=first-last` or `bytes=first-`): the first byte and, for a closed range, the last. -/
def parseByteRange (v : PyStr) : Option (Nat × Option Nat) :=
  if "bytes=".toList.isPrefixOf v then
    let (first, dash, last) := partition '-' (v.drop 6)
    if !dash.isEmpty && !first.isEmpty && first.all Char.isDigit && last.all Char.isDigit then
      some (digitsValue first, if last.isEmpty then none else some (digitsValue last))
    else none
  else none

/-- The range a request asks for. -/
def rangeOf (req : S3Request) : Option (Nat × Option Nat) :=
  match (req.headers.getD PyDict.empty).get? "Range".toList with
  | some (.str v) => parseByteRange v
  | _ => none

/-- A range asks for byte `off`. -/
def Covers (r : Nat × Option Nat) (off : Nat) : Prop := r.1 ≤ off ∧ ∀ last, r.2 = some last → off ≤ last

private theorem parseByteRange_of_digits (a rest : PyStr) (last : Option Nat)
    (ha : ∀ x ∈ a, x.isDigit = true) (hne : a ≠ []) (hr : ∀ x ∈ rest, x.isDigit = true)
    (hlast : (if rest.isEmpty then none else some (digitsValue rest)) = last) :
    parseByteRange ("bytes=".toList ++ a ++ '-' :: rest) = some (digitsValue a, last) := by
  have hdash : '-' ∉ a := fun h => absurd (ha _ h) (by decide)
  have hpre : "bytes=".toList.isPrefixOf ("bytes=".toList ++ a ++ '-' :: rest) = true := by
    rw [List.isPrefixOf_iff_prefix, List.append_assoc]
    exact List.prefix_append _ _
  have hdrop : ("bytes=".toList ++ a ++ '-' :: rest).drop 6 = a ++ '-' :: rest := by
    rw [List.append_assoc]
    exact List.drop_left' rfl
  simp only [parseByteRange, hpre, if_true, hdrop, partition_append_cons hdash,
    List.all_eq_true.mpr ha, List.all_eq_true.mpr hr, hlast]
  simp [List.isEmpty_iff, hne]

/-- `bytes={a}-{b}` reads back as the closed range from `a` to `b`. -/
theorem parseByteRange_render (a b : Nat) :
    parseByteRange ("bytes=".toList ++ reprNat a ++ '-' :: reprNat b) = some (a, some b) := by
  rw [parseByteRange_of_digits _ _ (some b) (fun _ => isDigit_of_mem_reprNat _) (reprNat_ne_nil a)
    (fun _ => isDigit_of_mem_reprNat _), digitsValue_reprNat]
  simp [List.isEmpty_iff, reprNat_ne_nil]

/-- `bytes={a}-` reads back as the range from `a` to the end. -/
theorem parseByteRange_render_open (a : Nat) :
    parseByteRange ("bytes=".toList ++ reprNat a ++ "-".toList) = some (a, none) := by
  rw [show "-".toList = ['-'] from rfl, parseByteRange_of_digits _ [] none
    (fun _ => isDigit_of_mem_reprNat _) (reprNat_ne_nil a) (fun _ h => nomatch h) rfl,
    digitsValue_reprNat]

/-! ## The ranges of the chunks -/

namespace SnowflakeS3RestClient

variable (c : SnowflakeS3RestClient)

/-- The range chunk `i` asks for: closed up to the start of the next chunk for every chunk
but the last, open for the last. -/
theorem rangeOf_downloadChunkRequest (hn : c.numOfChunks ≠ 1) (hc : 1 ≤ c.chunkSize) (i : Nat) :
    rangeOf (c.downloadChunkRequest i) =
      some (i * c.chunkSize,
        if i < c.numOfChunks - 1 then some ((i + 1) * c.chunkSize - 1) else none) := by
  simp only [rangeOf, downloadChunkRequest, if_neg hn, Option.getD_some,
    PyDict.get?_ofList_singleton, chunkRange]
  split
  · have hpos : 1 ≤ (i + 1) * c.chunkSize := Nat.mul_pos (Nat.succ_pos i) hc
    have hcast : ((i + 1) * c.chunkSize - 1 : Int) = (((i + 1) * c.chunkSize - 1 : Nat) : Int) := by
      have hm : ((i : Int) + 1) * c.chunkSize = (((i + 1) * c.chunkSize : Nat) : Int) := by
        push_cast
        rfl
      rw [hm]
      omega
    rw [hcast, reprInt_natCast, ← List.append_assoc]
    exact parseByteRange_render _ _
  · rw [← List.append_assoc]
    exact parseByteRange_render_open _

end SnowflakeS3RestClient

/-- What chunk `i` of `n` asks for, with chunks of `k` bytes: from `i*k`, up to the next
chunk's start unless it is the last. -/
theorem covers_chunk_iff {n k : Nat} (hk : 1 ≤ k) (i off : Nat) :
    Covers (i * k, if i < n - 1 then some ((i + 1) * k - 1) else none) off ↔
      i * k ≤ off ∧ (i < n - 1 → off < i * k + k) := by
  rw [Nat.succ_mul]
  unfold Covers
  split
  · next h =>
    simp only [Option.some.injEq, forall_eq', h, true_implies]
    omega
  · next h => simp only [reduceCtorEq, false_implies, implies_true, and_true, h]

/-- Two chunks that ask for the same offset are the same chunk. -/
theorem chunk_unique {n k i j off : Nat}
    (hi : i * k ≤ off ∧ (i < n - 1 → off < i * k + k)) (hj : j * k ≤ off ∧ (j < n - 1 → off < j * k + k))
    (hin : i < n) (hjn : j < n) : i = j := by
  have hlt : ∀ {a b : Nat}, a < b → b < n → a * k ≤ off ∧ (a < n - 1 → off < a * k + k) →
      b * k ≤ off → False := fun {a b} hab hb ha hb' => by
    have hmul : (a + 1) * k ≤ b * k := Nat.mul_le_mul_right k hab
    rw [Nat.succ_mul] at hmul
    have := ha.2 (by omega)
    omega
  rcases Nat.lt_trichotomy i j with h | h | h
  · exact (hlt h hjn hi hj.1).elim
  · exact h
  · exact (hlt h hin hj hi.1).elim

/-- The ranges the chunks of `c` ask for tile the object: chunk `i < n - 1` asks for the
non-empty closed range `[i*c, (i+1)*c - 1]`, the last chunk for everything from `(n-1)*c`
on, every offset is asked for by exactly one chunk, and for an object of size `S` with
`(n-1)*c < S ≤ n*c` every chunk starts inside the object. -/
def RangesTile (c : SnowflakeS3RestClient) : Prop :=
  (∀ i, i + 1 < c.numOfChunks →
    rangeOf (c.downloadChunkRequest i) =
        some (i * c.chunkSize, some ((i + 1) * c.chunkSize - 1)) ∧
      i * c.chunkSize ≤ (i + 1) * c.chunkSize - 1) ∧
  rangeOf (c.downloadChunkRequest (c.numOfChunks - 1)) =
    some ((c.numOfChunks - 1) * c.chunkSize, none) ∧
  (∀ off, ∃! i, i < c.numOfChunks ∧
    ∃ r, rangeOf (c.downloadChunkRequest i) = some r ∧ Covers r off) ∧
  ∀ S, (c.numOfChunks - 1) * c.chunkSize < S → S ≤ c.numOfChunks * c.chunkSize →
    ∀ i < c.numOfChunks, ∃ r, rangeOf (c.downloadChunkRequest i) = some r ∧ r.1 < S

/-- For `chunk_size ≥ 1` and at least two chunks, the ranges tile the object. -/
theorem downloadChunk_ranges_tile (c : SnowflakeS3RestClient) (hc : 1 ≤ c.chunkSize)
    (hn : 2 ≤ c.numOfChunks) : RangesTile c := by
  have hr := c.rangeOf_downloadChunkRequest (by omega) hc
  refine ⟨fun i hi => ⟨by rw [hr, if_pos (by omega)], ?_⟩, by rw [hr, if_neg (by omega)],
    fun off => ?_, fun S hS _ i hi => ⟨_, hr i, ?_⟩⟩
  · rw [Nat.succ_mul]
    omega
  · have hcov := covers_chunk_iff (n := c.numOfChunks) hc
    by_cases hlow : off < (c.numOfChunks - 1) * c.chunkSize
    · have hdiv : off / c.chunkSize < c.numOfChunks - 1 := (Nat.div_lt_iff_lt_mul hc).mpr hlow
      have hself : off / c.chunkSize * c.chunkSize ≤ off ∧
          (off / c.chunkSize < c.numOfChunks - 1 →
            off < off / c.chunkSize * c.chunkSize + c.chunkSize) :=
        ⟨Nat.div_mul_le_self off _, fun _ => Nat.lt_div_mul_add hc⟩
      refine ⟨off / c.chunkSize, ⟨by omega, _, hr _, (hcov _ off).mpr hself⟩, ?_⟩
      rintro j ⟨hj, _, hrj, hcj⟩
      rw [hr, Option.some.injEq] at hrj
      subst hrj
      exact chunk_unique ((hcov j off).mp hcj) hself hj (by omega)
    · refine ⟨c.numOfChunks - 1,
        ⟨by omega, _, hr _, (hcov _ off).mpr ⟨by omega, by omega⟩⟩, ?_⟩
      rintro j ⟨hj, _, hrj, hcj⟩
      rw [hr, Option.some.injEq] at hrj
      subst hrj
      exact chunk_unique ((hcov j off).mp hcj) ⟨by omega, by omega⟩ hj (by omega)
  · exact Nat.lt_of_le_of_lt (Nat.mul_le_mul_right _ (by omega)) hS

/-- The spec's sample: three chunks of 100 bytes. -/
def threeChunkClient : SnowflakeS3RestClient where
  meta := ⟨"f".toList, "f".toList, "d".toList, none⟩
  regionName := "r".toList
  s3location := ⟨"b".toList, []⟩
  endpoint := "https://b.s3.amazonaws.com".toList
  chunkSize := 100
  numOfChunks := 3
  encryptionMetadata := none
  uploadId := none
  etags := none
  downloaded := []

theorem downloadChunk_ranges_tile_threeChunks :
    1 ≤ threeChunkClient.chunkSize ∧ 2 ≤ threeChunkClient.numOfChunks ∧ RangesTile threeChunkClient :=
  ⟨by decide, by decide, downloadChunk_ranges_tile _ (by decide) (by decide)⟩

/-- The headers of the sample are `bytes=0-99`, `bytes=100-199` and `bytes=200-`. -/
example : rangeOf (threeChunkClient.downloadChunkRequest 0) = some (0, some 99) ∧
    rangeOf (threeChunkClient.downloadChunkRequest 1) = some (100, some 199) ∧
    rangeOf (threeChunkClient.downloadChunkRequest 2) = some (200, none) := by
  decide

end SnowflakeStorage.S3
