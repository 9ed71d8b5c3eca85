import SnowflakeStorage.S3.Client

/-!
# The stage location

`_extract_bucket_name_and_path` cuts a stage location `bucket/prefix...` at its first `/`
and adds a `/` to a non-empty prefix that lacks one.  `extractBucketNameAndPath_spec`
gathers what this gives for every string: the bucket is the text before the first `/`,
the prefix is empty or ends in `/`, the location comes back from the two up to that added
`/`, and parsing `bucket/prefix` again gives the same pair.  Every object key the client
builds starts with the prefix (`objectPath`), so a separator lost or doubled here would
move every key.
-/

namespace SnowflakeStorage.S3

open PyStr

/-- The prefix `_extract_bucket_name_and_path` keeps of `path`: `/` added to a non-empty
path that lacks one. -/
def withTrailingSlash (path : PyStr) : PyStr :=
  if !path.isEmpty && !endswith path '/' then path ++ "/".toList else path

theorem extractBucketNameAndPath_eq (s : PyStr) :
    extractBucketNameAndPath s =
      ⟨(partition '/' s).1, withTrailingSlash (partition '/' s).2.2⟩ := rfl

theorem withTrailingSlash_cases (p : PyStr) :
    withTrailingSlash p = p ∨ withTrailingSlash p = p ++ ['/'] := by
  unfold withTrailingSlash
  split
  · exact .inr rfl
  · exact .inl rfl

/-- The kept prefix is empty or ends in `/`. -/
theorem withTrailingSlash_terminated (p : PyStr) :
    withTrailingSlash p = [] ∨ endswith (withTrailingSlash p) '/' = true := by
  unfold withTrailingSlash
  split
  · simp [endswith]
  · next h =>
    simp only [Bool.and_eq_true, Bool.not_eq_true', not_and, Bool.not_eq_false] at h
    cases p with
    | nil => exact .inl rfl
    | cons c p => exact .inr (h rfl)

/-- A prefix that is empty or ends in `/` is kept as it is. -/
theorem withTrailingSlash_of_terminated {p : PyStr} (h : p = [] ∨ endswith p '/' = true) :
    withTrailingSlash p = p := by
  unfold withTrailingSlash
  rcases h with rfl | h
  · rfl
  · simp [h]

/-- What `_extract_bucket_name_and_path` gives of the stage location `s`, as `loc`. -/
structure LocationSplit (s : PyStr) (loc : S3Location) : Prop where
  bucket : loc.bucketName = s.takeWhile (· != '/')
  path : loc.path = [] ∨ endswith loc.path '/' = true
  without_slash : '/' ∉ s → s = loc.bucketName
  with_slash : '/' ∈ s →
    s = loc.bucketName ++ '/' :: loc.path ∨ s ++ ['/'] = loc.bucketName ++ '/' :: loc.path
  reparse : extractBucketNameAndPath (loc.bucketName ++ '/' :: loc.path) = loc

theorem extractBucketNameAndPath_spec (s : PyStr) :
    LocationSplit s (extractBucketNameAndPath s) where
  bucket := partition_fst '/' s
  path := withTrailingSlash_terminated _
  without_slash h := by
    rw [extractBucketNameAndPath_eq, partition_of_not_mem h]
  with_slash h := by
    have hjoin := partition_join '/' s
    rw [if_pos h] at hjoin
    rw [extractBucketNameAndPath_eq]
    rcases withTrailingSlash_cases (partition '/' s).2.2 with he | he <;> rw [he]
    · exact .inl hjoin.symm
    · exact .inr (by rw [← List.cons_append, ← List.append_assoc, hjoin])
  reparse := by
    simp only [extractBucketNameAndPath_eq, partition_append_cons (not_mem_partition_fst '/' s),
      withTrailingSlash_of_terminated (withTrailingSlash_terminated _)]

example : extractBucketNameAndPath "bucket/prefix".toList = ⟨"bucket".toList, "prefix/".toList⟩ :=
  by decide

end SnowflakeStorage.S3
