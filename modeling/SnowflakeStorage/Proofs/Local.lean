import SnowflakeStorage.Local.Client

/-!
# A name with a leading separator

An upload writes `join(expanduser(location), dst_file_name)`; a download reads
`join(expanduser(location), src_file_name)` with one leading `/` taken off the name.  For a
name that starts with `/`, `join` drops the stage location: the upload writes the name
itself, outside the stage, and the download reads the stage file of that name, whatever it
holds (`leadingSeparator_download_reads_stage_file`).  `Proofs/Stage.lean` covers the plain
names, for which the two paths agree.
-/

namespace SnowflakeStorage

namespace Local

open PyStr Posix Host SnowflakeLocalStorageClient

/-! ## A stage to run on -/

/-- A host whose stage directory `/stage` already holds a file `x`, next to a local
directory `/local`. -/
def stageHost : Host where
  node p :=
    if p = [] ∨ p = ["stage".toList] ∨ p = ["local".toList] then some .dir
    else if p = ["stage".toList, "x".toList] then some (.file [9])
    else none
  cwd := []
  dirSize := 4096
  env := ⟨none, "root".toList, []⟩

/-- The stream `[1, 2, 3]`, to be uploaded under `name` to the stage `/stage` and
downloaded back from it under the same name into `/local`. -/
def streamMeta (name : PyStr) : SnowflakeFileMeta where
  srcFileName := name
  realSrcFileName := name
  srcStream := some [1, 2, 3]
  realSrcStream := none
  stageInfo := PyDict.ofList [("location".toList, "/stage".toList)]
  dstFileName := name
  localLocation := "/local".toList
  uploadSize := 3
  dstFileSize := 0
  resultStatus := none

/-! ## A name with a leading separator -/

/-- The upload writes `/x` outside the stage; the download, into `/local/x`, which is not the
stage file `/stage/x` it reads, returns and copies that file's byte instead. -/
theorem leadingSeparator_download_reads_stage_file :
    ∃ meta₁ h₁ meta₂ h₂,
      uploadFileWithRetry (streamMeta "/x".toList) stageHost = .ok meta₁ h₁ ∧
      downloadFile meta₁ h₁ = .ok meta₂ h₂ ∧
      h₂.resolve "/local/x".toList = .ok ["local".toList, "x".toList] ∧
      h₂.resolve "/stage/x".toList = .ok ["stage".toList, "x".toList] ∧
      h₂.fileAt "/x".toList = some [1, 2, 3] ∧
      h₂.fileAt "/local/x".toList = some [9] ∧ meta₂.dstFileSize = 1 :=
  ⟨_, _, _, _, rfl, rfl, rfl, rfl, rfl, rfl, rfl⟩

end Local

end SnowflakeStorage
