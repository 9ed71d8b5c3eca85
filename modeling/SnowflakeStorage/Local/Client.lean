import SnowflakeStorage.Python.Dict
import SnowflakeStorage.Python.Os
import SnowflakeStorage.Constants

/-!
# `SnowflakeLocalStorageClient`

The client of a stage that is a directory of the host.  It keeps no state of its own: an
upload copies the source into the stage directory under the destination name, and a
download copies a file of the stage into the local directory, creating that directory
when it is missing.

The source of an upload is the file `real_src_file_name` when there is no `src_stream`,
and otherwise `real_src_stream or src_stream`.  A stream is the part of it not yet read;
copying it reads it to its end.  A file is read through the handle opened before the
destination is truncated, so a source that is the destination itself copies nothing.

`uploadFileWithRetry_eq_ok` and `downloadFile_eq_ok` say everything a call that returns
has done, and `uploadFileWithRetry_eq_error` and `downloadFile_eq_error` what one that
raises leaves: the file system as it was, but for the directories a download created on
the way to its local directory.
-/

namespace SnowflakeStorage

namespace Local

open PyStr Posix

/-- The fields of `SnowflakeFileMeta` the local client reads and writes. -/
structure SnowflakeFileMeta where
  srcFileName : PyStr
  realSrcFileName : PyStr
  srcStream : Option Bytes
  realSrcStream : Option Bytes
  /-- `client_meta.stage_info`; the client reads its string entry `location`. -/
  stageInfo : PyDict PyStr
  dstFileName : PyStr
  localLocation : PyStr
  uploadSize : Int
  dstFileSize : Int
  resultStatus : Option ResultStatus

/-- What `output.writelines(frd)` iterates over in an upload. -/
inductive Source where
  | file (p : Path)
  | realSrcStream
  | srcStream

/-- Iterating over a source to its end: its lines, and the metadata with the stream read. -/
def readSource (meta : SnowflakeFileMeta) : Source → OsM (List Bytes × SnowflakeFileMeta)
  | .file p => do pure (← readLines p, meta)
  | .realSrcStream =>
    pure (lines (meta.realSrcStream.getD []), { meta with realSrcStream := some [] })
  | .srcStream => pure (lines (meta.srcStream.getD []), { meta with srcStream := some [] })

@[simp] theorem readSource_file (meta : SnowflakeFileMeta) (p : Path) (h : Host) :
    readSource meta (.file p) h = .ok (lines (h.contentAt p), meta) h := rfl

/-- Reading a source changes nothing and never raises. -/
theorem readSource_eq_ok_self (meta : SnowflakeFileMeta) (frd : Source) (h : Host) :
    ∃ r, readSource meta frd h = .ok r h := by
  cases frd <;> exact ⟨_, rfl⟩

theorem stays_readSource (meta : SnowflakeFileMeta) (frd : Source) : Stays (readSource meta frd) :=
  fun h => by
    obtain ⟨r, hr⟩ := readSource_eq_ok_self meta frd h
    rw [hr]
    rfl

namespace SnowflakeLocalStorageClient

/-- The first statement of `_upload_file_with_retry`: `frd`, the file `real_src_file_name`
opened for reading when there is no `src_stream`, else `real_src_stream or src_stream`. -/
def openSource (meta : SnowflakeFileMeta) : OsM Source :=
  match meta.srcStream with
  | none => do pure (.file (← openRead meta.realSrcFileName))
  | some _ => pure (if meta.realSrcStream.isSome then .realSrcStream else .srcStream)

theorem stays_openSource (meta : SnowflakeFileMeta) : Stays (openSource meta) := by
  unfold openSource
  split
  · exact (stays_openRead _).bind fun _ => stays_pure _
  · exact stays_pure _

/-- `_upload_file_with_retry(meta)`. -/
def uploadFileWithRetry (meta : SnowflakeFileMeta) : OsM SnowflakeFileMeta := do
  let frd ← openSource meta
  let location ← liftResult (meta.stageInfo.getItem "location".toList)
  let host ← get
  let output ← openWrite (join (expanduser host.env location) meta.dstFileName)
  let (ls, meta) ← readSource meta frd
  writelines output ls
  pure { meta with dstFileSize := meta.uploadSize, resultStatus := some .uploaded }

/-- `_download_file(meta)`. -/
def downloadFile (meta : SnowflakeFileMeta) : OsM SnowflakeFileMeta := do
  let location ← liftResult (meta.stageInfo.getItem "location".toList)
  let host ← get
  let fullSrcFileName := join (expanduser host.env location)
    (if !startswith meta.srcFileName '/' then meta.srcFileName else meta.srcFileName.drop 1)
  let fullDstFileName := join meta.localLocation (basename meta.dstFileName)
  let baseDir := dirname fullDstFileName
  (if !host.pathExists baseDir then makedirs baseDir else pure ())
  let frd ← openRead fullSrcFileName
  let output ← openWrite fullDstFileName
  writelines output (← readLines frd)
  let size ← stat fullDstFileName
  pure { meta with dstFileSize := size, resultStatus := some .downloaded }

/-! ## What an upload and a download do -/

/-- The bytes an upload copies, as they stand before it: the rest of the stream it reads,
or the file `real_src_file_name` names, found empty when that file is the destination `p`
the upload has just truncated. -/
def uploadedBytes (meta : SnowflakeFileMeta) (h : Host) (p : Path) : Bytes :=
  match meta.srcStream with
  | some s => meta.realSrcStream.getD s
  | none =>
    match h.resolve meta.realSrcFileName with
    | .ok q => if q = p then [] else h.contentAt q
    | .error _ => []

variable {meta meta' : SnowflakeFileMeta} {h h' : Host}

/-- Opening the source changes nothing, and once the destination `p` is truncated the
source holds the bytes the upload copies. -/
theorem openSource_eq_ok {frd : Source} {h₁ : Host} (ho : openSource meta h = .ok frd h₁) :
    h₁ = h ∧ ∀ p, ∃ meta₁, readSource meta frd (h.setNode p (.file [])) =
        .ok (lines (uploadedBytes meta h p), meta₁) (h.setNode p (.file [])) ∧
      meta₁.uploadSize = meta.uploadSize := by
  unfold openSource at ho
  cases hs : meta.srcStream with
  | none =>
    simp only [hs, bind_eq_ok] at ho
    obtain ⟨q, h₂, hq, hpure⟩ := ho
    obtain ⟨hr, -, hh⟩ := openRead_eq_ok hq
    obtain ⟨rfl, rfl⟩ := pure_eq_ok.mp hpure
    refine ⟨hh, fun p => ⟨meta, ?_, rfl⟩⟩
    simp only [readSource_file, Host.contentAt_setNode_file, uploadedBytes, hs, hr]
  | some s =>
    simp only [hs] at ho
    obtain ⟨rfl, rfl⟩ := pure_eq_ok.mp ho
    refine ⟨rfl, fun p => ?_⟩
    cases hr : meta.realSrcStream <;> simp only [readSource, uploadedBytes, hs, hr] <;>
      exact ⟨_, rfl, rfl⟩

/-- Everything an upload that returns has done: it wrote the bytes of its source to the
file the destination name names under the stage location, and set the size. -/
theorem uploadFileWithRetry_eq_ok (hup : uploadFileWithRetry meta h = .ok meta' h') :
    ∃ location p, meta.stageInfo.get? "location".toList = some location ∧
      h.resolve (join (expanduser h.env location) meta.dstFileName) = .ok p ∧
      h.node p ≠ some .dir ∧ h' = h.setNode p (.file (uploadedBytes meta h p)) ∧
      meta'.dstFileSize = meta.uploadSize := by
  simp only [uploadFileWithRetry, bind_eq_ok] at hup
  obtain ⟨frd, h₁, hfrd, location, h₂, hloc, host, h₃, hget, output, h₄, hout, hrest⟩ :=
    hup
  obtain ⟨⟨ls, meta₁⟩, h₅, hread, u, h₆, hw, hpure⟩ := hrest
  obtain ⟨hh, hsrc⟩ := openSource_eq_ok hfrd
  subst h₁
  obtain ⟨hget', rfl⟩ := liftResult_eq_ok.mp hloc
  obtain ⟨hh, hh'⟩ := get_eq_ok.mp hget
  subst host h₃
  obtain ⟨hr, hnd, rfl⟩ := openWrite_eq_ok hout
  obtain ⟨meta₂, hread', hsize⟩ := hsrc output
  rw [hread'] at hread
  cases hread
  have hnode : (h.setNode output (.file [])).node output = some (.file []) := by simp
  rw [writelines_of_file hnode] at hw
  cases hw
  obtain ⟨rfl, rfl⟩ := pure_eq_ok.mp hpure
  exact ⟨location, output, PyDict.getItem_eq_ok.mp hget', hr, hnd, by simp, hsize⟩

/-- Everything a download that returns has done: after creating the missing local
directory, it copied the file the source name names under the stage location (less one
leading `/`) to the file the destination's base name names in the local directory, and set
the size to that file's. -/
theorem downloadFile_eq_ok (hdown : downloadFile meta h = .ok meta' h') :
    ∃ (location : PyStr) (hm : Host) (s d : Path),
      meta.stageInfo.get? "location".toList = some location ∧ Host.AddsDirs h hm ∧
      hm.resolve (join (expanduser h.env location)
        (if !startswith meta.srcFileName '/' then meta.srcFileName
          else meta.srcFileName.drop 1)) = .ok s ∧
      (∃ b, hm.node s = some (.file b)) ∧
      hm.resolve (join meta.localLocation (basename meta.dstFileName)) = .ok d ∧
      hm.node d ≠ some .dir ∧
      h' = hm.setNode d (.file (if s = d then [] else hm.contentAt s)) ∧
      meta'.dstFileSize = (if s = d then [] else hm.contentAt s).length := by
  simp only [downloadFile, bind_eq_ok] at hdown
  obtain ⟨location, h₁, hloc, host, h₂, hget, hrest⟩ := hdown
  obtain ⟨hget', rfl⟩ := liftResult_eq_ok.mp hloc
  obtain ⟨hh, hh'⟩ := get_eq_ok.mp hget
  subst host h₂
  obtain ⟨u, hm, hmk, frd, h₃, hrd, output, h₄, hwr, ls, h₅, hls, u', h₆, hw, size, h₇,
    hst, hpure⟩ := hrest
  have hg : Host.AddsDirs h hm := addsDirs_makedirs_if hmk
  obtain ⟨hs, hb, hh₃⟩ := openRead_eq_ok hrd
  subst h₃
  obtain ⟨hd, hnd, rfl⟩ := openWrite_eq_ok hwr
  cases hls
  obtain ⟨hw', hst'⟩ := writelines_stat hd hnd (lines ((hm.setNode output (.file [])).contentAt frd))
  rw [hw'] at hw
  cases hw
  rw [hst'] at hst
  cases hst
  obtain ⟨rfl, rfl⟩ := pure_eq_ok.mp hpure
  rw [flatten_lines, Host.contentAt_setNode_file]
  exact ⟨location, hm, frd, output, PyDict.getItem_eq_ok.mp hget', hg, hs, hb, hd, hnd, rfl,
    rfl⟩

/-! ## What an upload and a download that raise leave -/

/-- An upload that raises leaves the file system as it found it: it raises before it opens
the destination, or because it cannot, and nothing after that raises. -/
theorem uploadFileWithRetry_eq_error {e : PyError}
    (hup : uploadFileWithRetry meta h = .error e h') : h' = h := by
  simp only [uploadFileWithRetry, bind_eq_error] at hup
  rcases hup with hs | ⟨frd, h₁, hs, hl | ⟨location, h₂, hl, hg | ⟨host, h₃, hg, hw | ⟨output,
    h₄, hw, hrest⟩⟩⟩⟩
  · exact (stays_openSource meta).eq_error hs
  · rw [(stays_openSource meta).eq_ok hs] at hl
    exact (stays_liftResult _).eq_error hl
  · cases hg
  · obtain rfl := (stays_openSource meta).eq_ok hs
    obtain rfl := (stays_liftResult _).eq_ok hl
    obtain ⟨rfl, rfl⟩ := get_eq_ok.mp hg
    exact openWrite_eq_error hw
  · exfalso
    obtain ⟨r, hr⟩ := readSource_eq_ok_self meta frd h₄
    rcases hrest with hr' | ⟨⟨ls, m⟩, h₅, hr', hrest⟩
    · rw [hr] at hr'
      cases hr'
    · simp only [bind_eq_error] at hrest
      rcases hrest with hwl | ⟨u, h₆, -, hp⟩
      · simp only [writelines] at hwl
        split at hwl <;> cases hwl
      · cases hp

/-- A download that raises leaves the file system as it found it, up to the directories it
created for the local directory: it raises before it opens the destination, or because it
cannot, and nothing after that raises. -/
theorem downloadFile_eq_error {e : PyError} (hdown : downloadFile meta h = .error e h') :
    Host.AddsDirs h h' := by
  simp only [downloadFile, bind_eq_error] at hdown
  rcases hdown with hl | ⟨location, h₁, hl, hg | ⟨host, h₂, hg, hmk | ⟨u, hm, hmk, hrest⟩⟩⟩
  · rw [(stays_liftResult _).eq_error hl]
    exact .refl h
  · cases hg
  all_goals obtain rfl := (stays_liftResult _).eq_ok hl
  all_goals obtain ⟨rfl, rfl⟩ := get_eq_ok.mp hg
  · exact addsDirs_makedirs_if hmk
  have hg : Host.AddsDirs _ hm := addsDirs_makedirs_if hmk
  rcases hrest with hrd | ⟨frd, h₃, hrd, hwr | ⟨output, h₄, hwr, hls | ⟨ls, h₅, hls, hw | ⟨u', h₆,
    hw, hst | ⟨size, h₇, hst, hp⟩⟩⟩⟩⟩
  · rwa [(stays_openRead _).eq_error hrd]
  · rwa [openWrite_eq_error hwr, (stays_openRead _).eq_ok hrd]
  -- once the destination is open, the copy and `stat` never raise
  all_goals exfalso
  all_goals obtain rfl := (stays_openRead _).eq_ok hrd
  all_goals obtain ⟨hd, hnd, rfl⟩ := openWrite_eq_ok hwr
  all_goals cases hls
  · rw [(writelines_stat hd hnd _).1] at hw
    cases hw
  · rw [(writelines_stat hd hnd _).1] at hw
    cases hw
    rw [(writelines_stat hd hnd _).2] at hst
    cases hst
  · cases hp

end SnowflakeLocalStorageClient

end Local

end SnowflakeStorage
