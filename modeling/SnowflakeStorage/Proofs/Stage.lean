import SnowflakeStorage.Proofs.Local

/-!
# A local stage is a store

Seen through the names of its files (`contentsOf`), a local stage is a map from names to
bytes (`Contents`), and the client's calls act on it as a store does: an upload that
returns puts the bytes it copied under its destination name, a download reads the bytes
stored under its source name, and nothing else changes the map.

This holds for plain names (one step down into a directory, `PlainName`) on a host where
the stage location and the local directory name two different directories (`Layout`).
Then:

* `contentsOf_runCalls`: after any sequence of uploads and downloads, each returning or
  raising, the stage holds exactly what the uploads that returned put, in order, over
  what it held before.  A raising upload leaves the file system as it was
  (`uploadFileWithRetry_eq_error`), and a download only writes its destination in the
  local directory and, when it raises, only leaves the directories it created
  (`downloadFile_eq_error`).
* `downloadFile_after_run`: a download of a name returns the bytes of the last upload of
  that name, whatever calls on other names came in between.

Strategy: one simulation lemma per call (`contentsOf_upload_ok`, `contentsOf_download`,
`downloadFile_reads_contents`) on top of the inversion lemmas of `Local/Client.lean`,
gathered into the step lemma `contentsOf_run`, from which the run lemmas follow by
induction; `Layout` is carried along the run by `KeepsDirs`, which every call keeps
(`keepsDirs_run`).
-/

namespace SnowflakeStorage.Local

open PyStr Posix Host SnowflakeLocalStorageClient

/-! ## The stage as a map -/

/-- What a stage holds: the bytes stored under each name. -/
abbrev Contents := PyStr → Option Bytes

/-- `s` with `v` stored under `k`. -/
def Contents.put (s : Contents) (k : PyStr) (v : Bytes) : Contents :=
  fun k' => if k' = k then some v else s k'

/-- Storing under other names leaves `k` as it was. -/
theorem foldl_put_of_ne {k : PyStr} :
    ∀ {ps : List (PyStr × Bytes)} (s : Contents), (∀ p ∈ ps, p.1 ≠ k) →
      ps.foldl (fun s p => s.put p.1 p.2) s k = s k
  | [], _, _ => rfl
  | p :: ps, s, hps => by
    rw [List.foldl_cons, foldl_put_of_ne _ fun q hq => hps q (List.mem_cons_of_mem p hq)]
    exact if_neg (Ne.symm (hps p (List.mem_cons_self p ps)))

/-- The files directly in the directory `dir`, by name. -/
def contentsOf (dir : Path) (h : Host) : Contents := fun k =>
  match h.node (dir ++ [k]) with
  | some (.file b) => some b
  | _ => none

variable {dir stage : Path} {h h' : Host}

/-- Added directories hold no bytes. -/
theorem contentsOf_of_addsDirs (hd : AddsDirs h h') : contentsOf dir h' = contentsOf dir h := by
  funext k
  unfold contentsOf
  rcases hd.nodes (dir ++ [k]) with he | ⟨hn, hd⟩
  · rw [he]
  · rw [hn, hd]

theorem contentsOf_setNode_entry (k : PyStr) (b : Bytes) :
    contentsOf dir (h.setNode (dir ++ [k]) (.file b)) = (contentsOf dir h).put k b := by
  funext k'
  simp only [contentsOf, Contents.put, node_setNode, List.append_cancel_left_eq, List.cons.injEq,
    and_true]
  split_ifs <;> rfl

theorem contentsOf_setNode_outside {p : Path} (hp : ∀ k, p ≠ dir ++ [k]) (n : Node) :
    contentsOf dir (h.setNode p n) = contentsOf dir h := by
  funext k
  simp only [contentsOf, node_setNode, if_neg (Ne.symm (hp k))]

/-! ## Where the calls read and write -/

/-- The stage `location` names the directory `stage`, and `localLocation` names another
directory, `dir`. -/
structure Layout (location localLocation : PyStr) (stage dir : Path) (h : Host) : Prop where
  stageResolves : h.resolve (expanduser h.env location) = .ok stage
  stageIsDir : h.node stage = some .dir
  localResolves : h.resolve localLocation = .ok dir
  localIsDir : h.node dir = some .dir
  distinct : dir ≠ stage

variable {location localLocation : PyStr}

theorem Layout.of_keepsDirs (hl : Layout location localLocation stage dir h)
    (hk : KeepsDirs h h') : Layout location localLocation stage dir h' where
  stageResolves := hk.env ▸ resolve_of_keepsDirs hk hl.stageResolves
  stageIsDir := hk.dirs _ hl.stageIsDir
  localResolves := resolve_of_keepsDirs hk hl.localResolves
  localIsDir := hk.dirs _ hl.localIsDir
  distinct := hl.distinct

/-- An entry of the local directory is no entry of the stage. -/
theorem Layout.entry_ne (hl : Layout location localLocation stage dir h) (k k' : PyStr) :
    dir ++ [k'] ≠ stage ++ [k] := fun he =>
  hl.distinct (List.append_inj' he rfl).1

/-- A call the transfer agent makes on the client. -/
inductive Call where
  | upload (meta : SnowflakeFileMeta)
  | download (meta : SnowflakeFileMeta)

/-- Making the call. -/
def Call.run : Call → OsM SnowflakeFileMeta
  | .upload meta => uploadFileWithRetry meta
  | .download meta => downloadFile meta

/-- A call on the stage `location` with plain names; a download into `localLocation`. -/
def Call.OnStage (location localLocation : PyStr) : Call → Prop
  | .upload meta =>
    meta.stageInfo.get? "location".toList = some location ∧ PlainName meta.dstFileName
  | .download meta =>
    meta.stageInfo.get? "location".toList = some location ∧ PlainName meta.srcFileName ∧
      meta.localLocation = localLocation ∧ PlainName (basename meta.dstFileName)

instance (location localLocation : PyStr) : (c : Call) → Decidable (c.OnStage location localLocation)
  | .upload _ => inferInstanceAs (Decidable (_ ∧ _))
  | .download _ => inferInstanceAs (Decidable (_ ∧ _))

/-! ## One call -/

variable {meta meta' : SnowflakeFileMeta}

/-- Every call keeps every directory, whether it returns or raises. -/
theorem keepsDirs_run (c : Call) (h : Host) : KeepsDirs h (finalHost (c.run h)) := by
  cases c with
  | upload meta =>
    cases hr : uploadFileWithRetry meta h with
    | ok m h' =>
      obtain ⟨-, p, -, -, hnd, rfl, -⟩ := uploadFileWithRetry_eq_ok hr
      simp only [Call.run, hr, finalHost]
      exact keepsDirs_setNode fun h => absurd h hnd
    | error e h' =>
      simp only [Call.run, hr, finalHost]
      exact uploadFileWithRetry_eq_error hr ▸ .refl h
  | download meta =>
    simp only [Call.run]
    cases hr : downloadFile meta h with
    | ok m h' =>
      obtain ⟨-, hm, -, d, -, hd, -, -, -, hnd, rfl, -⟩ := downloadFile_eq_ok hr
      exact hd.keepsDirs.trans (keepsDirs_setNode fun h => absurd h hnd)
    | error e h' => exact (downloadFile_eq_error hr).keepsDirs

/-- An upload that returns stores the bytes it copied under its name. -/
theorem contentsOf_upload_ok (hl : Layout location localLocation stage dir h)
    (hon : (Call.upload meta).OnStage location localLocation)
    (hup : uploadFileWithRetry meta h = .ok meta' h') :
    contentsOf stage h' = (contentsOf stage h).put meta.dstFileName
      (uploadedBytes meta h (stage ++ [meta.dstFileName])) := by
  obtain ⟨l, p, hloc, hp, -, rfl, -⟩ := uploadFileWithRetry_eq_ok hup
  rw [hon.1, Option.some.injEq] at hloc
  subst l
  rw [resolve_join_of_plainName hl.stageResolves hl.stageIsDir hon.2, Except.ok.injEq] at hp
  subst p
  exact contentsOf_setNode_entry _ _

/-- A download that returns copies the bytes stored under its source name into the local
directory, and leaves the stage as it was. -/
theorem downloadFile_reads_contents (hl : Layout location localLocation stage dir h)
    (hon : (Call.download meta).OnStage location localLocation)
    (hdown : downloadFile meta h = .ok meta' h') :
    ∃ b, contentsOf stage h meta.srcFileName = some b ∧
      h'.fileAt (join localLocation (basename meta.dstFileName)) = some b ∧
      meta'.dstFileSize = b.length ∧ contentsOf stage h' = contentsOf stage h := by
  obtain ⟨hloc, hsrc, hlocal, hdst⟩ := hon
  obtain ⟨l, hm, s, d, hl', hadd, hs, ⟨b, hb⟩, hd, hnd, rfl, hsize⟩ := downloadFile_eq_ok hdown
  rw [hloc, Option.some.injEq] at hl'
  subst l
  have hlm := hl.of_keepsDirs hadd.keepsDirs
  -- the download reads the stage entry and writes the local one
  rw [startswith_of_plainName hsrc, Bool.not_false, if_pos rfl, ← hadd.env,
    resolve_join_of_plainName hlm.stageResolves hlm.stageIsDir hsrc, Except.ok.injEq] at hs
  rw [hlocal, resolve_join_of_plainName hlm.localResolves hlm.localIsDir hdst, Except.ok.injEq] at hd
  subst s d
  have hbh : h.node (stage ++ [meta.srcFileName]) = some (.file b) := by
    rcases hadd.nodes (stage ++ [meta.srcFileName]) with he | ⟨-, he⟩
    · exact he ▸ hb
    · exact absurd (he.symm.trans hb) (by simp)
  have hne := hl.entry_ne meta.srcFileName (basename meta.dstFileName)
  have hcopy : (if stage ++ [meta.srcFileName] = dir ++ [basename meta.dstFileName] then []
      else hm.contentAt (stage ++ [meta.srcFileName])) = b := by
    simp [Ne.symm hne, contentAt, hb]
  rw [hcopy] at hsize ⊢
  have hk := @keepsDirs_setNode hm (dir ++ [basename meta.dstFileName]) (.file b)
    fun h => absurd h hnd
  refine ⟨b, by simp [contentsOf, hbh], ?_, hsize, ?_⟩
  · simp [fileAt, resolve_of_keepsDirs hk (resolve_join_of_plainName hlm.localResolves hlm.localIsDir
      hdst)]
  · rw [contentsOf_setNode_outside (fun k => hl.entry_ne k _), contentsOf_of_addsDirs hadd]

/-- A download leaves the stage as it was, whether it returns or raises. -/
theorem contentsOf_download (hl : Layout location localLocation stage dir h)
    (hon : (Call.download meta).OnStage location localLocation) :
    contentsOf stage (finalHost (downloadFile meta h)) = contentsOf stage h := by
  cases hr : downloadFile meta h with
  | ok m h' => exact (downloadFile_reads_contents hl hon hr).choose_spec.2.2.2
  | error e h' => exact contentsOf_of_addsDirs (downloadFile_eq_error hr)

/-! ## Runs -/

/-- The host a sequence of calls leaves, each call made on the host the one before left,
whether it returned or raised. -/
def runCalls : Host → List Call → Host
  | h, [] => h
  | h, c :: cs => runCalls (finalHost (c.run h)) cs

/-- What the uploads of a run that returned stored, in order: the name and the bytes each
copied. -/
def stored (stage : Path) : Host → List Call → List (PyStr × Bytes)
  | _, [] => []
  | h, .upload meta :: cs =>
    match uploadFileWithRetry meta h with
    | .ok _ h' => (meta.dstFileName, uploadedBytes meta h (stage ++ [meta.dstFileName])) ::
      stored stage h' cs
    | .error _ h' => stored stage h' cs
  | h, .download meta :: cs => stored stage (finalHost (downloadFile meta h)) cs

theorem keepsDirs_runCalls : ∀ (h : Host) (calls : List Call), KeepsDirs h (runCalls h calls)
  | h, [] => .refl h
  | h, c :: cs => (keepsDirs_run c h).trans (keepsDirs_runCalls _ cs)

/-- Every name a run stores under is the destination of one of its uploads. -/
theorem mem_stored {p : PyStr × Bytes} {calls : List Call} :
    ∀ {h : Host}, p ∈ stored stage h calls → ∃ meta, Call.upload meta ∈ calls ∧ p.1 = meta.dstFileName := by
  induction calls with
  | nil => exact fun hp => absurd hp (List.not_mem_nil p)
  | cons c cs ih =>
    intro h hp
    have hrest : ∀ {h'}, p ∈ stored stage h' cs →
        ∃ meta, Call.upload meta ∈ c :: cs ∧ p.1 = meta.dstFileName :=
      fun hp => (ih hp).imp fun _ ⟨hm, he⟩ => ⟨List.mem_cons_of_mem c hm, he⟩
    cases c with
    | upload meta =>
      simp only [stored] at hp
      split at hp
      · rcases List.mem_cons.mp hp with rfl | hp
        · exact ⟨meta, List.mem_cons_self _ _, rfl⟩
        · exact hrest hp
      · exact hrest hp
    | download meta => exact hrest hp

/-- One call on the stage puts what it stored, and changes nothing else there. -/
theorem contentsOf_run (hl : Layout location localLocation stage dir h) {c : Call}
    (hon : c.OnStage location localLocation) :
    contentsOf stage (finalHost (c.run h)) =
      (stored stage h [c]).foldl (fun s p => s.put p.1 p.2) (contentsOf stage h) := by
  cases c with
  | upload meta =>
    simp only [Call.run, stored]
    cases hr : uploadFileWithRetry meta h with
    | ok m h' => exact contentsOf_upload_ok hl hon hr
    | error e h' => exact congrArg (contentsOf stage) (uploadFileWithRetry_eq_error hr)
  | download meta => exact contentsOf_download hl hon

/-- A run that uploads nothing under the name `k` leaves the stage's entry `k` as it was. -/
theorem contentsOf_runCalls_of_ne {k : PyStr} :
    ∀ {h : Host} {calls : List Call}, Layout location localLocation stage dir h →
      (∀ c ∈ calls, c.OnStage location localLocation) →
      (∀ m, Call.upload m ∈ calls → m.dstFileName ≠ k) →
      contentsOf stage (runCalls h calls) k = contentsOf stage h k
  | _, [], _, _, _ => rfl
  | h, c :: cs, hl, hcalls, hne => by
    rw [runCalls, contentsOf_runCalls_of_ne (hl.of_keepsDirs (keepsDirs_run c h))
      (fun c' hc' => hcalls c' (.tail _ hc')) fun m hm => hne m (.tail _ hm),
      contentsOf_run hl (hcalls c (.head _))]
    refine foldl_put_of_ne _ fun p hp => ?_
    obtain ⟨m, hm, he⟩ := mem_stored hp
    rw [he]
    exact hne m (List.mem_singleton.mp hm ▸ .head _)

/-- The stage of `stageHost`, `/stage`, with the local directory `/local`. -/
theorem stageHost_layout :
    Layout "/stage".toList "/local".toList ["stage".toList] ["local".toList] stageHost :=
  ⟨rfl, rfl, rfl, rfl, by decide⟩

/-- A download returns the bytes of the last upload of its name: after an upload that
returned, any calls that upload no file of that name, and a download of the name that
returns, the local file holds exactly the bytes the upload copied. -/
theorem downloadFile_after_run {h₀ h₁ h₂ : Host} {meta₁ meta₂ : SnowflakeFileMeta}
    {calls : List Call} (hl : Layout location localLocation stage dir h₀)
    (hupOn : (Call.upload meta).OnStage location localLocation)
    (hup : uploadFileWithRetry meta h₀ = .ok meta₁ h₁)
    (hcalls : ∀ c ∈ calls, c.OnStage location localLocation)
    (hother : ∀ m, Call.upload m ∈ calls → m.dstFileName ≠ meta.dstFileName)
    (hdownOn : (Call.download meta').OnStage location localLocation)
    (hname : meta'.srcFileName = meta.dstFileName)
    (hdown : downloadFile meta' (runCalls h₁ calls) = .ok meta₂ h₂) :
    h₂.fileAt (join localLocation (basename meta'.dstFileName)) =
        some (uploadedBytes meta h₀ (stage ++ [meta.dstFileName])) ∧
      meta₂.dstFileSize = (uploadedBytes meta h₀ (stage ++ [meta.dstFileName])).length := by
  have hl₁ : Layout location localLocation stage dir h₁ := by
    have := hl.of_keepsDirs (keepsDirs_run (.upload meta) h₀)
    rwa [Call.run, hup] at this
  obtain ⟨b, hb, hfile, hsize, -⟩ :=
    downloadFile_reads_contents (hl₁.of_keepsDirs (keepsDirs_runCalls h₁ calls)) hdownOn hdown
  -- the run stored nothing under the name, so the stage still holds the upload's bytes
  rw [contentsOf_runCalls_of_ne hl₁ hcalls fun m hm => hname ▸ hother m hm, hname,
    contentsOf_upload_ok hl hupOn hup, Contents.put, if_pos rfl, Option.some.injEq] at hb
  subst b
  exact ⟨hfile, hsize⟩

/-- The host after uploading `[1, 2, 3]` as `x` to the stage of `stageHost`. -/
def uploadedHost : Host := finalHost (uploadFileWithRetry (streamMeta "x".toList) stageHost)

/-- `x` uploaded, then `y`, then `x` downloaded into `/local`. -/
theorem downloadFile_after_run_sampleRun :
    Layout "/stage".toList "/local".toList ["stage".toList] ["local".toList] stageHost ∧
      (Call.upload (streamMeta "x".toList)).OnStage "/stage".toList "/local".toList ∧
      uploadFileWithRetry (streamMeta "x".toList) stageHost =
        .ok { streamMeta "x".toList with
              srcStream := some [], dstFileSize := 3, resultStatus := some .uploaded }
          uploadedHost ∧
      (∀ c ∈ [Call.upload (streamMeta "y".toList)], c.OnStage "/stage".toList "/local".toList) ∧
      (∀ m, Call.upload m ∈ [Call.upload (streamMeta "y".toList)] →
        m.dstFileName ≠ (streamMeta "x".toList).dstFileName) ∧
      (Call.download (streamMeta "x".toList)).OnStage "/stage".toList "/local".toList ∧
      downloadFile (streamMeta "x".toList) (runCalls uploadedHost [.upload (streamMeta "y".toList)]) =
        .ok { streamMeta "x".toList with dstFileSize := 3, resultStatus := some .downloaded }
          (finalHost (downloadFile (streamMeta "x".toList)
            (runCalls uploadedHost [.upload (streamMeta "y".toList)]))) ∧
      (finalHost (downloadFile (streamMeta "x".toList)
          (runCalls uploadedHost [.upload (streamMeta "y".toList)]))).fileAt "/local/x".toList =
        some [1, 2, 3] := by
  have hother : ∀ m, Call.upload m ∈ [Call.upload (streamMeta "y".toList)] →
      m.dstFileName ≠ (streamMeta "x".toList).dstFileName := by
    simp only [List.mem_singleton, Call.upload.injEq]
    rintro m rfl
    decide
  have hup : uploadFileWithRetry (streamMeta "x".toList) stageHost =
      .ok { streamMeta "x".toList with
          srcStream := some [], dstFileSize := 3, resultStatus := some .uploaded } uploadedHost :=
    rfl
  have hdown : downloadFile (streamMeta "x".toList)
      (runCalls uploadedHost [.upload (streamMeta "y".toList)]) =
        .ok { streamMeta "x".toList with dstFileSize := 3, resultStatus := some .downloaded }
          (finalHost (downloadFile (streamMeta "x".toList)
            (runCalls uploadedHost [.upload (streamMeta "y".toList)]))) :=
    rfl
  have hrun := downloadFile_after_run stageHost_layout (by decide) hup (by decide) hother
    (by decide) rfl hdown
  exact ⟨stageHost_layout, by decide, hup, by decide, hother, by decide, hdown, hrun.1⟩

end SnowflakeStorage.Local
