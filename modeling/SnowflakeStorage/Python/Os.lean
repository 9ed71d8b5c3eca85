import SnowflakeStorage.Python.Basic

/-!
# `os` and `os.path` on a POSIX host

The local storage client names its files with `os.path.join`, `basename`, `dirname` and
`expanduser`, and moves bytes with `open`, `writelines`, `os.path.exists`, `os.makedirs`
and `os.stat`.

The path functions are CPython's `posixpath`, on strings.  The host is a file system
keyed by resolved paths (the names of the components from the root), together with the
working directory and what `expanduser` reads.  A string names a node through `resolve`,
which walks it one component at a time as the kernel does: each component is looked up in
a directory that must exist, `.` and empty components stay where they are, and `..` goes
up (at the root it stays).  Symbolic links, permissions, modes and which `OSError` a failed
lookup raises are left out.

A handle is the resolved path of the file it was opened on.  Iterating over a binary file
yields its lines, each up to and including a newline byte, and `writelines` writes them
back one after another, so copying a file through them is the identity (`flatten_lines`).

An exception does not undo the changes made before it, so the operations run in
`EStateM PyError Host`, whose error case keeps the host.
-/

namespace SnowflakeStorage

namespace PyStr

/-- `s.rstrip(c)`. -/
def rstrip (c : Char) (s : PyStr) : PyStr := (s.reverse.dropWhile (· == c)).reverse

theorem length_rstrip_le (c : Char) (s : PyStr) : (rstrip c s).length ≤ s.length := by
  simpa [rstrip] using (List.dropWhile_suffix (· == c) (l := s.reverse)).length_le

end PyStr

namespace Posix

open PyStr

/-! ## `posixpath` -/

/-- `posixpath.join(a, b)`. -/
def join (a b : PyStr) : PyStr :=
  if startswith b '/' then b
  else if a.isEmpty || endswith a '/' then a ++ b
  else a ++ '/' :: b

/-- `posixpath.basename(p)`: `p[p.rfind('/') + 1:]`, the text after the last `/`. -/
def basename (p : PyStr) : PyStr := (p.reverse.takeWhile (· != '/')).reverse

/-- `p[:p.rfind('/') + 1]`: the text up to and including the last `/`. -/
def headOf (p : PyStr) : PyStr := p.take (p.length - (basename p).length)

/-- `posixpath.dirname(p)`: the head without its trailing slashes, unless it is all
slashes. -/
def dirname (p : PyStr) : PyStr :=
  let head := headOf p
  if !head.isEmpty && !head.all (· == '/') then rstrip '/' head else head

/-- `posixpath.split(p)`. -/
def split (p : PyStr) : PyStr × PyStr := (dirname p, basename p)

theorem length_basename_le (p : PyStr) : (basename p).length ≤ p.length := by
  simpa [basename] using (List.takeWhile_prefix (· != '/') (l := p.reverse)).length_le

/-- The directory part is at most what precedes the base name. -/
theorem length_dirname_le (p : PyStr) :
    (dirname p).length ≤ p.length - (basename p).length := by
  have hhead : (headOf p).length ≤ p.length - (basename p).length := by
    simp [headOf]
  simp only [dirname]
  split
  · exact (length_rstrip_le _ _).trans hhead
  · exact hhead

/-- What `expanduser` reads: `$HOME`, the current user's name, and the home directories
of the password database. -/
structure Env where
  home : Option PyStr
  user : PyStr
  passwd : List (PyStr × PyStr)

/-- `posixpath.expanduser(path)`: a leading `~` or `~user` replaced by that home directory,
or `path` itself when there is none. -/
def expanduser (env : Env) (path : PyStr) : PyStr :=
  if !startswith path '~' then path
  else
    let i := 1 + ((path.drop 1).takeWhile (· != '/')).length
    let userhome :=
      if i = 1 then env.home.or (env.passwd.lookup env.user)
      else env.passwd.lookup ((path.drop 1).take (i - 1))
    match userhome with
    | none => path
    | some userhome =>
      let expanded := rstrip '/' userhome ++ path.drop i
      if expanded.isEmpty then "/".toList else expanded

/-! ## The host -/

/-- A node of the file system. -/
inductive Node where
  | dir
  | file (content : Bytes)
  deriving DecidableEq, Repr

/-- A resolved path: the names of its components, from the root. -/
abbrev Path := List PyStr

/-- The file system, the working directory and the environment. -/
structure Host where
  node : Path → Option Node
  cwd : Path
  /-- The `st_size` the file system reports for a directory. -/
  dirSize : Nat
  env : Env

/-- Where one component leads from the directory `cur`. -/
def stepInto (cur : Path) (c : PyStr) : Path :=
  if c = [] ∨ c = ['.'] then cur else if c = ['.', '.'] then cur.dropLast else cur ++ [c]

/-- A name that is one step down into a directory: not empty, without `/`, and neither `.`
nor `..`. -/
def PlainName (k : PyStr) : Prop := k ≠ [] ∧ '/' ∉ k ∧ k ≠ ['.'] ∧ k ≠ ['.', '.']

instance (k : PyStr) : Decidable (PlainName k) := inferInstanceAs (Decidable (_ ∧ _))

theorem stepInto_of_plainName {k : PyStr} (hk : PlainName k) (cur : Path) :
    stepInto cur k = cur ++ [k] := by
  simp [stepInto, hk.1, hk.2.2.1, hk.2.2.2]

theorem startswith_of_plainName {k : PyStr} (hk : PlainName k) : startswith k '/' = false := by
  obtain ⟨c, k', rfl⟩ := List.exists_cons_of_ne_nil hk.1
  have hc : c ≠ '/' := fun e => hk.2.1 (e ▸ List.mem_cons_self c k')
  simp [startswith, hc]

/-- Joining a plain name to a non-empty name puts one `/` between them: the name itself
when it ends in `/`, else the name and a `/`. -/
theorem join_of_plainName {a k : PyStr} (ha : a ≠ []) (hk : PlainName k) :
    ∃ a₀, join a k = a₀ ++ '/' :: k ∧ (a = a₀ ∨ a = a₀ ++ ['/']) := by
  have hne : a.isEmpty = false := List.isEmpty_eq_false.mpr ha
  simp only [join, startswith_of_plainName hk, hne, Bool.false_or, Bool.false_eq_true, if_false]
  split
  · next he =>
    have hlast : a.dropLast ++ ['/'] = a :=
      List.dropLast_append_getLast? '/' (by simpa [endswith] using he)
    exact ⟨a.dropLast, by rw [← hlast]; simp, .inr hlast.symm⟩
  · exact ⟨a, rfl, .inl rfl⟩

namespace Host

variable (h : Host)

/-- Walk the components from `cur`, each looked up in a directory that exists. -/
def walk : Path → List PyStr → Option Path
  | cur, [] => some cur
  | cur, c :: cs => if h.node cur = some .dir then walk (stepInto cur c) cs else none

/-- The node a string names: from the root when it starts with `/`, from the working
directory otherwise; the empty string names none. -/
def resolve (path : PyStr) : Except PyError Path :=
  if path.isEmpty then .error (.fileNotFound path)
  else
    match h.walk (if startswith path '/' then [] else h.cwd) (path.splitOn '/') with
    | some p => .ok p
    | none => .error (.fileNotFound path)

/-- `os.path.exists(path)`. -/
def pathExists (path : PyStr) : Bool :=
  match h.resolve path with
  | .ok p => (h.node p).isSome
  | .error _ => false

/-- The bytes of the file at `p`; none when there is no file there. -/
def contentAt (p : Path) : Bytes :=
  match h.node p with
  | some (.file b) => b
  | _ => []

/-- The bytes of the file a string names, if it names one. -/
def fileAt (path : PyStr) : Option Bytes :=
  match h.resolve path with
  | .ok p => match h.node p with
    | some (.file b) => some b
    | _ => none
  | .error _ => none

/-- The host with the node at `p` replaced. -/
def setNode (p : Path) (n : Node) : Host :=
  { h with node := fun q => if q = p then some n else h.node q }

@[simp] theorem node_setNode (p q : Path) (n : Node) :
    (h.setNode p n).node q = if q = p then some n else h.node q := rfl

@[simp] theorem cwd_setNode (p : Path) (n : Node) : (h.setNode p n).cwd = h.cwd := rfl

@[simp] theorem env_setNode (p : Path) (n : Node) : (h.setNode p n).env = h.env := rfl

theorem contentAt_setNode_file (p q : Path) (b : Bytes) :
    (h.setNode p (.file b)).contentAt q = if q = p then b else h.contentAt q := by
  simp only [contentAt, node_setNode]
  split_ifs <;> rfl

@[simp] theorem setNode_setNode (p : Path) (n n' : Node) :
    (h.setNode p n).setNode p n' = h.setNode p n' := by
  simp only [setNode]
  congr 1
  funext q
  split_ifs <;> rfl

/-! ## Hosts that keep what another holds -/

/-- `h'` keeps the directories, the working directory and the environment of `h`, so a
name that resolves in `h` resolves to the same place in `h'`. -/
structure KeepsDirs (h h' : Host) : Prop where
  cwd : h'.cwd = h.cwd
  env : h'.env = h.env
  dirs : ∀ p, h.node p = some .dir → h'.node p = some .dir

/-- `h'` is `h` with directories added where there was nothing, and the same working
directory and environment. -/
structure AddsDirs (h h' : Host) : Prop where
  cwd : h'.cwd = h.cwd
  env : h'.env = h.env
  nodes : ∀ p, h'.node p = h.node p ∨ h.node p = none ∧ h'.node p = some .dir

variable {h} {h' h'' : Host}

theorem KeepsDirs.refl (h : Host) : KeepsDirs h h := ⟨rfl, rfl, fun _ => id⟩

theorem KeepsDirs.trans (h₁ : KeepsDirs h h') (h₂ : KeepsDirs h' h'') : KeepsDirs h h'' :=
  ⟨h₂.cwd.trans h₁.cwd, h₂.env.trans h₁.env, fun p hp => h₂.dirs p (h₁.dirs p hp)⟩

theorem AddsDirs.refl (h : Host) : AddsDirs h h := ⟨rfl, rfl, fun _ => .inl rfl⟩

theorem AddsDirs.trans (h₁ : AddsDirs h h') (h₂ : AddsDirs h' h'') : AddsDirs h h'' := by
  refine ⟨h₂.cwd.trans h₁.cwd, h₂.env.trans h₁.env, fun p => ?_⟩
  rcases h₁.nodes p with e₁ | ⟨n₁, d₁⟩ <;> rcases h₂.nodes p with e₂ | ⟨n₂, d₂⟩
  · exact .inl (e₂.trans e₁)
  · exact .inr ⟨e₁ ▸ n₂, d₂⟩
  · exact .inr ⟨n₁, e₂.trans d₁⟩
  · rw [d₁] at n₂
    cases n₂

/-- A node that was there stays. -/
theorem AddsDirs.node_eq (hd : AddsDirs h h') {p : Path} {n : Node} (hp : h.node p = some n) :
    h'.node p = some n :=
  (hd.nodes p).elim (·.trans hp) fun ⟨hn, _⟩ => absurd (hp.symm.trans hn) (by simp)

theorem AddsDirs.keepsDirs (hd : AddsDirs h h') : KeepsDirs h h' :=
  ⟨hd.cwd, hd.env, fun _ => hd.node_eq⟩

/-- Replacing a node that is not a directory, or by a directory, keeps every directory. -/
theorem keepsDirs_setNode {p : Path} {n : Node} (hp : h.node p = some .dir → n = .dir) :
    KeepsDirs h (h.setNode p n) := by
  refine ⟨rfl, rfl, fun q hq => ?_⟩
  simp only [node_setNode]
  split
  · subst q; rw [hp hq]
  · exact hq

/-- A directory where there was nothing. -/
theorem addsDirs_setNode_dir {p : Path} (hp : h.node p = none) : AddsDirs h (h.setNode p .dir) := by
  refine ⟨rfl, rfl, fun q => ?_⟩
  simp only [node_setNode]
  split
  · subst q
    exact .inr ⟨hp, rfl⟩
  · exact .inl rfl

theorem walk_of_keepsDirs (hk : KeepsDirs h h') {cs : List PyStr} :
    ∀ {cur p : Path}, h.walk cur cs = some p → h'.walk cur cs = some p := by
  induction cs with
  | nil => exact id
  | cons c cs ih =>
    intro cur p hw
    simp only [walk] at hw ⊢
    split at hw
    · rw [if_pos (hk.dirs _ ‹_›)]
      exact ih hw
    · cases hw

/-- A name that resolves keeps resolving to the same place. -/
theorem resolve_of_keepsDirs (hk : KeepsDirs h h') {path : PyStr} {p : Path}
    (hr : h.resolve path = .ok p) : h'.resolve path = .ok p := by
  simp only [resolve, hk.cwd] at hr ⊢
  split at hr
  · cases hr
  · next hne =>
    rw [if_neg hne]
    split at hr
    · next hw => rw [walk_of_keepsDirs hk hw]; exact hr
    · cases hr

/-! ## The entries of a directory -/

theorem walk_append (cur : Path) (cs cs' : List PyStr) :
    h.walk cur (cs ++ cs') = (h.walk cur cs).bind (h.walk · cs') := by
  induction cs generalizing cur with
  | nil => rfl
  | cons c cs ih =>
    simp only [walk, List.cons_append]
    split
    · exact ih _
    · rfl

theorem resolve_eq_ok {path : PyStr} {p : Path} :
    h.resolve path = .ok p ↔
      path ≠ [] ∧ h.walk (if startswith path '/' then [] else h.cwd) (path.splitOn '/') = some p := by
  unfold resolve
  by_cases hp : path = []
  · simp [hp]
  · rw [if_neg (by simpa using hp)]
    split <;> simp_all

/-- A plain name joined to the name of a directory names the entry of that name in it. -/
theorem resolve_join_of_plainName {a k : PyStr} {q : Path} (hq : h.resolve a = .ok q)
    (hdir : h.node q = some .dir) (hk : PlainName k) : h.resolve (join a k) = .ok (q ++ [k]) := by
  obtain ⟨ha, hw⟩ := resolve_eq_ok.mp hq
  obtain ⟨a₀, hjoin, ha₀⟩ := join_of_plainName ha hk
  -- `a₀ ++ '/' :: k` starts as `a` does, and the walk of `a₀` ends at `q` too
  have hstart : startswith (a₀ ++ '/' :: k) '/' = startswith a '/' := by
    rcases ha₀ with rfl | rfl
    · obtain ⟨c, a, rfl⟩ := List.exists_cons_of_ne_nil ha
      rfl
    · cases a₀ <;> rfl
  have hwalk : h.walk (if startswith a '/' then [] else h.cwd) (a₀.splitOn '/') = some q := by
    rcases ha₀ with rfl | rfl
    · exact hw
    · rw [splitOn_append_cons, walk_append, Option.bind_eq_some] at hw
      obtain ⟨q', hq', hlast⟩ := hw
      simp only [List.splitOn_nil, walk] at hlast
      split at hlast
      · simpa [stepInto, ← Option.some.inj hlast] using hq'
      · cases hlast
  rw [resolve_eq_ok, hjoin, hstart, splitOn_append_cons, splitOn_of_not_mem hk.2.1, walk_append,
    hwalk]
  simp [walk, hdir, stepInto_of_plainName hk]

end Host

open Host

/-! ## The operations -/

/-- A computation on the host. -/
abbrev OsM := EStateM PyError Host

variable {h h' : Host}

/-- The host a computation leaves, whether it returned or raised. -/
def finalHost {α : Type} : EStateM.Result PyError Host α → Host
  | .ok _ h => h
  | .error _ h => h

/-- `x` keeps `P`: from a host with `P` it leaves one with `P`, whether it returns or
raises. -/
def Preserves {α : Type} (P : Host → Prop) (x : OsM α) : Prop :=
  ∀ h, P h → P (finalHost (x h))

/-- `x` leaves the host as it found it, whether it returns or raises. -/
def Stays {α : Type} (x : OsM α) : Prop := ∀ h, finalHost (x h) = h

section Stays

variable {α : Type} {x : OsM α}

theorem Stays.eq_ok (hx : Stays x) {a : α} (he : x h = .ok a h') : h' = h := by
  simpa [he, finalHost] using hx h

theorem Stays.eq_error (hx : Stays x) {e : PyError} (he : x h = .error e h') : h' = h := by
  simpa [he, finalHost] using hx h

theorem Stays.bind {β : Type} {f : α → OsM β} (hx : Stays x) (hf : ∀ a, Stays (f a)) :
    Stays (x >>= f) := fun h => by
  show finalHost (EStateM.bind x f h) = h
  have hxh := hx h
  unfold EStateM.bind
  revert hxh
  cases x h with
  | ok a h₁ => exact fun e => (hf a h₁).trans e
  | error e h₁ => exact id

theorem stays_pure (a : α) : Stays (pure a : OsM α) := fun _ => rfl

theorem stays_get : Stays (get : OsM Host) := fun _ => rfl

end Stays

/-- A sequence of two computations returns when both do, the second from the host the
first leaves. -/
theorem bind_eq_ok {α β : Type} {x : OsM α} {f : α → OsM β} {b : β} :
    (x >>= f) h = .ok b h' ↔ ∃ a h₁, x h = .ok a h₁ ∧ f a h₁ = .ok b h' := by
  show EStateM.bind x f h = _ ↔ _
  unfold EStateM.bind
  cases x h with
  | ok a h₁ =>
    exact ⟨fun hf => ⟨a, h₁, rfl, hf⟩, fun ⟨_, _, he, hf⟩ => by cases he; exact hf⟩
  | error e h₁ => exact ⟨nofun, fun ⟨_, _, he, _⟩ => nomatch he⟩

/-- A sequence of two computations raises when the first does, or when the first returns
and the second raises. -/
theorem bind_eq_error {α β : Type} {x : OsM α} {f : α → OsM β} {e : PyError} :
    (x >>= f) h = .error e h' ↔
      x h = .error e h' ∨ ∃ a h₁, x h = .ok a h₁ ∧ f a h₁ = .error e h' := by
  show EStateM.bind x f h = _ ↔ _
  unfold EStateM.bind
  cases x h with
  | ok a h₁ =>
    exact ⟨fun hf => .inr ⟨a, h₁, rfl, hf⟩,
      fun | .inl he => nomatch he | .inr ⟨_, _, he, hf⟩ => by cases he; exact hf⟩
  | error e₁ h₁ => simp

theorem get_eq_ok {h₁ : Host} : (get : OsM Host) h = .ok h₁ h' ↔ h₁ = h ∧ h' = h := by
  show EStateM.Result.ok h h = _ ↔ _
  simp [eq_comm]

theorem pure_eq_ok {α : Type} {a b : α} :
    (pure a : OsM α) h = .ok b h' ↔ a = b ∧ h = h' := by
  show EStateM.Result.ok a h = _ ↔ _
  simp

/-- Pure code that may raise, run inside a computation on the host. -/
def liftResult {α : Type} (x : Except PyError α) : OsM α := fun h =>
  match x with
  | .ok a => .ok a h
  | .error e => .error e h

theorem liftResult_eq_ok {α : Type} {x : Except PyError α} {a : α} :
    liftResult x h = .ok a h' ↔ x = .ok a ∧ h = h' := by
  simp only [liftResult]
  split <;> simp

theorem stays_liftResult {α : Type} (x : Except PyError α) : Stays (liftResult x) := fun _ => by
  unfold liftResult
  split <;> rfl

/-- `open(path, "rb")`: the file `path` names, which must exist. -/
def openRead (path : PyStr) : OsM Path := fun h =>
  match h.resolve path with
  | .error e => .error e h
  | .ok p =>
    match h.node p with
    | some (.file _) => .ok p h
    | some .dir => .error (.isADirectory path) h
    | none => .error (.fileNotFound path) h

theorem openRead_eq_ok {path : PyStr} {p : Path} (ho : openRead path h = .ok p h') :
    h.resolve path = .ok p ∧ (∃ b, h.node p = some (.file b)) ∧ h' = h := by
  simp only [openRead] at ho
  split at ho
  · cases ho
  · split at ho <;> simp_all

theorem stays_openRead (path : PyStr) : Stays (openRead path) := fun h => by
  simp only [openRead]
  split
  · rfl
  · split <;> rfl

/-- `open(path, "wb")` and `open(path, "wb+")`: the file `path` names, truncated, or
created empty in its directory. -/
def openWrite (path : PyStr) : OsM Path := fun h =>
  match h.resolve path with
  | .error e => .error e h
  | .ok p =>
    if h.node p = some .dir then .error (.isADirectory path) h
    else if h.node p.dropLast = some .dir then .ok p (h.setNode p (.file []))
    else .error (.fileNotFound path) h

theorem openWrite_eq_ok {path : PyStr} {p : Path} (ho : openWrite path h = .ok p h') :
    h.resolve path = .ok p ∧ h.node p ≠ some .dir ∧ h' = h.setNode p (.file []) := by
  simp only [openWrite] at ho
  split at ho
  · cases ho
  · next heq =>
    split_ifs at ho with hd
    cases ho
    exact ⟨heq, hd, rfl⟩

theorem openWrite_eq_error {path : PyStr} {e : PyError} (ho : openWrite path h = .error e h') :
    h' = h := by
  simp only [openWrite] at ho
  split at ho
  · cases ho
    rfl
  · split_ifs at ho <;> cases ho <;> rfl

/-- The lines iterating over a binary file yields: each up to and including a newline
byte, the last one without when the file does not end in one. -/
def lines : Bytes → List Bytes
  | [] => []
  | b :: bs =>
    if b = 10 then [b] :: lines bs
    else
      match lines bs with
      | [] => [[b]]
      | l :: ls => (b :: l) :: ls

/-- Writing back the lines of `b` writes `b`. -/
@[simp] theorem flatten_lines (b : Bytes) : (lines b).flatten = b := by
  induction b with
  | nil => rfl
  | cons b bs ih =>
    simp only [lines]
    split
    · simp [ih]
    · split <;> simp_all

/-- `for line in frd` over the handle of the file at `p`. -/
def readLines (p : Path) : OsM (List Bytes) := fun h => .ok (lines (h.contentAt p)) h

theorem stays_readLines (p : Path) : Stays (readLines p) := fun _ => rfl

/-- `output.writelines(ls)` on the handle of the file at `p`: the lines written after its
contents.  Writes to a file that is no longer there are lost. -/
def writelines (p : Path) (ls : List Bytes) : OsM Unit := fun h =>
  match h.node p with
  | some (.file b) => .ok () (h.setNode p (.file (b ++ ls.flatten)))
  | _ => .ok () h

theorem writelines_of_file {p : Path} {b : Bytes} (hp : h.node p = some (.file b))
    (ls : List Bytes) : writelines p ls h = .ok () (h.setNode p (.file (b ++ ls.flatten))) := by
  simp only [writelines, hp]

/-- `os.stat(path).st_size`. -/
def stat (path : PyStr) : OsM Nat := fun h =>
  match h.resolve path with
  | .error e => .error e h
  | .ok p =>
    match h.node p with
    | some (.file b) => .ok b.length h
    | some .dir => .ok h.dirSize h
    | none => .error (.fileNotFound path) h

theorem stat_of_file {path : PyStr} {p : Path} {b : Bytes} (hr : h.resolve path = .ok p)
    (hp : h.node p = some (.file b)) : stat path h = .ok b.length h := by
  simp only [stat, hr, hp]

/-- A file just opened for writing and then written with `ls` holds `ls`, and `stat` of
its name reads that size. -/
theorem writelines_stat {path : PyStr} {p : Path} (hr : h.resolve path = .ok p)
    (hnd : h.node p ≠ some .dir) (ls : List Bytes) :
    writelines p ls (h.setNode p (.file [])) = .ok () (h.setNode p (.file ls.flatten)) ∧
      stat path (h.setNode p (.file ls.flatten)) =
        .ok ls.flatten.length (h.setNode p (.file ls.flatten)) := by
  have hnode : (h.setNode p (.file [])).node p = some (.file []) := by simp
  have hnode' : (h.setNode p (.file ls.flatten)).node p = some (.file ls.flatten) := by simp
  refine ⟨by rw [writelines_of_file hnode, setNode_setNode, List.nil_append], stat_of_file ?_ hnode'⟩
  exact resolve_of_keepsDirs (keepsDirs_setNode fun h => absurd h hnd) hr

theorem stays_stat (path : PyStr) : Stays (stat path) := fun h => by
  simp only [stat]
  split
  · rfl
  · split <;> rfl

/-- `os.mkdir(path)`. -/
def mkdir (path : PyStr) : OsM Unit := fun h =>
  match h.resolve path with
  | .error e => .error e h
  | .ok p =>
    if (h.node p).isSome then .error (.fileExists path) h
    else if h.node p.dropLast = some .dir then .ok () (h.setNode p .dir)
    else .error (.fileNotFound path) h

/-- `mkdir` only adds a directory, even when it raises. -/
theorem addsDirs_mkdir (path : PyStr) (h : Host) : AddsDirs h (finalHost (mkdir path h)) := by
  simp only [mkdir]
  split
  · exact AddsDirs.refl h
  · split_ifs with hex
    · exact AddsDirs.refl h
    · exact addsDirs_setNode_dir (Option.not_isSome_iff_eq_none.mp hex)
    · exact AddsDirs.refl h

/-- The head and tail `makedirs` splits a name into: split again when the tail is empty. -/
def makedirsSplit (name : PyStr) : PyStr × PyStr :=
  if (split name).2.isEmpty then split (split name).1 else split name

/-- The head `makedirs` recurses on is shorter than the name. -/
theorem length_makedirsSplit_lt {name : PyStr} (h : (makedirsSplit name).2 ≠ []) :
    (makedirsSplit name).1.length < name.length := by
  have hlt : ∀ p : PyStr, basename p ≠ [] → (dirname p).length < p.length := fun p hp => by
    have := length_dirname_le p
    have := length_basename_le p
    have := List.length_pos.mpr hp
    omega
  simp only [makedirsSplit, split] at h ⊢
  by_cases hb : (basename name).isEmpty
  · simp only [hb, if_true] at h ⊢
    exact (hlt (dirname name) h).trans_le ((length_dirname_le name).trans (Nat.sub_le _ _))
  · simp only [hb, if_false] at h ⊢
    exact hlt name h

/-- `os.makedirs(name)`, with `exist_ok=False`: the missing parents first, then `name`. -/
def makedirs (name : PyStr) : OsM Unit := fun h =>
  if hrec : (makedirsSplit name).1 ≠ [] ∧ (makedirsSplit name).2 ≠ [] ∧
      h.pathExists (makedirsSplit name).1 = false then
    match makedirs (makedirsSplit name).1 h with
    | .error (.fileExists _) h' | .ok () h' =>
      if (makedirsSplit name).2 = ['.'] then .ok () h' else mkdir name h'
    | .error e h' => .error e h'
  else mkdir name h
termination_by name.length
decreasing_by exact length_makedirsSplit_lt hrec.2.1

/-- `makedirs` keeps whatever every `mkdir` keeps, even when it raises. -/
theorem preserves_makedirs {P : Host → Prop} (hmk : ∀ path, Preserves P (mkdir path))
    (name : PyStr) : Preserves P (makedirs name) := fun h hp => by
  rw [makedirs]
  split
  · next hrec =>
    have := length_makedirsSplit_lt hrec.2.1
    have hhead := preserves_makedirs hmk (makedirsSplit name).1 h hp
    split <;> rename_i heq <;> rw [heq] at hhead
    · split
      · exact hhead
      · exact hmk _ _ hhead
    · split
      · exact hhead
      · exact hmk _ _ hhead
    · exact hhead
  · exact hmk _ _ hp
termination_by name.length

/-- `makedirs` only adds directories, even when it raises. -/
theorem addsDirs_makedirs (name : PyStr) (h : Host) : AddsDirs h (finalHost (makedirs name h)) :=
  preserves_makedirs (P := AddsDirs h) (fun path h₁ hd => hd.trans (addsDirs_mkdir path h₁)) name h
    (AddsDirs.refl h)

/-- `makedirs(name)` when a condition holds: only directories are added, even when it
raises. -/
theorem addsDirs_makedirs_if {c : Prop} [Decidable c] {name : PyStr}
    {r : EStateM.Result PyError Host Unit} (hr : (if c then makedirs name else pure ()) h = r) :
    AddsDirs h (finalHost r) := by
  subst hr
  split
  · exact addsDirs_makedirs name h
  · exact AddsDirs.refl h

end Posix

end SnowflakeStorage
