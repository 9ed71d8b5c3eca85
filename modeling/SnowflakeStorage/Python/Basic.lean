import Mathlib.Data.List.Sort
import Mathlib.Data.List.Lex
import Mathlib.Data.List.Basic
import Mathlib.Data.Char
import Mathlib.Data.Nat.Digits

/-!
# The Python values of the storage clients

`s3_storage_client.py` and `local_storage_client.py` compute with Python's `str`, `bytes`
and `int`, and call a handful of their built-in methods.  This file fixes one Lean reading
of each, so that the client modules can be translated line by line.

* A `str` is a list of code points (`PyStr`), ordered as Python orders strings:
  lexicographically by code point, which is Mathlib's order on `List Char`.
* `str.split(c)` for a one-character separator is `List.splitOn c`, and `sep.join(xs)` is
  `List.intercalate sep xs`; Mathlib proves the two inverse (`intercalate_splitOn`,
  `splitOn_intercalate`).
* `sorted` and `list.sort` are stable, so every stable sort computes them; `sortOn` is
  insertion sort.  With pairwise distinct keys the result depends only on the elements
  (`sortOn_congr`), which is what the canonical forms of the signer rest on.
* `str.lower` is read on ASCII (`Char.toLower`).  The clients lower-case HTTP header names
  and hexadecimal digests only, and both are ASCII.
* `int(s)` is read on ASCII digits, and `str(n)` on non-negative `n`; the two are inverse
  (`toInt_reprNat`).
-/

namespace SnowflakeStorage

open scoped List

/-- A Python `str`: a sequence of code points. -/
abbrev PyStr := List Char

/-- A Python `bytes` value. -/
abbrev Bytes := List UInt8

/-- The exceptions the modelled code raises, by class. -/
inductive PyError where
  | keyError (key : PyStr)
  | indexError
  | attributeError
  | typeError
  | valueError (text : PyStr)
  | parseError
  | httpError (status : Nat)
  | fileNotFound (path : PyStr)
  | fileExists (path : PyStr)
  | isADirectory (path : PyStr)
  deriving DecidableEq, Repr

/-- `f"{x}"` for an optional string: Python prints `None` as `None`. -/
def formatOption : Option PyStr → PyStr
  | none => "None".toList
  | some s => s

/-- The position `xs[i]` names in a list of `len` elements, as `list.__setitem__` finds it:
a negative `i` counts from the end; `none` when that falls outside the list, where the
assignment raises `IndexError`. -/
def listIndex (len : Nat) (i : Int) : Option Nat :=
  let j := if i < 0 then i + len else i
  if 0 ≤ j ∧ j < len then some j.toNat else none

@[simp] theorem listIndex_natCast (len k : Nat) :
    listIndex len k = if k < len then some k else none := by
  have hk : ¬ (k : Int) < 0 := by omega
  simp [listIndex, hk]

/-- The list `xs[i] = x` leaves: the position `i` names replaced, or `xs` as it was when
the assignment raises. -/
def setItem {α : Type} (xs : List α) (i : Int) (x : α) : List α :=
  match listIndex xs.length i with
  | some k => xs.set k x
  | none => xs

@[simp] theorem length_setItem {α : Type} (xs : List α) (i : Int) (x : α) :
    (setItem xs i x).length = xs.length := by
  unfold setItem
  split <;> simp

@[simp] theorem setItem_natCast {α : Type} (xs : List α) (k : Nat) (x : α) :
    setItem xs k x = xs.set k x := by
  by_cases h : k < xs.length
  · simp [setItem, h]
  · simp [setItem, h, List.set_eq_of_length_le (Nat.le_of_not_lt h)]

namespace PyStr

/-! ## Characters and whitespace -/

/-- Python's `str.isspace` on one character: the code points of Unicode class `Zs` and of
bidirectional class `WS`, `B` or `S`, that is U+0009–U+000D, U+001C–U+0020, U+0085, U+00A0,
U+1680, U+2000–U+200A, U+2028, U+2029, U+202F, U+205F and U+3000. -/
def isSpace (c : Char) : Bool :=
  let n := c.toNat
  (9 ≤ n && n ≤ 13) || (28 ≤ n && n ≤ 32) || n == 0x85 || n == 0xA0 || n == 0x1680 ||
    (0x2000 ≤ n && n ≤ 0x200A) || n == 0x2028 || n == 0x2029 || n == 0x202F ||
    n == 0x205F || n == 0x3000

/-- `s.isspace()`: non-empty and made of whitespace only. -/
def isspace (s : PyStr) : Bool := !s.isEmpty && s.all isSpace

/-- `s.strip()`: drop whitespace at both ends. -/
def strip (s : PyStr) : PyStr :=
  ((s.dropWhile isSpace).reverse.dropWhile isSpace).reverse

/-- `s.lstrip(c)`: drop every leading `c`. -/
def lstrip (c : Char) (s : PyStr) : PyStr := s.dropWhile (· == c)

/-- `s.endswith(c)` for a one-character suffix. -/
def endswith (s : PyStr) (c : Char) : Bool := s.getLast? == some c

/-- `s.startswith(c)` for a one-character prefix. -/
def startswith (s : PyStr) (c : Char) : Bool := s.head? == some c

/-- `s.lower()`, read on ASCII. -/
def lower (s : PyStr) : PyStr := s.map Char.toLower

/-- `s.replace(a, b)` for one-character `a` and `b`. -/
def replace (a b : Char) (s : PyStr) : PyStr := s.map fun c => if c = a then b else c

/-- `re.sub(" +", " ", s)`: every run of spaces becomes one space.  The run is merged
from the right: a space is dropped when the rest already starts with one. -/
def collapseSpaces : PyStr → PyStr
  | [] => []
  | c :: s =>
    match c, collapseSpaces s with
    | ' ', ' ' :: t => ' ' :: t
    | c, t => c :: t

/-- `s.partition(sep)`: the text before the first `sep`, the separator (or `""` when there
is none), and the text after it. -/
def partition (sep : Char) : PyStr → PyStr × PyStr × PyStr
  | [] => ([], [], [])
  | c :: s =>
    if c = sep then ([], [sep], s)
    else (c :: (partition sep s).1, (partition sep s).2)

theorem strip_of_forall {s : PyStr} (h : ∀ c ∈ s, isSpace c = false) : strip s = s := by
  have hd : ∀ t : PyStr, (∀ c ∈ t, isSpace c = false) → t.dropWhile isSpace = t := by
    intro t ht
    cases t with
    | nil => rfl
    | cons c t => simp [List.dropWhile_cons, ht c (List.mem_cons_self c t)]
  rw [strip, hd s h, hd s.reverse (fun c hc => h c (List.mem_reverse.mp hc)), List.reverse_reverse]

theorem replace_of_not_mem {a b : Char} {s : PyStr} (h : a ∉ s) : replace a b s = s := by
  induction s with
  | nil => rfl
  | cons c s ih =>
      rw [List.mem_cons, not_or] at h
      simp only [replace, List.map_cons, if_neg (Ne.symm h.1)] at ih ⊢
      rw [ih h.2]

@[simp] theorem partition_nil (sep : Char) : partition sep [] = ([], [], []) := rfl

/-- Partitioning at the first `sep` and joining the two sides with `sep` gives the string
back, with a `sep` added at the end when it had none. -/
theorem partition_join (sep : Char) (s : PyStr) :
    (partition sep s).1 ++ sep :: (partition sep s).2.2 = if sep ∈ s then s else s ++ [sep] := by
  induction s with
  | nil => simp
  | cons c s ih =>
      by_cases hc : c = sep
      · simp [partition, hc]
      · have hs : sep ∈ c :: s ↔ sep ∈ s := by simp [Ne.symm hc]
        simp only [partition, if_neg hc, List.cons_append, ih, hs]
        split_ifs <;> rfl

/-- The text before the first `sep`. -/
theorem partition_fst (sep : Char) (s : PyStr) :
    (partition sep s).1 = s.takeWhile (· != sep) := by
  induction s with
  | nil => rfl
  | cons c s ih => by_cases hc : c = sep <;> simp [partition, hc, ih, List.takeWhile_cons]

/-- The text before the first `sep` holds no `sep`. -/
theorem not_mem_partition_fst (sep : Char) (s : PyStr) : sep ∉ (partition sep s).1 := by
  rw [partition_fst]
  intro h
  simpa using List.mem_takeWhile_imp h

theorem partition_cons_of_ne {sep c : Char} (h : c ≠ sep) (s : PyStr) :
    partition sep (c :: s) = (c :: (partition sep s).1, (partition sep s).2) := if_neg h

/-- Without `sep`, everything is before it. -/
theorem partition_of_not_mem {sep : Char} {s : PyStr} (h : sep ∉ s) :
    partition sep s = (s, [], []) := by
  induction s with
  | nil => rfl
  | cons c s ih =>
      have hc : c ≠ sep := fun e => h (e ▸ List.mem_cons_self c s)
      simp [partition, hc, ih fun hs => h (List.mem_cons_of_mem c hs)]

/-- Partitioning `a ++ b` when `a` has no `sep`: all of `a` comes before it. -/
theorem partition_append_of_not_mem {sep : Char} {a : PyStr} (h : sep ∉ a) (b : PyStr) :
    partition sep (a ++ b) = (a ++ (partition sep b).1, (partition sep b).2) := by
  induction a with
  | nil => rfl
  | cons c a ih =>
      have hc : c ≠ sep := fun e => h (e ▸ List.mem_cons_self c a)
      simp [partition, hc, ih fun hs => h (List.mem_cons_of_mem c hs)]

/-- Partitioning at the first `sep` of `a ++ sep :: b`. -/
theorem partition_append_cons {sep : Char} {a : PyStr} (h : sep ∉ a) (b : PyStr) :
    partition sep (a ++ sep :: b) = (a, [sep], b) := by
  induction a with
  | nil => simp [partition]
  | cons c a ih =>
      have hc : c ≠ sep := fun e => h (e ▸ List.mem_cons_self c a)
      simp [partition, hc, ih fun hs => h (List.mem_cons_of_mem c hs)]

/-! ## Sorting -/

section Sorting

variable {α : Type*} (f : α → PyStr)

/-- `sorted(l, key=f)` and `l.sort(key=f)`: a stable sort by the string `f a`. -/
def sortOn (l : List α) : List α := l.insertionSort fun a b => f a ≤ f b

@[simp] theorem sortOn_nil : sortOn f [] = [] := rfl

theorem sortOn_perm (l : List α) : sortOn f l ~ l := List.perm_insertionSort _ _

theorem sorted_sortOn (l : List α) : (sortOn f l).Sorted fun a b => f a ≤ f b := by
  haveI : IsTotal α fun a b => f a ≤ f b := ⟨fun a b => le_total (f a) (f b)⟩
  haveI : IsTrans α fun a b => f a ≤ f b := ⟨fun _ _ _ => le_trans⟩
  exact List.sorted_insertionSort _ _

variable {f}

theorem nodup_map_of_sorted_lt {l : List α} (hs : l.Sorted fun a b => f a < f b) :
    (l.map f).Nodup :=
  List.pairwise_map.mpr (hs.imp ne_of_lt)

theorem sorted_lt_of_sorted_le {l : List α} (hs : l.Sorted fun a b => f a ≤ f b)
    (hn : (l.map f).Nodup) : l.Sorted fun a b => f a < f b :=
  (hs.and (List.pairwise_map.mp hn)).imp fun h => lt_of_le_of_ne h.1 h.2

/-- A list strictly sorted by key is the sort of each of its permutations. -/
theorem sortOn_eq_of_sorted {l l' : List α} (hp : l' ~ l)
    (hs : l'.Sorted fun a b => f a < f b) : sortOn f l = l' := by
  haveI : IsAntisymm α fun a b => f a < f b :=
    ⟨fun _ _ h₁ h₂ => absurd (h₁.trans h₂) (lt_irrefl _)⟩
  have hn : ((sortOn f l).map f).Nodup :=
    ((sortOn_perm f l).trans hp.symm).map f |>.nodup_iff.mpr (nodup_map_of_sorted_lt hs)
  exact List.eq_of_perm_of_sorted ((sortOn_perm f l).trans hp.symm)
    (sorted_lt_of_sorted_le (sorted_sortOn f l) hn) hs

/-- With pairwise distinct keys, the sort does not depend on the input order. -/
theorem sortOn_congr {l₁ l₂ : List α} (hp : l₁ ~ l₂) (hn : (l₁.map f).Nodup) :
    sortOn f l₁ = sortOn f l₂ := by
  have hn' : ((sortOn f l₁).map f).Nodup := ((sortOn_perm f l₁).map f).nodup_iff.mpr hn
  exact (sortOn_eq_of_sorted ((sortOn_perm f l₁).trans hp)
    (sorted_lt_of_sorted_le (sorted_sortOn f l₁) hn')).symm

end Sorting

/-! ## Lists -/

@[simp] theorem intercalate_singleton {α : Type*} (sep x : List α) : sep.intercalate [x] = x := by
  simp [List.intercalate]

theorem intercalate_cons_cons {α : Type*} (sep x y : List α) (ys : List (List α)) :
    sep.intercalate (x :: y :: ys) = x ++ sep ++ sep.intercalate (y :: ys) := by
  simp [List.intercalate, List.intersperse_cons_cons, List.append_assoc]

/-- A character of `sep.join(l)` is one of `sep` or of a piece. -/
theorem mem_intercalate {α : Type*} {sep : List α} {a : α} :
    ∀ {l : List (List α)}, a ∈ sep.intercalate l → a ∈ sep ∨ ∃ x ∈ l, a ∈ x
  | [], h => by simp [List.intercalate] at h
  | [x], h => .inr ⟨x, List.mem_singleton_self x, by simpa using h⟩
  | x :: y :: l, h => by
      rw [intercalate_cons_cons] at h
      rcases List.mem_append.mp h with h | h
      · rcases List.mem_append.mp h with h | h
        · exact .inr ⟨x, List.mem_cons_self x _, h⟩
        · exact .inl h
      · exact (mem_intercalate h).imp_right
          fun ⟨z, hz, hm⟩ => ⟨z, List.mem_cons_of_mem x hz, hm⟩

/-- `"\n".join(lines)` followed by a `"\n"` when it is not empty: every line terminated,
provided no line is empty. -/
theorem terminated_intercalate {α : Type*} (sep : List α) (l : List (List α))
    (hl : ∀ x ∈ l, x ≠ []) :
    (if (sep.intercalate l).isEmpty then sep.intercalate l else sep.intercalate l ++ sep) =
      (l.map (· ++ sep)).flatten := by
  induction l with
  | nil => rfl
  | cons x xs ih =>
      have hx : x ≠ [] := hl x (List.mem_cons_self _ _)
      have ih := ih fun y hy => hl y (List.mem_cons_of_mem _ hy)
      cases xs with
      | nil => simp [List.intercalate, hx]
      | cons y ys =>
          have hne : (sep.intercalate (y :: ys)).isEmpty = false := by
            have hy : y ≠ [] := hl y (by simp)
            cases y with
            | nil => exact absurd rfl hy
            | cons c cs => cases ys <;> simp [List.intercalate, List.intersperse_cons_cons]
          rw [hne, if_neg (by simp)] at ih
          rw [intercalate_cons_cons, if_neg (by cases x <;> simp_all), List.map_cons,
            List.flatten_cons, ← ih]
          simp only [List.append_assoc]

@[simp] theorem except_ok_bind {ε α β : Type} (a : α) (f : α → Except ε β) :
    (Except.ok a >>= f) = f a := rfl

@[simp] theorem except_error_bind {ε α β : Type} (e : ε) (f : α → Except ε β) :
    (Except.error e >>= f) = Except.error e := rfl

/-- A computation that ends in `.ok` ran every step to `.ok`. -/
theorem except_bind_eq_ok {ε α β : Type} {x : Except ε α} {f : α → Except ε β} {b : β} :
    (x >>= f) = .ok b ↔ ∃ a, x = .ok a ∧ f a = .ok b := by
  cases x with
  | error e => exact ⟨fun h => (nomatch h), fun ⟨_, h, _⟩ => (nomatch h)⟩
  | ok a => exact ⟨fun h => ⟨a, rfl, h⟩, fun ⟨_, h, hf⟩ => by cases h; exact hf⟩

theorem mapM_eq_ok {ε α β : Type} {f : α → Except ε β} {g : α → β} :
    ∀ {l : List α}, (∀ a ∈ l, f a = .ok (g a)) → l.mapM f = .ok (l.map g)
  | [], _ => rfl
  | a :: l, h => by
      simp only [List.mapM_cons, h a (List.mem_cons_self a l),
        mapM_eq_ok fun b hb => h b (List.mem_cons_of_mem a hb)]
      rfl

theorem mapM_ok_forall {ε α β : Type} {f : α → Except ε β} :
    ∀ {l : List α} {r : List β}, l.mapM f = .ok r → ∀ a ∈ l, ∃ b, f a = .ok b
  | [], _, _, a, ha => absurd ha (List.not_mem_nil a)
  | x :: l, r, h, a, ha => by
      rw [List.mapM_cons] at h
      cases hx : f x with
      | error e => rw [hx] at h; cases h
      | ok b =>
          cases hl : l.mapM f with
          | error e => rw [hx, hl] at h; cases h
          | ok bs =>
              rcases List.mem_cons.mp ha with rfl | ha
              · exact ⟨b, hx⟩
              · exact mapM_ok_forall hl a ha

/-- The pieces of `s.split(sep)` do not contain `sep`. -/
theorem not_mem_of_mem_splitOn {sep : Char} {s w : PyStr} (hw : w ∈ s.splitOn sep) :
    sep ∉ w := by
  induction s generalizing w with
  | nil => simp_all [List.splitOn_nil]
  | cons c s ih =>
      simp only [List.splitOn, List.splitOnP_cons] at hw ih
      split at hw
      · rcases List.mem_cons.mp hw with rfl | hw
        · simp
        · exact ih hw
      · obtain ⟨w₀, ws, hws⟩ := List.exists_cons_of_ne_nil (List.splitOnP_ne_nil _ s)
        rw [hws, List.modifyHead_cons] at hw
        rcases List.mem_cons.mp hw with rfl | hw
        · have hc : c ≠ sep := by simpa using ‹¬(c == sep) = true›
          have := ih (hws ▸ List.mem_cons_self w₀ ws)
          simp [Ne.symm hc, this]
        · exact ih (hws ▸ List.mem_cons_of_mem w₀ hw)

/-- `(a + sep + b).split(sep)` is `a.split(sep) + b.split(sep)`. -/
theorem splitOn_append_cons (sep : Char) (a b : PyStr) :
    (a ++ sep :: b).splitOn sep = a.splitOn sep ++ b.splitOn sep := by
  induction a with
  | nil => simp [List.splitOn]
  | cons c a ih =>
      simp only [List.splitOn, List.cons_append, List.splitOnP_cons] at ih ⊢
      rw [ih]
      split
      · rfl
      · obtain ⟨w, ws, hws⟩ := List.exists_cons_of_ne_nil (List.splitOnP_ne_nil (· == sep) a)
        rw [hws]
        rfl

/-- A prefix without `sep` joins the first piece. -/
theorem splitOn_append_of_not_mem {sep : Char} {a : PyStr} (h : sep ∉ a) (b : PyStr) :
    (a ++ b).splitOn sep = (b.splitOn sep).modifyHead (a ++ ·) := by
  induction a with
  | nil => rw [List.nil_append]; cases b.splitOn sep <;> rfl
  | cons c a ih =>
      have hc : c ≠ sep := fun e => h (e ▸ List.mem_cons_self c a)
      simp only [List.splitOn, List.cons_append, List.splitOnP_cons, beq_iff_eq, hc, if_false] at ih ⊢
      rw [ih fun hs => h (List.mem_cons_of_mem c hs), List.modifyHead_modifyHead]
      rfl

/-- A string without `sep` is its own only piece. -/
theorem splitOn_of_not_mem {sep : Char} {s : PyStr} (h : sep ∉ s) : s.splitOn sep = [s] :=
  List.splitOnP_eq_single _ _ fun x hx he => h (by rwa [← beq_iff_eq.mp he])

/-! ## Decimal numerals -/

/-- `str(n)` for a non-negative `int`. -/
def reprNat (n : Nat) : PyStr := Nat.toDigits 10 n

/-- `str(i)` for an `int`. -/
def reprInt : Int → PyStr
  | .ofNat n => reprNat n
  | .negSucc n => '-' :: reprNat (n + 1)

@[simp] theorem reprInt_natCast (n : Nat) : reprInt n = reprNat n := rfl

/-- The value of a string of decimal digits, most significant first. -/
def digitsValue (s : PyStr) : Nat := s.foldl (fun acc c => 10 * acc + (c.toNat - '0'.toNat)) 0

/-- `int` reads an optional sign before the digits. -/
def splitSign : PyStr → Bool × PyStr
  | '-' :: r => (true, r)
  | '+' :: r => (false, r)
  | r => (false, r)

/-- `int(s)` for a `str` in base 10: surrounding whitespace, an optional sign, and
digits in groups separated by single underscores. -/
def toInt (s : PyStr) : Except PyError Int :=
  let (negative, body) := splitSign (strip s)
  let groups := body.splitOn '_'
  if groups.all (fun g => !g.isEmpty && g.all Char.isDigit) then
    let v : Int := digitsValue groups.flatten
    .ok (if negative then -v else v)
  else .error (.valueError s)

theorem digitChar_value : ∀ d < 10, (Nat.digitChar d).toNat - '0'.toNat = d := by decide

theorem digitChar_isDigit : ∀ d < 10, (Nat.digitChar d).isDigit = true := by decide

private theorem foldl_toDigitsCore (fuel n : Nat) (ds : List Char) (h : n < fuel) :
    (Nat.toDigitsCore 10 fuel n ds).foldl (fun acc c => 10 * acc + (c.toNat - '0'.toNat)) 0 =
      ds.foldl (fun acc c => 10 * acc + (c.toNat - '0'.toNat)) n := by
  induction fuel generalizing n ds with
  | zero => omega
  | succ fuel ih =>
      have hd := digitChar_value (n % 10) (Nat.mod_lt _ (by omega))
      simp only [Nat.toDigitsCore]
      split
      · simp only [List.foldl_cons, hd]
        congr 1
        omega
      · rw [ih _ _ (by omega), List.foldl_cons, hd]
        congr 1
        omega

private theorem isDigit_of_mem_toDigitsCore (fuel n : Nat) (ds : List Char)
    (hds : ∀ c ∈ ds, c.isDigit = true) : ∀ c ∈ Nat.toDigitsCore 10 fuel n ds, c.isDigit = true := by
  induction fuel generalizing n ds with
  | zero => exact hds
  | succ fuel ih =>
      have hd := digitChar_isDigit (n % 10) (Nat.mod_lt _ (by omega))
      have hcons : ∀ c ∈ Nat.digitChar (n % 10) :: ds, c.isDigit = true := by
        simpa [hd] using hds
      simp only [Nat.toDigitsCore]
      split
      · exact hcons
      · exact ih _ _ hcons

@[simp] theorem digitsValue_reprNat (n : Nat) : digitsValue (reprNat n) = n :=
  foldl_toDigitsCore (n + 1) n [] (by omega)

theorem isDigit_of_mem_reprNat {n : Nat} : ∀ c ∈ reprNat n, c.isDigit = true :=
  isDigit_of_mem_toDigitsCore _ _ _ (by simp)

/-- `str(i)` is a sign and digits. -/
theorem isDigit_or_minus_of_mem_reprInt {i : Int} : ∀ c ∈ reprInt i, c.isDigit = true ∨ c = '-' := by
  cases i with
  | ofNat n => exact fun c h => .inl (isDigit_of_mem_reprNat c h)
  | negSucc n =>
    intro c h
    rcases List.mem_cons.mp h with rfl | h
    exacts [.inr rfl, .inl (isDigit_of_mem_reprNat c h)]

private theorem toDigitsCore_ne_nil (fuel n : Nat) (ds : List Char) (h : ds ≠ [] ∨ 0 < fuel) :
    Nat.toDigitsCore 10 fuel n ds ≠ [] := by
  induction fuel generalizing n ds with
  | zero => simpa using h
  | succ fuel ih =>
      simp only [Nat.toDigitsCore]
      split
      · exact List.cons_ne_nil _ _
      · exact ih _ _ (.inl (List.cons_ne_nil _ _))

theorem reprNat_ne_nil (n : Nat) : reprNat n ≠ [] :=
  toDigitsCore_ne_nil _ _ _ (.inr (Nat.succ_pos n))

theorem isSpace_of_isDigit {c : Char} (h : c.isDigit = true) : isSpace c = false := by
  simp only [Char.isDigit, Bool.and_eq_true, decide_eq_true_eq] at h
  have h₁ : 48 ≤ c.toNat := h.1
  have h₂ : c.toNat ≤ 57 := h.2
  simp only [isSpace, Bool.or_eq_false_iff, Bool.and_eq_false_iff, decide_eq_false_iff_not,
    beq_eq_false_iff_ne]
  omega

theorem splitSign_of_isDigit {c : Char} (h : c.isDigit = true) (r : PyStr) :
    splitSign (c :: r) = (false, c :: r) := by
  have hm : c ≠ '-' := by rintro rfl; exact absurd h (by decide)
  have hp : c ≠ '+' := by rintro rfl; exact absurd h (by decide)
  simp [splitSign, hm, hp]

/-- `int(str(n)) == n`. -/
theorem toInt_reprNat (n : Nat) : toInt (reprNat n) = .ok n := by
  have hdig : ∀ c ∈ reprNat n, c.isDigit = true := isDigit_of_mem_reprNat
  obtain ⟨c, r, hcr⟩ := List.exists_cons_of_ne_nil (reprNat_ne_nil n)
  have hstrip : strip (reprNat n) = reprNat n :=
    strip_of_forall fun c hc => isSpace_of_isDigit (hdig c hc)
  have hsign : splitSign (reprNat n) = (false, reprNat n) := by
    rw [hcr, splitSign_of_isDigit (hdig c (by simp [hcr]))]
  have hsplit : (reprNat n).splitOn '_' = [reprNat n] :=
    List.splitOnP_eq_single _ _ fun x hx hu => by
      rw [beq_iff_eq.mp hu] at hx; exact absurd (hdig _ hx) (by decide)
  simp [toInt, hstrip, hsign, hsplit, List.all_eq_true.mpr hdig, reprNat_ne_nil]

end PyStr

end SnowflakeStorage
