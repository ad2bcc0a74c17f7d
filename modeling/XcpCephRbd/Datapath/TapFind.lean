import Mathlib.Data.List.Nodup
import XcpCephRbd.Datapath.Sysfs
import XcpCephRbd.Lib.Split
import XcpCephRbd.Lib.Text

/-!
# Finding a tapdisk by its device

`_tap_find` of `dp_tapdisk.py` and of `cbtlog.py` (one text in both) searches the listing of
`tap-ctl list` for the device of a volume, and `dp_tapdisk.detach`, `cbtlog.inject_running` and
`cbtlog.rotate` destroy, pause and unpause what it finds. The search is for a part of a line, so a
device is also found in the line of a longer device number: `tap_find_exact_iff` says on which
listings the tapdisk that is found is the device's own.
-/

namespace XcpCephRbd.TapCtl

open Split Sysfs Text

/-- `dict(pairs).get(key)`: the last pair of a key counts. -/
def get (pairs : List (String × String)) (key : String) : Option String := pairs.reverse.lookup key

/-- The pairs `kv.split("=", 1) for kv in line.split() if "=" in kv`. -/
def fields (line : List Char) : List (String × String) :=
  ((words line).filter (·.contains '=')).map fun kv =>
    (String.ofList (cut '=' kv).1, String.ofList (cut '=' kv).2)

/-- `_tap_find(dev)`: `out` is what `tap-ctl list` prints, `none` where it fails. -/
def tapFind (out : Option String) (dev : String) : Option String × Option String :=
  match out with
  | none => (none, none)
  | some out =>
      match (splitlines out.toList).find? fun line =>
        contains (String.ofList line) ("args=aio:" ++ dev) with
      | some line => (get (fields line) "pid", get (fields line) "minor")
      | none => (none, none)

/-- A command of `tap-ctl` that acts on a tapdisk. -/
inductive Cmd where
  | destroy (pid minor : String)
  | pause (pid minor : String)
  | unpause (pid minor log : String)
  deriving DecidableEq, Repr

/-- What the host answers during a call: the listing, the device of the companion (`none` where it
cannot be mapped), and whether the pause succeeds. -/
structure Replies where
  list : Option String
  log : Option String
  paused : Bool

/-- The tapdisk's part of `dp_tapdisk.detach`. -/
def detach (devs : List Attrs) (vol : Vol) (r : Replies) : List Cmd :=
  match findDevice devs vol with
  | none => []
  | some dev =>
      match tapFind r.list dev with
      | (some pid, minor) => [.destroy pid (minor.getD "None")]
      | (none, _) => []

/-- Pause the tapdisk of a device and unpause it with another log. A failing command raises, and
so does a missing minor before any command is run. -/
def relog (found : Option String × Option String) (r : Replies) : List Cmd :=
  match found with
  | (some pid, some minor) =>
      if pid = "" then []
      else
        match r.log with
        | none => []
        | some log => .pause pid minor :: if r.paused then [.unpause pid minor log] else []
  | _ => []

/-- The tapdisk's part of `cbtlog.inject_running(dconf, pool, ns, base, gen)`. -/
def injectRunning (devs : List Attrs) (pool : String) (ns : Option String) (base : String)
    (r : Replies) : List Cmd :=
  match findDevice devs { pool := pool, image := base, ns := ns } with
  | none => []
  | some dev => relog (tapFind r.list dev) r

/-- The tapdisk's part of `cbtlog.rotate(be, dconf, pool, ns, base, …)`, which comes to it only
once the new companion was created. -/
def rotate (devs : List Attrs) (pool : String) (ns : Option String) (base : String)
    (created : Bool) (r : Replies) : List Cmd :=
  if created then
    match findDevice devs { pool := pool, image := base, ns := ns } with
    | none => []
    | some dev => relog (tapFind r.list dev) r
  else []

/-! ## The listing -/

/-- A tapdisk with an aio target: its row of `tap-ctl list`. The state is printed in base 16. -/
structure Tapdisk where
  pid : Nat
  minor : Nat
  state : String
  dev : Nat
  state_hex : ∀ c ∈ state.toList, c ∈ "0123456789abcdefx".toList

/-- The row as it is printed. -/
def Tapdisk.row (t : Tapdisk) : String :=
  "pid=" ++ t.pid.repr ++ " minor=" ++ t.minor.repr ++ " state=" ++ t.state ++ " args=aio:" ++
    device t.dev

/-- What `tap-ctl list` prints for tapdisks of different minors. -/
structure Listing where
  rows : List Tapdisk
  minors : (rows.map Tapdisk.minor).Nodup

/-- The text of a listing: every row ends with a line feed. -/
def Listing.text (l : Listing) : String :=
  String.ofList ((l.rows.map fun t => t.row.toList).flatMap fun line => line ++ ['\n'])

/-- The characters of a word of a row. -/
def wordChar (c : Char) : Bool := c.isAlphanum || c == '=' || c == ':' || c == '/'

theorem wordChar_of_isDigit {c : Char} (h : c.isDigit = true) : wordChar c = true := by
  simp [wordChar, Char.isAlphanum, h]

theorem isBlank_of_wordChar {c : Char} (h : wordChar c = true) : isBlank c = false := by
  have hblanks : ∀ b ∈ blanks, wordChar b = false := by simp [blanks, wordChar]
  rw [isBlank, List.contains_eq_mem, decide_eq_false_iff_not]
  intro hc
  rw [hblanks c hc] at h
  exact absurd h (by decide)

theorem isBreak_of_wordChar {c : Char} (h : wordChar c = true) : isBreak c = false := by
  have hbreaks : ∀ b ∈ breaks, wordChar b = false := by simp [breaks, wordChar]
  rw [isBreak, List.contains_eq_mem, decide_eq_false_iff_not]
  intro hc
  rw [hbreaks c hc] at h
  exact absurd h (by decide)

/-- The word `key=value`. -/
def keyValue (key value : String) : List Char := key.toList ++ '=' :: value.toList

/-- A word of a row splits into its key and its value. -/
theorem cut_keyValue {key : String} (value : String) (h : '=' ∉ key.toList) :
    (String.ofList (cut '=' (keyValue key value)).1,
      String.ofList (cut '=' (keyValue key value)).2) = (key, value) := by
  rw [keyValue, cut_append _ h, String.ofList_toList, String.ofList_toList]

namespace Tapdisk

variable (t : Tapdisk)

/-- The words of a row. -/
def parts : List (List Char) :=
  [keyValue "pid" t.pid.repr, keyValue "minor" t.minor.repr, keyValue "state" t.state,
    keyValue "args" ("aio:" ++ device t.dev)]

theorem row_toList :
    t.row.toList =
      keyValue "pid" t.pid.repr ++ ' ' :: (keyValue "minor" t.minor.repr ++ ' ' ::
        (keyValue "state" t.state ++ ' ' :: keyValue "args" ("aio:" ++ device t.dev))) := by
  simp [row, keyValue]

theorem wordChar_of_mem_parts {part : List Char} (hpart : part ∈ t.parts) {c : Char}
    (hc : c ∈ part) : wordChar c = true := by
  have hdigits : ∀ n : Nat, ∀ d ∈ n.repr.toList, wordChar d = true :=
    fun n d hd => wordChar_of_isDigit (isDigit_of_mem_repr hd)
  have hhex : ∀ d ∈ "0123456789abcdefx".toList, wordChar d = true := by simp [wordChar]
  have hword : ∀ key value : String, (∀ d ∈ key.toList, wordChar d = true) →
      (∀ d ∈ value.toList, wordChar d = true) → ∀ d ∈ keyValue key value, wordChar d = true := by
    intro key value hkey hvalue d hd
    rcases List.mem_append.mp hd with hd | hd
    · exact hkey d hd
    · rcases List.mem_cons.mp hd with rfl | hd
      · decide
      · exact hvalue d hd
  simp only [parts, List.mem_cons, List.not_mem_nil, or_false] at hpart
  rcases hpart with rfl | rfl | rfl | rfl
  · exact hword _ _ (by simp [wordChar]) (hdigits t.pid) c hc
  · exact hword _ _ (by simp [wordChar]) (hdigits t.minor) c hc
  · exact hword _ _ (by simp [wordChar]) (fun d hd => hhex d (t.state_hex d hd)) c hc
  · refine hword _ _ (by simp [wordChar]) ?_ c hc
    intro d hd
    rw [device, ← String.append_assoc, String.toList_append] at hd
    rcases List.mem_append.mp hd with hd | hd
    · exact (by simp [wordChar] : ∀ d ∈ ("aio:" ++ "/dev/rbd").toList, wordChar d = true) d hd
    · exact hdigits t.dev d hd

theorem words_row : words t.row.toList = t.parts := by
  have hblank : ∀ part ∈ t.parts, ∀ c ∈ part, isBlank c = false :=
    fun part hpart c hc => isBlank_of_wordChar (t.wordChar_of_mem_parts hpart hc)
  have hne : ∀ key value : String, keyValue key value ≠ [] := by
    intro key value
    simp [keyValue]
  rw [row_toList,
    words_cons _ (by decide) (hne _ _) (hblank _ (by simp [parts])),
    words_cons _ (by decide) (hne _ _) (hblank _ (by simp [parts])),
    words_cons _ (by decide) (hne _ _) (hblank _ (by simp [parts])),
    words_single (hne _ _) (hblank _ (by simp [parts]))]
  rfl

/-- A row has the characters of its words and the spaces between them. -/
theorem mem_row {c : Char} (h : c ∈ t.row.toList) : c = ' ' ∨ ∃ part ∈ t.parts, c ∈ part := by
  simp only [row_toList, List.mem_append, List.mem_cons] at h
  rcases h with h | h | h | h | h | h | h
  · exact .inr ⟨_, by simp [parts], h⟩
  · exact .inl h
  · exact .inr ⟨_, by simp [parts], h⟩
  · exact .inl h
  · exact .inr ⟨_, by simp [parts], h⟩
  · exact .inl h
  · exact .inr ⟨_, by simp [parts], h⟩

theorem isBreak_of_mem_row {c : Char} (h : c ∈ t.row.toList) : isBreak c = false := by
  rcases t.mem_row h with rfl | ⟨part, hpart, hc⟩
  · decide
  · exact isBreak_of_wordChar (t.wordChar_of_mem_parts hpart hc)

/-- The dictionary of a row. -/
theorem fields_row :
    fields t.row.toList = [("pid", t.pid.repr), ("minor", t.minor.repr), ("state", t.state),
      ("args", "aio:" ++ device t.dev)] := by
  have hequals : ∀ key value : String, (keyValue key value).contains '=' = true := by
    intro key value
    simp [keyValue]
  rw [fields, words_row, parts]
  simp only [List.filter_cons, hequals, if_true, List.filter_nil, List.map_cons, List.map_nil]
  rw [cut_keyValue _ (by decide), cut_keyValue _ (by decide), cut_keyValue _ (by decide),
    cut_keyValue _ (by decide)]

theorem get_fields_row :
    get (fields t.row.toList) "pid" = some t.pid.repr ∧
      get (fields t.row.toList) "minor" = some t.minor.repr := by
  rw [fields_row]
  exact ⟨rfl, rfl⟩

/-- What stands before the only `g` of a row, the one of `args`. -/
def front : List Char :=
  keyValue "pid" t.pid.repr ++ ' ' :: (keyValue "minor" t.minor.repr ++ ' ' ::
    (keyValue "state" t.state ++ ' ' :: "ar".toList))

theorem row_eq_front :
    t.row.toList = t.front ++ 'g' :: ("s=aio:/dev/rbd".toList ++ t.dev.repr.toList) := by
  simp [row_toList, front, keyValue, device]

theorem g_notMem_repr (n : Nat) : 'g' ∉ n.repr.toList := by
  intro h
  exact absurd (isDigit_of_mem_repr h) (by decide)

theorem g_notMem_front : 'g' ∉ t.front := by
  have hstate : 'g' ∉ t.state.toList := fun h => absurd (t.state_hex _ h) (by decide)
  have hword : ∀ key value : String, 'g' ∉ key.toList → 'g' ∉ value.toList →
      'g' ∉ keyValue key value := by
    intro key value hkey hvalue
    simp [keyValue, hkey, hvalue]
  have hpid := hword "pid" _ (by decide) (g_notMem_repr t.pid)
  have hminor := hword "minor" _ (by decide) (g_notMem_repr t.minor)
  have hlast := hword "state" _ (by decide) hstate
  simp [front, hpid, hminor, hlast]

/-- A row matches the search for a device exactly when the row's number starts with the device's
digits: the `g` of the needle can only stand at the only `g` of the row. -/
theorem contains_row (n : Nat) :
    contains (String.ofList t.row.toList) ("args=aio:" ++ device n) = true ↔
      n.repr.toList <+: t.dev.repr.toList := by
  have hneedle : ("args=aio:" ++ device n).toList =
      "ar".toList ++ 'g' :: ("s=aio:/dev/rbd".toList ++ n.repr.toList) := by
    simp [device]
  have htail : 'g' ∉ "s=aio:/dev/rbd".toList ++ t.dev.repr.toList := by
    rw [List.mem_append, not_or]
    exact ⟨by decide, g_notMem_repr t.dev⟩
  rw [contains_iff, String.toList_ofList, hneedle, row_eq_front]
  constructor
  · intro h
    obtain ⟨left, right, hrow⟩ := h
    rw [← List.append_assoc, List.append_assoc, List.cons_append] at hrow
    obtain ⟨-, -, hrest⟩ := (List.append_cons_inj_of_notMem t.g_notMem_front htail).mp hrow.symm
    rw [List.append_assoc] at hrest
    exact ⟨right, (List.append_cancel_left hrest).symm⟩
  · intro h
    obtain ⟨right, hright⟩ := h
    refine ⟨keyValue "pid" t.pid.repr ++ ' ' :: (keyValue "minor" t.minor.repr ++ ' ' ::
      (keyValue "state" t.state ++ [' '])), right, ?_⟩
    rw [← hright]
    simp [front]

end Tapdisk

/-! ## What is found -/

/-- The row matches the search for device `n`. -/
def Matches (n : Nat) (t : Tapdisk) : Prop := n.repr.toList <+: t.dev.repr.toList

instance (n : Nat) : DecidablePred (Matches n) :=
  fun t => inferInstanceAs (Decidable (n.repr.toList <+: t.dev.repr.toList))

/-- `_tap_find` answers with the first row that matches. -/
theorem tapFind_text (l : Listing) (n : Nat) :
    tapFind (some l.text) (device n) =
      match l.rows.find? fun t => decide (Matches n t) with
      | some t => (some t.pid.repr, some t.minor.repr)
      | none => (none, none) := by
  have hlines : splitlines l.text.toList = l.rows.map fun t => t.row.toList := by
    rw [Listing.text, String.toList_ofList]
    apply splitlines_terminated
    intro line hline c hc
    obtain ⟨t, -, rfl⟩ := List.mem_map.mp hline
    exact t.isBreak_of_mem_row hc
  have hmatch : (fun line => contains (String.ofList line) ("args=aio:" ++ device n)) ∘
      (fun t : Tapdisk => t.row.toList) = fun t => decide (Matches n t) := by
    funext t
    rw [Function.comp_apply, Bool.eq_iff_iff, t.contains_row, decide_eq_true_iff, Matches]
  simp only [tapFind, hlines]
  rw [List.find?_map, hmatch]
  cases l.rows.find? fun t => decide (Matches n t) with
  | none => rfl
  | some t =>
      obtain ⟨hpid, hminor⟩ := t.get_fields_row
      show (get (fields t.row.toList) "pid", get (fields t.row.toList) "minor") = _
      rw [hpid, hminor]

/-- Two rows of a listing with one minor are the same. -/
theorem Listing.eq_of_minor (l : Listing) {t u : Tapdisk} (ht : t ∈ l.rows) (hu : u ∈ l.rows)
    (h : t.minor.repr = u.minor.repr) : t = u :=
  List.inj_on_of_nodup_map l.minors ht hu (repr_inj h)

/-- Every row of a longer device number that starts with the digits of `n` comes after a row of
device `n`. -/
def Clear (l : Listing) (n : Nat) : Prop :=
  ∀ before t after, l.rows = before ++ t :: after → t.dev ≠ n → Matches n t →
    ∃ s ∈ before, s.dev = n

theorem matches_self {n : Nat} {t : Tapdisk} (h : t.dev = n) : Matches n t := by
  rw [Matches, h]

/-- On a clear listing the first row that matches is the device's own. -/
theorem Clear.dev_of_find {l : Listing} {n : Nat} (h : Clear l n) {t : Tapdisk}
    (hfind : l.rows.find? (fun t => decide (Matches n t)) = some t) : t.dev = n := by
  rw [List.find?_eq_some_iff_append] at hfind
  obtain ⟨hmatch, before, after, hrows, hbefore⟩ := hfind
  by_contra hne
  obtain ⟨s, hs, hdev⟩ := h before t after hrows hne (of_decide_eq_true hmatch)
  have hnot := hbefore s hs
  rw [decide_eq_true (matches_self hdev)] at hnot
  exact absurd hnot (by decide)

/-- Where a listing is not clear, the first row that matches is another device's. -/
theorem exists_find_of_not_clear {l : Listing} {n : Nat} (h : ¬ Clear l n) :
    ∃ t, l.rows.find? (fun t => decide (Matches n t)) = some t ∧ t.dev ≠ n := by
  simp only [Clear] at h
  push Not at h
  obtain ⟨before, t, after, hrows, hne, hmatch, hbefore⟩ := h
  rw [hrows, List.find?_append]
  cases hfind : before.find? fun t => decide (Matches n t) with
  | some s => exact ⟨s, rfl, hbefore s (List.mem_of_find?_eq_some hfind)⟩
  | none => exact ⟨t, by simp [hmatch], hne⟩

/-! ## The commands -/

/-- The pid and the minor that a command names. -/
def Cmd.target : Cmd → String × String
  | .destroy pid minor => (pid, minor)
  | .pause pid minor => (pid, minor)
  | .unpause pid minor _ => (pid, minor)

/-- The command acts on the tapdisk. -/
def Cmd.ActsOn (cmd : Cmd) (t : Tapdisk) : Prop := cmd.target = (t.pid.repr, t.minor.repr)

/-- The tapdisk serves the volume: its device is one of those on which the volume is mapped. -/
def Serves (devs : List Attrs) (vol : Vol) (t : Tapdisk) : Prop :=
  ∃ a ∈ devs, a.info = vol.info ∧ a.id = t.dev

/-- `_tap_find` finds the tapdisk of device `n` if there is one, and nothing otherwise. -/
def FindsExact (l : Listing) (n : Nat) : Prop :=
  (∃ t ∈ l.rows, t.dev = n ∧
      tapFind (some l.text) (device n) = (some t.pid.repr, some t.minor.repr)) ∨
    ((∀ t ∈ l.rows, t.dev ≠ n) ∧ tapFind (some l.text) (device n) = (none, none))

/-- The commands of `detach`, and those of `inject_running` and `rotate` on a base. -/
def commands (devs : List Attrs) (vol : Vol) (created : Bool) (r : Replies) : List Cmd :=
  detach devs vol r ++
    if vol.snap = none then
      injectRunning devs vol.pool vol.ns vol.image r ++
        rotate devs vol.pool vol.ns vol.image created r
    else []

/-- The commands for a volume that is mapped on device `n` act on no other volume's tapdisk. -/
def ActsOnOwn (l : Listing) (n : Nat) : Prop :=
  ∀ (devs : List Attrs) (vol : Vol) (a : Attrs) (created : Bool) (r : Replies),
    findEntry devs vol = some a → a.id = n → (r.list = none ∨ r.list = some l.text) →
      ∀ cmd ∈ commands devs vol created r, ∀ t ∈ l.rows, cmd.ActsOn t → Serves devs vol t

/-- A relog names the tapdisk that was found. -/
theorem target_of_mem_relog {found : Option String × Option String} {r : Replies} {cmd : Cmd}
    (h : cmd ∈ relog found r) : found = (some cmd.target.1, some cmd.target.2) := by
  unfold relog at h
  split at h
  · split at h
    · simp at h
    · split at h
      · simp at h
      · rcases List.mem_cons.mp h with rfl | h
        · rfl
        · split at h
          · rw [List.mem_singleton] at h
            subst h
            rfl
          · simp at h
  · simp at h

/-- Every command names what `_tap_find` answered for the device of the volume. -/
theorem target_of_mem_commands {devs : List Attrs} {vol : Vol} {a : Attrs} {created : Bool}
    {r : Replies} (hentry : findEntry devs vol = some a) {cmd : Cmd}
    (h : cmd ∈ commands devs vol created r) :
    tapFind r.list (device a.id) = (some cmd.target.1, some cmd.target.2) ∨
      ∃ pid, tapFind r.list (device a.id) = (some pid, none) := by
  have hdev : findDevice devs vol = some (device a.id) := by rw [findDevice, hentry]; rfl
  rw [commands, List.mem_append] at h
  rcases h with h | h
  · simp only [detach, hdev] at h
    split at h
    next pid minor hfound =>
      rw [List.mem_singleton] at h
      subst h
      cases minor with
      | none => exact .inr ⟨pid, hfound⟩
      | some minor => exact .inl hfound
    next => simp at h
  · split at h
    next hsnap =>
      have hbase : ({ pool := vol.pool, image := vol.image, ns := vol.ns } : Vol) = vol := by
        cases vol
        simp_all
      left
      rcases List.mem_append.mp h with h | h
      · simp only [injectRunning, hbase, hdev] at h
        exact target_of_mem_relog h
      · simp only [rotate, hbase, hdev] at h
        split at h
        · exact target_of_mem_relog h
        · simp at h
    next => simp at h

/-- `_tap_find` never gives a pid without a minor on a listing. -/
theorem tapFind_text_ne (l : Listing) (n : Nat) (pid : String) :
    tapFind (some l.text) (device n) ≠ (some pid, none) := by
  rw [tapFind_text]
  split <;> simp

/-- On a clear listing the tapdisk of the device is found. -/
theorem Clear.findsExact {l : Listing} {n : Nat} (h : Clear l n) : FindsExact l n := by
  rw [FindsExact, tapFind_text]
  cases hfind : l.rows.find? fun t => decide (Matches n t) with
  | some t => exact .inl ⟨t, List.mem_of_find?_eq_some hfind, h.dev_of_find hfind, rfl⟩
  | none =>
      refine .inr ⟨?_, rfl⟩
      intro t ht hdev
      have hnot := List.find?_eq_none.mp hfind t ht
      exact hnot (decide_eq_true (matches_self hdev))

/-- On a clear listing the commands stay with the volume's own tapdisk. -/
theorem Clear.actsOnOwn {l : Listing} {n : Nat} (h : Clear l n) : ActsOnOwn l n := by
  intro devs vol a created r hentry hid hlist cmd hcmd t ht hacts
  subst hid
  obtain ⟨ha, hinfo⟩ := findEntry_spec hentry
  refine ⟨a, ha, hinfo, ?_⟩
  have htarget := target_of_mem_commands hentry hcmd
  rcases hlist with hlist | hlist
  · rw [hlist] at htarget
    simp [tapFind] at htarget
  · rw [hlist] at htarget
    rcases htarget with htarget | ⟨pid, htarget⟩
    · rw [tapFind_text] at htarget
      cases hfind : l.rows.find? fun t => decide (Matches a.id t) with
      | none => simp [hfind] at htarget
      | some s =>
          rw [hfind, hacts] at htarget
          simp only [Prod.mk.injEq, Option.some.injEq] at htarget
          have hs := List.mem_of_find?_eq_some hfind
          rw [← l.eq_of_minor hs ht htarget.2]
          exact (h.dev_of_find hfind).symm
    · exact absurd htarget (tapFind_text_ne l a.id pid)

/-- `_tap_find` finds a tapdisk by its exact device, and what is destroyed, paused or given another
log serves the volume, exactly where every row of a longer device number that starts with the
device's digits comes after a row of the device itself. -/
theorem tap_find_exact_iff (l : Listing) (n : Nat) :
    (FindsExact l n ∧ ActsOnOwn l n) ↔ Clear l n := by
  constructor
  · intro h
    by_contra hclear
    obtain ⟨t, hfind, hne⟩ := exists_find_of_not_clear hclear
    have ht := List.mem_of_find?_eq_some hfind
    have hexact := h.1
    rw [FindsExact, tapFind_text, hfind] at hexact
    rcases hexact with ⟨s, hs, hdev, heq⟩ | ⟨-, heq⟩
    · simp only [Prod.mk.injEq, Option.some.injEq] at heq
      rw [l.eq_of_minor ht hs heq.2] at hne
      exact hne hdev
    · simp at heq
  · intro h
    exact ⟨h.findsExact, h.actsOnOwn⟩

/-- The listing of a host with `/dev/rbd10` attached before `/dev/rbd1`. -/
def tenBeforeOne : Listing where
  rows := [{ pid := 4100, minor := 0, state := "0x0", dev := 10, state_hex := by simp },
    { pid := 4200, minor := 1, state := "0x0", dev := 1, state_hex := by simp }]
  minors := by decide

/-- The attributes of these two devices: image `a` on `/dev/rbd10`, image `b` on `/dev/rbd1`. -/
def twoDevices : List Attrs :=
  [{ id := 10, pool := some "rbd", name := some "a", currentSnap := some "-", poolNs := some "" },
    { id := 1, pool := some "rbd", name := some "b", currentSnap := some "-", poolNs := some "" }]

/-- The tapdisk of `/dev/rbd10` is found for `/dev/rbd1`, and detaching the volume on `/dev/rbd1`
destroys it. -/
theorem tap_find_longer_number :
    tapFind (some tenBeforeOne.text) "/dev/rbd1" = (some "4100", some "0") ∧
      detach twoDevices { pool := "rbd", image := "b" }
        { list := some tenBeforeOne.text, log := none, paused := false } =
          [.destroy "4100" "0"] ∧
      ¬ FindsExact tenBeforeOne 1 ∧ ¬ ActsOnOwn tenBeforeOne 1 := by
  have hfound : tapFind (some tenBeforeOne.text) "/dev/rbd1" = (some "4100", some "0") := by
    decide +kernel
  have hdetach : detach twoDevices { pool := "rbd", image := "b" }
      { list := some tenBeforeOne.text, log := none, paused := false } =
        [.destroy "4100" "0"] := by
    decide +kernel
  refine ⟨hfound, hdetach, ?_, ?_⟩
  · intro hexact
    have hdevice : device 1 = "/dev/rbd1" := by decide
    rw [FindsExact, hdevice, hfound] at hexact
    rcases hexact with ⟨t, ht, hdev, heq⟩ | ⟨-, heq⟩
    · simp only [tenBeforeOne, List.mem_cons, List.not_mem_nil, or_false] at ht
      rcases ht with rfl | rfl
      · exact absurd hdev (by decide)
      · exact absurd heq (by decide)
    · exact absurd heq (by decide)
  · intro hown
    have hserves := hown twoDevices { pool := "rbd", image := "b" } _ false
      { list := some tenBeforeOne.text, log := none, paused := false } rfl rfl (.inr rfl)
      (.destroy "4100" "0") (List.mem_append_left _ (hdetach ▸ List.mem_cons_self))
      _ List.mem_cons_self (by rw [Cmd.ActsOn]; decide)
    obtain ⟨a, ha, hinfo, hid⟩ := hserves
    simp only [twoDevices, List.mem_cons, List.not_mem_nil, or_false] at ha
    rcases ha with rfl | rfl
    · exact absurd hinfo (by decide)
    · exact absurd hid (by decide)

end XcpCephRbd.TapCtl
