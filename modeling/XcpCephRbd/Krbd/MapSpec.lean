import XcpCephRbd.Datapath.Sysfs
import XcpCephRbd.Krbd.Options
import XcpCephRbd.Lib.Base64

/-!
# The map line

`_build_spec` of `rbd_sysfs.py` writes the line for `/sys/bus/rbd/add`, `rbd_add_parse_args` of rbd
reads it, and the device that is made shows what was read in its attributes. `map_round_trip` says
that the kernel reads what the driver means, and that `find_device` finds the device again and takes
it for no other volume.
-/

namespace XcpCephRbd.Krbd

open Split Sysfs

/-- `extra_opts` of a map: none, a text or a list. -/
inductive ExtraOpts where
  | none
  | text (opts : List Char)
  | list (opts : List (List Char))
  deriving DecidableEq, Repr

/-- What a volume is mapped with. -/
structure MapArgs where
  monHost : List Char
  user : List Char
  secret : List Char
  pool : List Char
  image : List Char
  snap : Option (List Char) := none
  msMode : String := "prefer-crc"
  readOnly : Bool := false
  extraOpts : ExtraOpts := .none
  ns : Option (List Char) := none

namespace MapArgs

variable (args : MapArgs)

/-- The option of a value that is there and not empty. -/
def optional (key : String) (value : Option (List Char)) : List (List Char) :=
  match value with
  | some (c :: text) => [key.toList ++ c :: text]
  | _ => []

/-- The options of a map. -/
def opts : List (List Char) :=
  ["name=".toList ++ args.user, "secret=".toList ++ args.secret] ++
    optional "_pool_ns=" args.ns ++ optional "ms_mode=" (some args.msMode.toList) ++
    (if args.readOnly then ["ro".toList] else []) ++
    match args.extraOpts with
    | .none => []
    | .text opts => (opts.splitOn ',').filter fun o => !o.isEmpty
    | .list opts => opts

/-- `_build_spec`. -/
def buildSpec : Except String (List Char) := do
  let mons ← normalizeMons args.monHost args.msMode
  let spec := mons ++ ' ' :: [','].intercalate args.opts ++ ' ' :: args.pool ++ ' ' :: args.image
  pure (match args.snap with
    | some (c :: snap) => spec ++ ' ' :: c :: snap
    | _ => spec)

end MapArgs

/-- The characters for which `isspace` holds in the C locale. -/
def isSpace (c : Char) : Bool := [' ', '\x0c', '\n', '\r', '\t', '\x0b'].contains c

/-- `next_token` and `dup_token`: the token and what stands behind it. -/
def nextToken (buf : List Char) : List Char × List Char :=
  let buf := buf.dropWhile isSpace
  (buf.takeWhile fun c => !isSpace c, buf.dropWhile fun c => !isSpace c)

/-- The length of a text in the bytes of UTF-8. -/
def byteLength (text : List Char) : Nat := (text.map Char.utf8Size).sum

/-- `RBD_MAX_SNAP_NAME_LEN`. -/
def rbdMaxSnapNameLen : Nat := 250

/-- `CEPH_MAX_MON`. -/
def cephMaxMon : Nat := 31

/-- What `rbd_add_parse_args` gives: the options and the spec. -/
structure AddArgs (Key : Type) where
  copts : CephOptions Key
  opts : RbdOptions
  poolName : List Char
  imageName : List Char
  snapName : List Char
  poolNs : Option (List Char)
  deriving DecidableEq, Repr

variable {Key : Type}

/-- `rbd_add_parse_args`; the text that is written ends at its first NUL. -/
def rbdAddParseArgs (host : Host Key) (written : List Char) : Except Errno (AddArgs Key) := do
  let buf := written.takeWhile fun c => c != '\x00'
  let (monAddrs, buf) := nextToken buf
  if monAddrs = [] then throw .inval
  let (options, buf) := nextToken buf
  if options = [] then throw .inval
  let (poolName, buf) := nextToken buf
  if poolName = [] then throw .inval
  let (imageName, buf) := nextToken buf
  if imageName = [] then throw .inval
  let (snap, _) := nextToken buf
  if rbdMaxSnapNameLen < byteLength snap then throw .nametoolong
  let (monAddr, numMon) ← cephParseIps host.net ',' cephMaxMon monAddrs
  let ctx ← rbdParseOptions host options { copts := { monAddr, numMon } }
  pure
    { copts := ctx.copts, opts := ctx.opts, poolNs := ctx.poolNs
      poolName, imageName, snapName := if snap = [] then ['-'] else snap }

/-- What `_read` gives of an attribute that shows a text. -/
def shownAttr (text : List Char) : String := String.ofList (strip (text ++ ['\n']))

/-- The attributes of the device that is made: `rbd_pool_show`, `rbd_name_show`, `rbd_snap_show` and
`rbd_pool_ns_show`. -/
def AddArgs.attrs (id : Nat) (a : AddArgs Key) : Attrs :=
  { id := id
    pool := some (shownAttr a.poolName)
    name := some (shownAttr a.imageName)
    currentSnap := some (shownAttr a.snapName)
    poolNs := some (shownAttr (a.poolNs.getD [])) }

/-- What is mapped as `find_device` is asked for it. -/
def MapArgs.vol (args : MapArgs) : Vol :=
  { pool := String.ofList args.pool
    image := String.ofList args.image
    snap := args.snap.map String.ofList
    ns := args.ns.map String.ofList }

/-- A value that is neither empty nor has a blank in it. -/
structure Word (text : List Char) : Prop where
  ne : text ≠ []
  blank : ∀ c ∈ text, isBlank c = false

/-- The connection modes that an `ms_mode` asks for, the preferred one first. -/
def modesOf (msMode : String) : ConMode × ConMode :=
  if msMode = "crc" then (.crc, .unknown)
  else if msMode = "secure" then (.secure, .unknown)
  else if msMode = "prefer-crc" then (.crc, .secure)
  else if msMode = "prefer-secure" then (.secure, .crc)
  else (.unknown, .unknown)

/-- What the driver is given: a list of addresses, values that can stand in the line, a known mode
and no further options. -/
structure MapArgs.Given (net : Net) (l : MonList) (args : MapArgs) : Prop where
  monHost : args.monHost = l.text
  mons : ∀ m ∈ l.mons, m.Valid net
  count : l.mons.length ≤ cephMaxMon
  user : Word args.user ∧ ',' ∉ args.user
  secret : Word args.secret ∧ ',' ∉ args.secret
  ns : ∀ ns ∈ args.ns, Word ns ∧ ',' ∉ ns
  pool : Word args.pool
  image : Word args.image
  snap : ∀ snap ∈ args.snap, Word snap ∧ snap ≠ ['-'] ∧ byteLength snap ≤ rbdMaxSnapNameLen
  msMode : args.msMode ∈ ["legacy", "crc", "secure", "prefer-crc", "prefer-secure"]
  extraOpts : args.extraOpts = .none

/-- The values of a map have no NUL in them, at which the kernel's text would end. -/
def MapArgs.NoNul (args : MapArgs) : Prop :=
  ∀ text ∈ [args.user, args.secret, args.pool, args.image] ++ args.snap.toList ++ args.ns.toList,
    '\x00' ∉ text

/-- What the driver means. -/
def MapArgs.meant (args : MapArgs) (l : MonList) (key : Key) : AddArgs Key :=
  { copts :=
      { monAddr := l.mons.map (Mon.addr (if args.msMode = "legacy" then 6789 else 3300))
        numMon := l.mons.length
        name := some args.user
        key := some key
        conModes := modesOf args.msMode }
    opts := { readOnly := args.readOnly }
    poolName := args.pool
    imageName := args.image
    snapName := args.snap.getD ['-']
    poolNs := args.ns }

/-- A device shows the volume: where it is added and no device shows the volume already, it is found
for the volume, and for any other one what is found does not change. -/
def Shows (a : Nat → Attrs) (vol : Vol) : Prop :=
  ∀ (id : Nat) (before after : List Attrs), (∀ d ∈ before ++ after, d.info ≠ vol.info) →
    findDevice (before ++ a id :: after) vol = some (device (a id).id) ∧
      ∀ other : Vol, other.info ≠ vol.info →
        findDevice (before ++ a id :: after) other = findDevice (before ++ after) other

/-- The kernel reads what the driver means, and the device shows the volume. -/
def MapArgs.RoundTrip (host : Host Key) (l : MonList) (args : MapArgs) : Prop :=
  ∀ key, host.unarmor args.secret = .ok key → ∃ spec a,
    args.buildSpec = .ok spec ∧ rbdAddParseArgs host spec = .ok a ∧ a = args.meant l key ∧
      Shows (fun id => a.attrs id) args.vol

section Tokens

/-- The characters of a token of the line. -/
def tokenChar (c : Char) : Bool := !isBlank c && c != '\x00'

theorem tokenChar_of_addrChar {c : Char} (h : addrChar c = true) : tokenChar c = true := by
  have hnul : c ≠ '\x00' := by
    rintro rfl
    exact absurd h (by decide)
  simp [tokenChar, (of_addrChar h).1, hnul]

/-- What the C locale takes for a space is a blank. -/
theorem isSpace_of_tokenChar {c : Char} (h : tokenChar c = true) : isSpace c = false := by
  by_contra hspace
  have hmem : c ∈ [' ', '\x0c', '\n', '\r', '\t', '\x0b'] := by
    rwa [isSpace, Bool.not_eq_false, List.contains_iff_mem] at hspace
  have hall : ∀ d ∈ [' ', '\x0c', '\n', '\r', '\t', '\x0b'], tokenChar d = false := by
    simp [tokenChar, isBlank, blanks]
  exact Bool.false_ne_true ((hall c hmem).symm.trans h)

/-- A token, the first one or one behind a space, is read up to the next space. -/
theorem nextToken_token {token : List Char} (rest : List Char) (hne : token ≠ [])
    (htoken : ∀ c ∈ token, tokenChar c = true) (hrest : ∀ c ∈ rest.head?, c = ' ') :
    nextToken (token ++ rest) = (token, rest) ∧ nextToken (' ' :: (token ++ rest)) =
    (token, rest) := by
  obtain ⟨c, tail, rfl⟩ := List.exists_cons_of_ne_nil hne
  have hc := isSpace_of_tokenChar (htoken c List.mem_cons_self)
  have hspace : ∀ d ∈ c :: tail, (!isSpace d) = true := by
    intro d hd
    rw [isSpace_of_tokenChar (htoken d hd)]
    rfl
  have hstop : rest.takeWhile (fun d => !isSpace d) = [] ∧
      rest.dropWhile (fun d => !isSpace d) = rest := by
    cases rest with
    | nil => exact ⟨rfl, rfl⟩
    | cons d rest =>
        obtain rfl : d = ' ' := hrest d rfl
        exact ⟨rfl, rfl⟩
  have hskip : ((c :: tail) ++ rest).dropWhile isSpace = (c :: tail) ++ rest :=
    List.dropWhile_cons_of_neg (by simp [hc])
  have hread : nextToken ((c :: tail) ++ rest) = (c :: tail, rest) := by
    rw [nextToken]
    simp only [hskip]
    rw [List.takeWhile_append_of_pos hspace, List.dropWhile_append_of_pos hspace, hstop.1, hstop.2,
      List.append_nil]
  exact ⟨hread, hread⟩

end Tokens

section Given

variable {net : Net} {l : MonList} {args : MapArgs}

/-- Words without a NUL are tokens. -/
theorem Word.token {text : List Char} (h : Word text) (hnul : '\x00' ∉ text) :
    ∀ c ∈ text, tokenChar c = true := by
  intro c hc
  have hne : c ≠ '\x00' := fun heq => hnul (heq ▸ hc)
  simp [tokenChar, h.blank c hc, hne]

/-- An option is written where its value is there. -/
theorem optional_some {key : String} {value : List Char} (hne : value ≠ []) :
    MapArgs.optional key (some value) = [key.toList ++ value] := by
  obtain ⟨c, tail, rfl⟩ := List.exists_cons_of_ne_nil hne
  rfl

/-- The options of a map as they are listed. -/
theorem MapArgs.Given.opts_eq (h : args.Given net l) :
    args.opts = ("name=".toList ++ args.user) :: ("secret=".toList ++ args.secret) ::
      (args.ns.toList.map ("_pool_ns=".toList ++ ·) ++ ("ms_mode=".toList ++ args.msMode.toList) ::
        if args.readOnly then ["ro".toList] else []) := by
  have hmode : args.msMode.toList ≠ [] := by
    have hall : ∀ mode ∈ ["legacy", "crc", "secure", "prefer-crc", "prefer-secure"],
        mode.toList ≠ [] := by simp
    exact hall _ h.msMode
  have hns : MapArgs.optional "_pool_ns=" args.ns = args.ns.toList.map
      ("_pool_ns=".toList ++ ·) := by
    cases hargs : args.ns with
    | none => rfl
    | some ns => exact optional_some (h.ns ns hargs).1.ne
  rw [MapArgs.opts, hns, optional_some hmode, h.extraOpts]
  simp

/-- The characters of the options are those of tokens, and no comma stands in an option. -/
theorem MapArgs.Given.opts_chars (h : args.Given net l) (hnul : args.NoNul) {o : List Char}
    (ho : o ∈ args.opts) : ∀ c ∈ o, tokenChar c = true ∧ c ≠ ',' := by
  have hvalue : ∀ (key : String) (value : List Char),
      (∀ c ∈ key.toList, tokenChar c = true ∧ c ≠ ',') → Word value → ',' ∉ value → '\x00' ∉ value →
        ∀ c ∈ key.toList ++ value, tokenChar c = true ∧ c ≠ ',' := by
    intro key value hkey hword hcomma hnul c hc
    rcases List.mem_append.mp hc with hc | hc
    · exact hkey c hc
    · exact ⟨hword.token hnul c hc, fun heq => hcomma (heq ▸ hc)⟩
  have hmodes : ∀ mode ∈ ["legacy", "crc", "secure", "prefer-crc", "prefer-secure"],
      ∀ c ∈ "ms_mode=".toList ++ mode.toList, tokenChar c = true ∧ c ≠ ',' := by
    simp [tokenChar, isBlank, blanks]
  rw [h.opts_eq] at ho
  simp only [List.mem_cons, List.mem_append, List.mem_map, Option.mem_toList] at ho
  rcases ho with rfl | rfl | ⟨ns, hns, rfl⟩ | rfl | ho
  · exact hvalue _ _ (by simp [tokenChar, isBlank, blanks]) h.user.1 h.user.2
      (hnul _ (by simp))
  · exact hvalue _ _ (by simp [tokenChar, isBlank, blanks]) h.secret.1 h.secret.2
      (hnul _ (by simp))
  · exact hvalue _ _ (by simp [tokenChar, isBlank, blanks]) (h.ns ns hns).1 (h.ns ns hns).2
      (hnul _ (by simp [Option.mem_def.mp hns]))
  · exact hmodes _ h.msMode
  · split at ho
    · obtain rfl : o = "ro".toList := by simpa using ho
      simp [tokenChar, isBlank, blanks]
    · cases ho

/-- The kernel sets what the options say. -/
theorem MapArgs.Given.parse_opts {host : Host Key} (h : args.Given net l) (hnul : args.NoNul)
    {key : Key} (hkey : host.unarmor args.secret = .ok key) (copts : CephOptions Key) :
    rbdParseOptions host ([','].intercalate args.opts) { copts } =
      .ok
        { copts :=
            { copts with
              name := some args.user
              key := some key
              conModes := modesOf args.msMode }
          opts := { readOnly := args.readOnly }
          poolNs := args.ns } := by
  have hsplit : ([','].intercalate args.opts).splitOn ',' = args.opts := by
    refine List.splitOn_intercalate ',' (fun o ho hmem => ?_) ?_
    · exact (h.opts_chars hnul ho _ hmem).2 rfl
    · rw [h.opts_eq]
      exact List.cons_ne_nil _ _
  have hrow : ∃ n, (args.msMode, n) ∈ cephParamMsMode ∧ conModes n = modesOf args.msMode := by
    have hall : ∀ mode ∈ ["legacy", "crc", "secure", "prefer-crc", "prefer-secure"],
        ∃ n, (mode, n) ∈ cephParamMsMode ∧ conModes n = modesOf mode := by
      simp [cephParamMsMode, modesOf, conModes]
    exact hall _ h.msMode
  obtain ⟨n, hmem, hmodes⟩ := hrow
  rw [rbdParseOptions, hsplit, h.opts_eq, List.foldlM_cons, rbdParseOption_name h.user.1.ne]
  show List.foldlM _ _ _ = _
  rw [List.foldlM_cons, rbdParseOption_secret h.secret.1.ne hkey]
  show List.foldlM _ _ _ = _
  rw [List.foldlM_append]
  have hns : ∀ ctx : Ctx Key, ctx.poolNs = none →
      (args.ns.toList.map ("_pool_ns=".toList ++ ·)).foldlM
        (fun ctx option => rbdParseOption host option ctx) ctx =
          .ok { ctx with poolNs := args.ns } := by
    intro ctx hctx
    cases hargs : args.ns with
    | none =>
        obtain ⟨copts', opts', ns'⟩ := ctx
        cases hctx
        rfl
    | some ns =>
        show List.foldlM _ _ [_] = _
        rw [List.foldlM_cons, rbdParseOption_poolNs (h.ns ns hargs).1.ne]
        rfl
  rw [hns _ rfl]
  show List.foldlM _ _ _ = _
  rw [List.foldlM_cons, rbdParseOption_msMode hmem]
  show List.foldlM _ _ _ = _
  cases hro : args.readOnly with
  | false =>
      show Except.ok _ = _
      rw [hmodes]
  | true =>
      show List.foldlM _ _ ["ro".toList] = _
      rw [List.foldlM_cons, rbdParseOption_ro]
      show Except.ok _ = _
      rw [hmodes]

/-- The text of the addresses is a token. -/
theorem MapArgs.Given.mons_chars (hnet : Pton net) (h : args.Given net l) {port : List Char}
    (hport : IsPort port) :
    [','].intercalate (l.mons.map (Mon.full port)) ≠ [] ∧
      ∀ c ∈ [','].intercalate (l.mons.map (Mon.full port)), tokenChar c = true := by
  have hfull := fun m hm => (h.mons m hm).full_chars hnet hport
  constructor
  · exact intercalate_ne_nil _ (hfull l.first.mon List.mem_cons_self).1
  · intro c hc
    rcases mem_intercalate hc with rfl | ⟨text, htext, hc⟩
    · decide
    · obtain ⟨m, hm, rfl⟩ := List.mem_map.mp htext
      exact tokenChar_of_addrChar ((hfull m hm).2 c hc)

/-- The text of the options is a token. -/
theorem MapArgs.Given.opts_token (h : args.Given net l) (hnul : args.NoNul) :
    [','].intercalate args.opts ≠ [] ∧ ∀ c ∈ [','].intercalate args.opts, tokenChar c = true := by
  constructor
  · rw [h.opts_eq]
    exact intercalate_ne_nil _ (by simp)
  · intro c hc
    rcases mem_intercalate hc with rfl | ⟨o, ho, hc⟩
    · decide
    · exact (h.opts_chars hnul ho c hc).1

/-- What stands behind the name of the image. -/
def MapArgs.snapPart (args : MapArgs) : List Char := args.snap.elim [] fun snap => ' ' :: snap

/-- The snapshot is read as it is written. -/
theorem MapArgs.Given.nextToken_snap (h : args.Given net l) (hnul : args.NoNul) :
    (nextToken args.snapPart).1 = args.snap.getD [] ∧ ∀ c ∈ args.snapPart.head?, c = ' ' := by
  cases hsnap : args.snap with
  | none => rw [MapArgs.snapPart, hsnap]; exact ⟨rfl, by simp⟩
  | some snap =>
      have hword := (h.snap snap hsnap).1
      have htoken := hword.token (hnul snap (by simp [hsnap]))
      have hread := (nextToken_token [] hword.ne htoken (by simp)).2
      rw [List.append_nil] at hread
      have hpart : args.snapPart = ' ' :: snap := by rw [MapArgs.snapPart, hsnap]; rfl
      rw [hpart, hread]
      exact ⟨rfl, by simp⟩

/-- The line that is written. -/
theorem MapArgs.Given.buildSpec_eq (hnet : Pton net) (h : args.Given net l) :
    args.buildSpec = .ok ([','].intercalate (l.mons.map (Mon.full (monDefaultPort args.msMode))) ++
      ' ' :: ([','].intercalate args.opts ++ ' ' :: (args.pool ++ ' ' :: (args.image ++
        args.snapPart)))) := by
  rw [MapArgs.buildSpec, h.monHost, normalizeMons_text hnet h.mons]
  show Except.ok _ = _
  congr 1
  cases hsnap : args.snap with
  | none => simp [MapArgs.snapPart, hsnap]
  | some snap =>
      obtain ⟨c, tail, rfl⟩ := List.exists_cons_of_ne_nil (h.snap snap hsnap).1.ne
      simp [MapArgs.snapPart, hsnap]

/-- The kernel reads what the driver means. -/
theorem MapArgs.Given.parse {host : Host Key} (hnet : Pton host.net) (h : args.Given host.net l)
    (hnul : args.NoNul) {key : Key} (hkey : host.unarmor args.secret = .ok key) :
    ∃ spec, args.buildSpec = .ok spec ∧ rbdAddParseArgs host spec = .ok (args.meant l key) := by
  refine ⟨_, h.buildSpec_eq hnet, ?_⟩
  have hport := isPort_default args.msMode
  obtain ⟨hmonsNe, hmons⟩ := h.mons_chars hnet hport
  obtain ⟨hoptsNe, hopts⟩ := h.opts_token hnul
  have hpool := h.pool.token (hnul args.pool (by simp))
  have himage := h.image.token (hnul args.image (by simp))
  obtain ⟨hsnap, hhead⟩ := h.nextToken_snap hnul
  have hsnapChars : ∀ c ∈ args.snapPart, c ≠ '\x00' := by
    intro c hc
    rw [MapArgs.snapPart] at hc
    cases hargs : args.snap with
    | none => simp [hargs] at hc
    | some snap =>
        rw [hargs] at hc
        rcases List.mem_cons.mp hc with rfl | hc
        · decide
        · rintro rfl
          exact hnul snap (by simp [hargs]) hc
  have hips := parseIps_full hnet hport h.mons (List.cons_ne_nil _ _) h.count
  generalize [','].intercalate (l.mons.map (Mon.full (monDefaultPort args.msMode))) = mons at *
  have hoptions := h.parse_opts hnul hkey
    { monAddr := l.mons.map (Mon.addr (decimal (monDefaultPort args.msMode)))
      numMon := l.mons.length }
  generalize [','].intercalate args.opts = opts at *
  -- no NUL ends the text before its end
  have hnoNul : ∀ text : List Char, (∀ c ∈ text, tokenChar c = true) → ∀ c ∈ text, c ≠ '\x00' := by
    intro text htext c hc heq
    rw [heq] at hc
    exact absurd (htext _ hc) (by decide)
  have htake : (mons ++ ' ' :: (opts ++ ' ' :: (args.pool ++ ' ' :: (args.image ++
      args.snapPart)))).takeWhile (fun c => c != '\x00') =
        mons ++ ' ' :: (opts ++ ' ' :: (args.pool ++ ' ' :: (args.image ++ args.snapPart))) := by
    refine List.takeWhile_eq_self_iff.mpr fun c hc => bne_iff_ne.mpr ?_
    simp only [List.mem_append, List.mem_cons] at hc
    rcases hc with hc | rfl | hc | rfl | hc | rfl | hc | hc
    · exact hnoNul _ hmons c hc
    · decide
    · exact hnoNul _ hopts c hc
    · decide
    · exact hnoNul _ hpool c hc
    · decide
    · exact hnoNul _ himage c hc
    · exact hsnapChars c hc
  have hfirst := (nextToken_token (' ' :: (opts ++ ' ' :: (args.pool ++ ' ' :: (args.image ++
    args.snapPart)))) hmonsNe hmons (by simp)).1
  have hsecond := (nextToken_token (' ' :: (args.pool ++ ' ' :: (args.image ++ args.snapPart)))
    hoptsNe hopts (by simp)).2
  have hthird := (nextToken_token (' ' :: (args.image ++ args.snapPart)) h.pool.ne hpool
    (by simp)).2
  have hfourth := (nextToken_token args.snapPart h.image.ne himage hhead).2
  have hshort : ¬rbdMaxSnapNameLen < byteLength (nextToken args.snapPart).1 := by
    rw [hsnap]
    cases hargs : args.snap with
    | none => decide
    | some snap =>
        have hle := (h.snap snap hargs).2.2
        show ¬rbdMaxSnapNameLen < byteLength snap
        omega
  have hname : (if (nextToken args.snapPart).1 = [] then ['-'] else (nextToken args.snapPart).1) =
      args.snap.getD ['-'] := by
    rw [hsnap]
    cases hargs : args.snap with
    | none => rfl
    | some snap => exact if_neg (h.snap snap hargs).1.ne
  have hport' : decimal (monDefaultPort args.msMode) =
      if args.msMode = "legacy" then 6789 else 3300 := by
    have hall : ∀ mode ∈ ["legacy", "crc", "secure", "prefer-crc", "prefer-secure"],
        decimal (monDefaultPort mode) = if mode = "legacy" then 6789 else 3300 := by
      decide +kernel
    exact hall _ h.msMode
  rw [rbdAddParseArgs]
  simp only [htake, hfirst, hsecond, hthird, hfourth, if_neg hmonsNe, if_neg hoptsNe,
    if_neg h.pool.ne, if_neg h.image.ne, if_neg hshort, hname]
  rw [hport'] at hips hoptions
  simp only [hips, bind, Except.bind, hoptions, pure, Except.pure]
  rfl

/-- An attribute that shows a value is read back. -/
theorem Word.shownAttr {text : List Char} (h : Word text) :
    shownAttr text = String.ofList text := by
  have hstrip : strip ([] ++ text ++ ['\n']) = text :=
    strip_pad (by simp) h.blank h.ne (by simp [isBlank, blanks])
  rw [Krbd.shownAttr]
  exact congrArg String.ofList hstrip

/-- The attributes of the device are those of the volume. -/
theorem MapArgs.Given.info_attrs (h : args.Given net l) (id : Nat) (key : Key) :
    ((args.meant l key).attrs id).info = args.vol.info := by
  have hsnap : (if some (Krbd.shownAttr (args.snap.getD ['-'])) = some "-" then none
      else some (Krbd.shownAttr (args.snap.getD ['-']))) = args.snap.map String.ofList := by
    cases hargs : args.snap with
    | none => decide
    | some snap =>
        obtain ⟨hword, hne, -⟩ := h.snap snap hargs
        have hhead : String.ofList snap ≠ "-" := by
          intro heq
          have hlist := congrArg String.toList heq
          rw [String.toList_ofList] at hlist
          exact hne hlist
        rw [Option.getD_some, hword.shownAttr, if_neg (by simpa using hhead)]
        rfl
  have hns : (if some (Krbd.shownAttr (args.ns.getD [])) = some "" then none
      else some (Krbd.shownAttr (args.ns.getD []))) =
        if args.ns.map String.ofList = some "" then none else args.ns.map String.ofList := by
    cases hargs : args.ns with
    | none => decide
    | some ns =>
        rw [Option.getD_some, (h.ns ns hargs).1.shownAttr]
        rfl
  show Info.mk (some (Krbd.shownAttr args.pool)) (some (Krbd.shownAttr args.image))
    (if some (Krbd.shownAttr (args.snap.getD ['-'])) = some "-" then none
      else some (Krbd.shownAttr (args.snap.getD ['-'])))
    (if some (Krbd.shownAttr (args.ns.getD [])) = some "" then none
      else some (Krbd.shownAttr (args.ns.getD []))) = _
  rw [hsnap, hns, h.pool.shownAttr, h.image.shownAttr]
  rfl

/-- A device with the attributes of a volume shows the volume. -/
theorem shows_of_info {a : Nat → Attrs} {vol : Vol} (h : ∀ id, (a id).info = vol.info) :
    Shows a vol := by
  intro id before after hother
  constructor
  · have hbefore : before.find? (fun d => decide (d.info = vol.info)) = none := by
      rw [List.find?_eq_none]
      intro d hd
      simpa using hother d (List.mem_append_left _ hd)
    rw [findDevice, findEntry, List.find?_append, hbefore, List.find?_cons_of_pos (by simp [h id])]
    rfl
  · intro other hne
    have hskip : (a id :: after).find? (fun d => decide (d.info = other.info)) =
        after.find? fun d => decide (d.info = other.info) := by
      refine List.find?_cons_of_neg ?_
      rw [decide_eq_true_eq, h id]
      exact fun heq => hne heq.symm
    rw [findDevice, findDevice, findEntry, findEntry, List.find?_append, List.find?_append, hskip]

/-- The kernel reads from the line exactly what the driver means, and the device that is made is
found for the volume and for no other one. -/
theorem map_round_trip {host : Host Key} (hnet : Pton host.net) (h : args.Given host.net l)
    (hnul : args.NoNul) : args.RoundTrip host l := by
  intro key hkey
  obtain ⟨spec, hspec, hparse⟩ := h.parse hnet hnul hkey
  exact ⟨spec, _, hspec, hparse, rfl, shows_of_info fun id => h.info_attrs id key⟩

end Given

/-- A literal that is read where a stop or the end of the text follows it. -/
def known {α : Type} (literal : List Char) (addr : α) (text : List Char) (stop : Char → Bool) :
    Option (α × List Char) :=
  if literal <+: text ∧ (text.drop literal.length).head?.all stop then
    some (addr, text.drop literal.length)
  else none

theorem known_iff {α : Type} {literal text rest : List Char} {addr addr' : α} {stop : Char → Bool} :
    known literal addr text stop = some (addr', rest) ↔
      addr' = addr ∧ text = literal ++ rest ∧ rest.head?.all stop = true := by
  unfold known
  constructor
  · intro h
    split at h
    · rename_i hcond
      obtain ⟨⟨tail, rfl⟩, hstop⟩ := hcond
      rw [List.drop_left] at h hstop
      cases h
      exact ⟨rfl, rfl, hstop⟩
    · cases h
  · rintro ⟨rfl, rfl, hstop⟩
    rw [if_pos ⟨List.prefix_append _ _, by rwa [List.drop_left]⟩, List.drop_left]

/-- A host that knows one address of either kind, where a key is the bytes that a secret spells. -/
def oneHost : Host Bitmap.Bytes :=
  { net :=
      { in4Pton := fun text delim =>
          known "10.0.0.1".toList 0x0a000001 text fun c => c == ':' || some c == delim
        in6Pton := fun text delim =>
          known "fd00::1".toList 0xfd000000000000000000000000000001 text fun c => some c == delim }
    unarmor := fun secret => .ok (Base64.decodeList secret)
    requestKey := fun _ => .error .perm }

theorem oneHost_in4Pton (text : List Char) (delim : Option Char) :
    oneHost.net.in4Pton text delim =
      known "10.0.0.1".toList 0x0a000001 text fun c => c == ':' || some c == delim := rfl

theorem oneHost_in6Pton (text : List Char) (delim : Option Char) :
    oneHost.net.in6Pton text delim =
      known "fd00::1".toList 0xfd000000000000000000000000000001 text fun c => some c == delim := rfl

theorem oneHost_pton : Pton oneHost.net := by
  refine ⟨?_, ?_, ?_, ?_⟩
  · intro text addr h
    obtain ⟨-, rfl, -⟩ := known_iff.mp h
    exact ⟨by simp, by simp⟩
  · intro text addr h
    obtain ⟨-, rfl, -⟩ := known_iff.mp h
    exact ⟨by decide, by simp⟩
  · intro text addr rest h hrest
    obtain ⟨rfl, rfl, -⟩ := known_iff.mp h
    rw [List.append_nil]
    refine known_iff.mpr ⟨rfl, rfl, ?_⟩
    cases rest with
    | nil => rfl
    | cons c rest => simpa using hrest c rfl
  · intro text addr rest h
    obtain ⟨rfl, rfl, -⟩ := known_iff.mp h
    rw [List.append_nil]
    rw [oneHost_in4Pton, oneHost_in6Pton]
    refine ⟨?_, known_iff.mpr ⟨rfl, rfl, by simp⟩⟩
    rw [known, if_neg]
    intro hprefix
    exact absurd hprefix.1 (by simp)

/-- An IPv4 address and an IPv6 address, the second one with a port. -/
def twoMons : MonList :=
  { first :=
      { mon := ⟨.v4 0x0a000001, "10.0.0.1".toList, false, none⟩
        after := [' ']
        blank := by simp [isBlank, blanks] }
    rest :=
      [(';',
        { mon := ⟨.v6 0xfd000000000000000000000000000001, "fd00::1".toList, true,
            some "3301".toList⟩
          before := [' ']
          blank := by simp [isBlank, blanks] })]
    separators := by simp }

/-- A map of an image in a namespace. -/
def mapOf (image : String) : MapArgs :=
  { monHost := twoMons.text
    user := "xcp".toList
    secret := "AQAAAAAAAAAAABAAAAECAwQFBgcICQoLDA0ODw==".toList
    pool := "rbd".toList
    image := image.toList
    snap := some "before-upgrade".toList
    msMode := "prefer-secure"
    readOnly := true
    ns := some "tenant".toList }

theorem mapOf_given {image : String} (h : Word image.toList) :
    (mapOf image).Given oneHost.net twoMons := by
  have hword : ∀ text ∈ ["xcp", "AQAAAAAAAAAAABAAAAECAwQFBgcICQoLDA0ODw==", "rbd",
      "before-upgrade", "tenant"], Word text.toList ∧ ',' ∉ text.toList := by
    intro text htext
    simp only [List.mem_cons, List.not_mem_nil, or_false] at htext
    rcases htext with rfl | rfl | rfl | rfl | rfl <;>
      exact ⟨⟨by simp, by simp [isBlank, blanks]⟩, by simp⟩
  refine ⟨rfl, ?_, by decide, hword _ (by simp), hword _ (by simp), ?_,
    (hword "rbd" (by simp)).1, h, ?_, by simp [mapOf], rfl⟩
  · intro m hm
    simp only [MonList.mons, twoMons, List.map_cons, List.map_nil, List.mem_cons, List.not_mem_nil,
      or_false] at hm
    rcases hm with rfl | rfl
    · have hliteral : oneHost.net.in4Pton "10.0.0.1".toList none = some (0x0a000001, []) := by
        decide +kernel
      exact ⟨hliteral, rfl, by simp⟩
    · have hliteral : oneHost.net.in6Pton "fd00::1".toList none =
          some (0xfd000000000000000000000000000001, []) := by
        decide +kernel
      refine ⟨hliteral, fun _ => rfl, fun digits hdigits => ?_⟩
      obtain rfl : "3301".toList = digits := Option.some.inj hdigits
      exact ⟨by simp, by decide, by decide⟩
  · intro ns hns
    obtain rfl : "tenant".toList = ns := Option.some.inj hns
    exact hword "tenant" (by simp)
  · intro snap hsnap
    obtain rfl : "before-upgrade".toList = snap := Option.some.inj hsnap
    exact ⟨(hword "before-upgrade" (by simp)).1, by simp, by decide⟩

/-- The snapshot of an image behind two monitors is mapped as it is meant. -/
theorem map_round_trip_mapOf : (mapOf "disk").RoundTrip oneHost twoMons :=
  map_round_trip oneHost_pton (mapOf_given ⟨by simp, by simp [isBlank, blanks]⟩) (by
    intro text htext
    simp only [mapOf, Option.toList_some, List.cons_append, List.nil_append, List.mem_cons,
      List.not_mem_nil, or_false] at htext
    rcases htext with rfl | rfl | rfl | rfl | rfl | rfl <;> simp)

/-- An image with a NUL in its name is given, and another image is mapped. -/
theorem nul_maps_other :
    (mapOf "disk\x00old").Given oneHost.net twoMons ∧
      ¬(mapOf "disk\x00old").RoundTrip oneHost twoMons := by
  refine ⟨mapOf_given ⟨by simp, by simp [isBlank, blanks]⟩, fun h => ?_⟩
  obtain ⟨spec, a, hspec, hparse, ha, -⟩ := h _ rfl
  have hread : ((mapOf "disk\x00old").buildSpec.toOption.bind fun spec =>
      ((rbdAddParseArgs oneHost spec).toOption.map AddArgs.imageName)) = some "disk".toList := by
    decide +kernel
  rw [hspec] at hread
  have himage : some a.imageName = some "disk".toList := by
    simpa [Except.toOption, hparse] using hread
  rw [ha] at himage
  exact absurd himage (by decide)

end XcpCephRbd.Krbd
