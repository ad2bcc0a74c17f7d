import XcpCephRbd.Krbd.Mons

/-!
# The options of a map

The parameter tables of libceph and rbd, `__fs_parse` of `compat_fs_parser.c` that looks a parameter
up in them and converts its value, and `ceph_parse_param`, `rbd_parse_param` and
`rbd_parse_options`, which set the options one after another. Timeouts are in milliseconds.
-/

namespace XcpCephRbd.Krbd

/-- What the value of a parameter is converted to. -/
inductive Kind where
  | flag
  | string
  | u32
  | enum (table : List (String × Nat))
  deriving DecidableEq, Repr

/-- An `fs_parameter_spec`. -/
structure ParamSpec (τ : Type) where
  name : String
  kind : Kind
  opt : τ
  negWithNo : Bool := false
  deriving DecidableEq

/-- An `fs_parameter`: a flag has no value. -/
structure Param where
  key : List Char
  value : Option (List Char)

/-- What a parse gives: the parameter, whether it is negated and the converted number. -/
structure Parsed (τ : Type) where
  opt : τ
  negated : Bool
  uint32 : Nat
  deriving DecidableEq

/-- `kstrtouint` with a base of 0: a sign `+`, a number whose prefix gives its base, and at most a
line feed behind it. -/
def kstrtouint (text : List Char) : Except Errno Nat :=
  let text := if text.head? = some '+' then text.drop 1 else text
  let (base, digits) : Nat × List Char :=
    match text with
    | '0' :: x :: d :: rest =>
        if (x = 'x' ∨ x = 'X') ∧ d.isAlphanum ∧ (d.isDigit ∨ d.toLower ≤ 'f') then
          (16, d :: rest)
        else (8, text)
    | '0' :: _ => (8, text)
    | _ => (10, text)
  let value (c : Char) : Nat :=
    if c.isDigit then c.toNat - 48 else if c.isAlpha then c.toLower.toNat - 87 else base
  let number := digits.takeWhile fun c => decide (value c < base)
  let rest := digits.drop number.length
  let n := number.foldl (fun n c => base * n + value c) 0
  if 2 ^ 64 ≤ n then .error .range
  else if number = [] then .error .inval
  else if rest ≠ [] ∧ rest ≠ ['\n'] then .error .inval
  else if 2 ^ 32 ≤ n then .error .range
  else .ok n

variable {τ : Type}

/-- `is_flag`. -/
def ParamSpec.isFlag (p : ParamSpec τ) : Bool := p.kind = .flag

/-- `fs_lookup_key`: the row of the key and whether the key is negated. -/
def fsLookupKey (desc : List (ParamSpec τ)) (param : Param) : Option (ParamSpec τ × Bool) :=
  let named := desc.filter fun p => p.name.toList = param.key
  match named.find? fun p => p.isFlag == param.value.isNone with
  | some p => some (p, false)
  | none =>
      let negated :=
        match param.value, param.key with
        | none, 'n' :: 'o' :: name@(_ :: _) =>
            desc.find? fun p => decide (p.name.toList = name) && p.negWithNo
        | _, _ => none
      match negated with
      | some p => some (p, true)
      | none => named.getLast?.map fun p => (p, false)

/-- The conversion of a value: `fs_param_is_string`, `fs_param_is_u32` and `fs_param_is_enum`. -/
def Kind.convert (kind : Kind) (value : Option (List Char)) : Except Errno Nat :=
  match kind, value with
  | .flag, none => .ok 0
  | .string, some (_ :: _) => .ok 0
  | .u32, some text =>
      match kstrtouint text with
      | .ok n => .ok n
      | .error _ => .error .inval
  | .enum table, some text =>
      match table.find? fun row => row.1.toList = text with
      | some row => .ok row.2
      | none => .error .inval
  | _, _ => .error .inval

/-- `__fs_parse`. -/
def fsParse (desc : List (ParamSpec τ)) (param : Param) : Except Errno (Parsed τ) :=
  match fsLookupKey desc param with
  | none => .error .noparam
  | some (p, negated) => do
      let n ← p.kind.convert param.value
      pure { opt := p.opt, negated, uint32 := n }

/-- The parameters of libceph. -/
inductive CephOpt where
  | osdkeepalivetimeout | mountTimeout | osdIdleTtl | osdRequestTimeout
  | fsid | name | secret | key | ip | crushLocation | readFromReplica | msMode
  | share | crc | cephxRequireSignatures | cephxSignMessages | tcpNodelay | abortOnFull | rxbounce
  deriving DecidableEq, Repr

/-- `ceph_param_read_from_replica`. -/
def cephParamReadFromReplica : List (String × Nat) := [("no", 0), ("balance", 1), ("localize", 2)]

/-- `ceph_param_ms_mode`. -/
def cephParamMsMode : List (String × Nat) :=
  [("legacy", 0), ("crc", 1), ("secure", 2), ("prefer-crc", 3), ("prefer-secure", 4)]

/-- `ceph_parameters`. -/
def cephParameters : List (ParamSpec CephOpt) :=
  [{ name := "abort_on_full", kind := .flag, opt := .abortOnFull },
   { name := "cephx_require_signatures", kind := .flag, opt := .cephxRequireSignatures,
     negWithNo := true },
   { name := "cephx_sign_messages", kind := .flag, opt := .cephxSignMessages, negWithNo := true },
   { name := "crc", kind := .flag, opt := .crc, negWithNo := true },
   { name := "crush_location", kind := .string, opt := .crushLocation },
   { name := "fsid", kind := .string, opt := .fsid },
   { name := "ip", kind := .string, opt := .ip },
   { name := "key", kind := .string, opt := .key },
   { name := "mount_timeout", kind := .u32, opt := .mountTimeout },
   { name := "name", kind := .string, opt := .name },
   { name := "osd_idle_ttl", kind := .u32, opt := .osdIdleTtl },
   { name := "osd_request_timeout", kind := .u32, opt := .osdRequestTimeout },
   { name := "osdkeepalive", kind := .u32, opt := .osdkeepalivetimeout },
   { name := "read_from_replica", kind := .enum cephParamReadFromReplica, opt := .readFromReplica },
   { name := "rxbounce", kind := .flag, opt := .rxbounce },
   { name := "ms_mode", kind := .enum cephParamMsMode, opt := .msMode },
   { name := "secret", kind := .string, opt := .secret },
   { name := "share", kind := .flag, opt := .share, negWithNo := true },
   { name := "tcp_nodelay", kind := .flag, opt := .tcpNodelay, negWithNo := true }]

/-- `CEPH_CON_MODE_*`. -/
inductive ConMode where
  | unknown | crc | secure
  deriving DecidableEq, Repr

/-- `read_from_replica`. -/
inductive ReadFromReplica where
  | primary | balance | localize
  deriving DecidableEq, Repr

/-- A `ceph_options`, with the flags of `CEPH_OPT_*`; `Key` is the type of keys. -/
structure CephOptions (Key : Type) where
  monAddr : List EntityAddr := []
  numMon : Nat := 0
  name : Option (List Char) := none
  key : Option Key := none
  myAddr : Option EntityAddr := none
  fsid : Option (List Nat) := none
  crushLocs : List (List Char × List Char) := []
  readFromReplica : ReadFromReplica := .primary
  conModes : ConMode × ConMode := (.unknown, .unknown)
  mountTimeout : Nat := 60000
  osdIdleTtl : Nat := 60000
  osdKeepaliveTimeout : Nat := 5000
  osdRequestTimeout : Nat := 0
  noshare : Bool := false
  nocrc : Bool := false
  tcpNodelay : Bool := true
  nomsgsign : Bool := false
  abortOnFull : Bool := false
  rxbounce : Bool := false
  deriving DecidableEq, Repr

/-- The parameters of rbd. -/
inductive RbdOpt where
  | queueDepth | allocSize | lockTimeout | poolNs | compressionHint
  | readOnly | readWrite | lockOnRead | exclusive | notrim
  deriving DecidableEq, Repr

/-- `rbd_param_compression_hint`. -/
def rbdParamCompressionHint : List (String × Nat) :=
  [("none", 0), ("compressible", 1), ("incompressible", 2)]

/-- `rbd_parameters`. -/
def rbdParameters : List (ParamSpec RbdOpt) :=
  [{ name := "alloc_size", kind := .u32, opt := .allocSize },
   { name := "compression_hint", kind := .enum rbdParamCompressionHint, opt := .compressionHint },
   { name := "exclusive", kind := .flag, opt := .exclusive },
   { name := "lock_on_read", kind := .flag, opt := .lockOnRead },
   { name := "lock_timeout", kind := .u32, opt := .lockTimeout },
   { name := "notrim", kind := .flag, opt := .notrim },
   { name := "_pool_ns", kind := .string, opt := .poolNs },
   { name := "queue_depth", kind := .u32, opt := .queueDepth },
   { name := "read_only", kind := .flag, opt := .readOnly },
   { name := "read_write", kind := .flag, opt := .readWrite },
   { name := "ro", kind := .flag, opt := .readOnly },
   { name := "rw", kind := .flag, opt := .readWrite }]

/-- `alloc_hint_flags`. -/
inductive CompressionHint where
  | none | compressible | incompressible
  deriving DecidableEq, Repr

/-- An `rbd_options`; the queue depth of a device that sets none is the block layer's. -/
structure RbdOptions where
  queueDepth : Option Nat := none
  allocSize : Nat := 65536
  lockTimeout : Nat := 0
  readOnly : Bool := false
  lockOnRead : Bool := false
  exclusive : Bool := false
  trim : Bool := true
  compressionHint : CompressionHint := .none
  deriving DecidableEq, Repr

/-- What the options refer to: the network, the key that a secret spells and the key that the key
store has under a name. -/
structure Host (Key : Type) where
  net : Net
  unarmor : List Char → Except Errno Key
  requestKey : List Char → Except Errno Key

/-- An `rbd_parse_opts_ctx`; of the spec the options set the namespace. -/
structure Ctx (Key : Type) where
  copts : CephOptions Key := {}
  opts : RbdOptions := {}
  poolNs : Option (List Char) := none
  deriving DecidableEq, Repr

variable {Key : Type}

/-- `ispunct` in the C locale. -/
def isPunct (c : Char) : Bool := '!' ≤ c && c ≤ '~' && !c.isAlphanum

/-- The value of a hexadecimal digit. -/
def hexValue (c : Char) : Option Nat :=
  if c.isDigit then some (c.toNat - 48)
  else if 'a' ≤ c.toLower ∧ c.toLower ≤ 'f' then some (c.toLower.toNat - 87)
  else none

/-- `ceph_parse_fsid`: the bytes that are found, at most so many more. -/
def fsidBytes : Nat → List Char → List Nat
  | 0, _ => []
  | _, [] => []
  | n + 1, c :: rest =>
      if isPunct c then fsidBytes (n + 1) rest
      else
        match rest with
        | d :: rest =>
            match hexValue c, hexValue d with
            | some high, some low => (16 * high + low) :: fsidBytes n rest
            | _, _ => []
        | [] => []
  termination_by _ text => text.length

/-- `ceph_parse_fsid`. -/
def cephParseFsid (text : List Char) : Except Errno (List Nat) :=
  let bytes := fsidBytes 16 text
  if bytes.length = 16 then .ok bytes else .error .inval

/-- `ceph_parse_crush_location` on the pairs between the bars. -/
def crushLocations (locs : List (List Char × List Char)) :
    List (List Char) → Except Errno (List (List Char × List Char))
  | [] => .ok locs
  | pair :: pairs =>
      if ':' ∈ pair then
        let (typeName, name) := Split.cut ':' pair
        if typeName = [] ∨ name = [] then .error .inval
        else if (typeName, name) ∈ locs then .error .exist
        else crushLocations (locs ++ [(typeName, name)]) pairs
      else .error .inval

/-- A timeout in seconds, which is out of range where its milliseconds are. -/
def timeout (least seconds : Nat) : Except Errno Nat :=
  if seconds < least ∨ (2 ^ 31 - 1) / 1000 < seconds then .error .inval else .ok (seconds * 1000)

/-- The pair of modes of a row of `ceph_param_ms_mode`. -/
def conModes : Nat → ConMode × ConMode
  | 1 => (.crc, .unknown)
  | 2 => (.secure, .unknown)
  | 3 => (.crc, .secure)
  | 4 => (.secure, .crc)
  | _ => (.unknown, .unknown)

/-- `ceph_parse_param`. -/
def cephParseParam (host : Host Key) (param : Param) (opt : CephOptions Key) :
    Except Errno (CephOptions Key) := do
  let result ← fsParse cephParameters param
  let text := param.value.getD []
  match result.opt with
  | .ip => do
      let (addrs, _) ← cephParseIps host.net ',' 1 text
      pure { opt with myAddr := addrs.head? }
  | .fsid => do
      let fsid ← cephParseFsid text
      pure { opt with fsid := some fsid }
  | .name => pure { opt with name := some text }
  | .secret => do
      let key ← host.unarmor text
      pure { opt with key := some key }
  | .key => do
      let key ← host.requestKey text
      pure { opt with key := some key }
  | .crushLocation => do
      let locs ← crushLocations [] (text.splitOn '|')
      pure { opt with crushLocs := locs }
  | .readFromReplica =>
      pure { opt with readFromReplica :=
        match result.uint32 with
        | 1 => .balance
        | 2 => .localize
        | _ => .primary }
  | .msMode => pure { opt with conModes := conModes result.uint32 }
  | .osdkeepalivetimeout => do
      let ms ← timeout 1 result.uint32
      pure { opt with osdKeepaliveTimeout := ms }
  | .osdIdleTtl => do
      let ms ← timeout 1 result.uint32
      pure { opt with osdIdleTtl := ms }
  | .mountTimeout => do
      let ms ← timeout 0 result.uint32
      pure { opt with mountTimeout := ms }
  | .osdRequestTimeout => do
      let ms ← timeout 0 result.uint32
      pure { opt with osdRequestTimeout := ms }
  | .share => pure { opt with noshare := result.negated }
  | .crc => pure { opt with nocrc := result.negated }
  -- the parameter is only warned about
  | .cephxRequireSignatures => pure opt
  | .cephxSignMessages => pure { opt with nomsgsign := result.negated }
  | .tcpNodelay => pure { opt with tcpNodelay := !result.negated }
  | .abortOnFull => pure { opt with abortOnFull := true }
  | .rxbounce => pure { opt with rxbounce := true }

/-- `rbd_parse_param`: what libceph does not know is a parameter of rbd. -/
def rbdParseParam (host : Host Key) (param : Param) (ctx : Ctx Key) : Except Errno (Ctx Key) :=
  match cephParseParam host param ctx.copts with
  | .ok copts => .ok { ctx with copts }
  | .error .noparam =>
      match fsParse rbdParameters param with
      | .error .noparam => .error .inval
      | .error e => .error e
      | .ok result =>
          let n := result.uint32
          match result.opt with
          | .queueDepth =>
              if n < 1 then .error .inval
              else .ok { ctx with opts := { ctx.opts with queueDepth := some n } }
          | .allocSize =>
              if n < 512 then .error .inval
              else if 2 ^ n.log2 = n then .ok { ctx with opts := { ctx.opts with allocSize := n } }
              else .error .inval
          | .lockTimeout =>
              match timeout 0 n with
              | .ok ms => .ok { ctx with opts := { ctx.opts with lockTimeout := ms } }
              | .error e => .error e
          | .poolNs => .ok { ctx with poolNs := param.value }
          | .compressionHint =>
              let hint : CompressionHint :=
                match n with
                | 1 => .compressible
                | 2 => .incompressible
                | _ => .none
              .ok { ctx with opts := { ctx.opts with compressionHint := hint } }
          | .readOnly => .ok { ctx with opts := { ctx.opts with readOnly := true } }
          | .readWrite => .ok { ctx with opts := { ctx.opts with readOnly := false } }
          | .lockOnRead => .ok { ctx with opts := { ctx.opts with lockOnRead := true } }
          | .exclusive => .ok { ctx with opts := { ctx.opts with exclusive := true } }
          | .notrim => .ok { ctx with opts := { ctx.opts with trim := false } }
  | .error e => .error e

/-- One option of the list, as `rbd_parse_options` cuts it at its first `=`. -/
def rbdParseOption (host : Host Key) (option : List Char) (ctx : Ctx Key) :
    Except Errno (Ctx Key) :=
  if option = [] ∨ option.head? = some '=' then .ok ctx
  else if '=' ∈ option then
    let (key, value) := Split.cut '=' option
    rbdParseParam host { key, value := some value } ctx
  else rbdParseParam host { key := option, value := none } ctx

/-- `rbd_parse_options`. -/
def rbdParseOptions (host : Host Key) (options : List Char) (ctx : Ctx Key) :
    Except Errno (Ctx Key) :=
  (options.splitOn ',').foldlM (fun ctx option => rbdParseOption host option ctx) ctx

section Options

variable {host : Host Key} {ctx : Ctx Key}

/-- An option with a value is cut at its first `=`. -/
theorem rbdParseOption_value {key : List Char} (value : List Char) (hkey : '=' ∉ key)
    (hne : key ≠ []) :
    rbdParseOption host (key ++ '=' :: value) ctx =
      rbdParseParam host { key, value := some value } ctx := by
  obtain ⟨c, tail, rfl⟩ := List.exists_cons_of_ne_nil hne
  have hc : c ≠ '=' := fun h => hkey (h ▸ List.mem_cons_self)
  have hfirst : ¬((c :: tail) ++ '=' :: value = [] ∨
      ((c :: tail) ++ '=' :: value).head? = some '=') := by simp [hc]
  rw [rbdParseOption, if_neg hfirst, if_pos (by simp), Split.cut_append value hkey]

/-- The row of a parameter with a value depends on the key alone. -/
theorem fsLookupKey_value (desc : List (ParamSpec τ)) (key value : List Char) :
    fsLookupKey desc ⟨key, some value⟩ = fsLookupKey desc ⟨key, some []⟩ := rfl

/-- `name` sets the user. -/
theorem rbdParseOption_name {user : List Char} (hne : user ≠ []) :
    rbdParseOption host ("name=".toList ++ user) ctx =
      .ok { ctx with copts := { ctx.copts with name := some user } } := by
  obtain ⟨c, tail, rfl⟩ := List.exists_cons_of_ne_nil hne
  have hrow : fsLookupKey cephParameters ⟨"name".toList, some []⟩ =
      some (⟨"name", .string, .name, false⟩, false) := rfl
  have hcut : "name=".toList ++ c :: tail = "name".toList ++ '=' :: (c :: tail) := by simp
  rw [hcut, rbdParseOption_value _ (by simp) (by simp), rbdParseParam, cephParseParam, fsParse,
    fsLookupKey_value, hrow]
  rfl

/-- `secret` sets the key that it spells. -/
theorem rbdParseOption_secret {secret : List Char} {key : Key} (hne : secret ≠ [])
    (hkey : host.unarmor secret = .ok key) :
    rbdParseOption host ("secret=".toList ++ secret) ctx =
      .ok { ctx with copts := { ctx.copts with key := some key } } := by
  obtain ⟨c, tail, rfl⟩ := List.exists_cons_of_ne_nil hne
  have hrow : fsLookupKey cephParameters ⟨"secret".toList, some []⟩ =
      some (⟨"secret", .string, .secret, false⟩, false) := rfl
  have hcut : "secret=".toList ++ c :: tail = "secret".toList ++ '=' :: (c :: tail) := by simp
  rw [hcut, rbdParseOption_value _ (by simp) (by simp), rbdParseParam, cephParseParam, fsParse,
    fsLookupKey_value, hrow]
  simp only [bind, Except.bind, Kind.convert, pure, Except.pure, Option.getD_some, hkey]

/-- `_pool_ns` is not libceph's and sets the namespace. -/
theorem rbdParseOption_poolNs {ns : List Char} (hne : ns ≠ []) :
    rbdParseOption host ("_pool_ns=".toList ++ ns) ctx = .ok { ctx with poolNs := some ns } := by
  obtain ⟨c, tail, rfl⟩ := List.exists_cons_of_ne_nil hne
  have hnone : fsLookupKey cephParameters ⟨"_pool_ns".toList, some []⟩ = none := rfl
  have hrow : fsLookupKey rbdParameters ⟨"_pool_ns".toList, some []⟩ =
      some (⟨"_pool_ns", .string, .poolNs, false⟩, false) := rfl
  have hcut : "_pool_ns=".toList ++ c :: tail = "_pool_ns".toList ++ '=' :: (c :: tail) := by simp
  rw [hcut, rbdParseOption_value _ (by simp) (by simp), rbdParseParam, cephParseParam, fsParse,
    fsParse, fsLookupKey_value, hnone, fsLookupKey_value, hrow]
  rfl

/-- `ro` is not libceph's and makes the map read-only. -/
theorem rbdParseOption_ro :
    rbdParseOption host "ro".toList ctx =
      .ok { ctx with opts := { ctx.opts with readOnly := true } } := by
  have hnone : fsLookupKey cephParameters ⟨"ro".toList, none⟩ = none := rfl
  have hrow : fsLookupKey rbdParameters ⟨"ro".toList, none⟩ =
      some (⟨"ro", .flag, .readOnly, false⟩, false) := rfl
  rw [rbdParseOption, if_neg (by simp), if_neg (by simp), rbdParseParam, cephParseParam, fsParse,
    fsParse, hnone, hrow]
  rfl

/-- `ms_mode` sets the modes of its row. -/
theorem rbdParseOption_msMode {mode : String} {n : Nat} (hmode : (mode, n) ∈ cephParamMsMode) :
    rbdParseOption host ("ms_mode=".toList ++ mode.toList) ctx =
      .ok { ctx with copts := { ctx.copts with conModes := conModes n } } := by
  have hrow : fsLookupKey cephParameters ⟨"ms_mode".toList, some []⟩ =
      some (⟨"ms_mode", .enum cephParamMsMode, .msMode, false⟩, false) := rfl
  have hfind : ∀ row ∈ cephParamMsMode,
      (Kind.enum cephParamMsMode).convert (some row.1.toList) = .ok row.2 := by
    decide
  have hcut : "ms_mode=".toList ++ mode.toList = "ms_mode".toList ++ '=' :: mode.toList := by simp
  rw [hcut, rbdParseOption_value _ (by simp) (by simp), rbdParseParam, cephParseParam, fsParse,
    fsLookupKey_value, hrow]
  simp only [hfind (mode, n) hmode, bind, Except.bind, pure, Except.pure]

end Options

end XcpCephRbd.Krbd
