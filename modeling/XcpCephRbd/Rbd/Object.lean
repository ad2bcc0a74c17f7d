import XcpCephRbd.Lib.Run
import XcpCephRbd.Rbd.Overlap

/-!
# The object requests of one object

The state machines of `rbd.c` for the requests to one object of an image: `rbd_obj_advance_read`,
`rbd_obj_advance_write` and `rbd_obj_advance_copyup`, with the object map updates around a write.
One call of an advance function is one step, up to the OSD requests that it submits; a `goto again`
is a call of the next part. The OSDs (`OsdOp.run`, `Object.write`) and the parent image are the
environment: they answer the OSD requests of all object requests in any order, but those that change
one object in the order of their submission, and any of them may fail.
-/

namespace XcpCephRbd.Rbd

open Striper

/-- `-ENOENT`. -/
def enoent : Int := -2

/-- Another error. -/
abbrev Errno := { e : Int // e < 0 ∧ e ≠ enoent }

variable {α : Type} [Zero α]

/-! ## The objects of the OSDs -/

/-- A list of bytes by its length and its bytes. -/
def tabulate (n : Nat) (f : Nat → α) : List α := (List.range n).map f

/-- An operation of an OSD request on the object. -/
inductive OsdOp (α : Type) where
  | stat
  | setAllocHint
  | create
  | write (off : Nat) (data : List α)
  | writeFull (data : List α)
  | truncate (off : Nat)
  | zero (off len : Nat)
  | delete
  | copyup (data : List α)

/-- An operation on the content of the object. On an object that does not exist, `stat` and `delete`
fail, `truncate` and `zero` do nothing and the others create it; `copyup` leaves an object that
exists. -/
def OsdOp.run : OsdOp α → Option (List α) → Except Int (Option (List α))
  | .stat, none => .error enoent
  | .stat, some c => .ok (some c)
  | .setAllocHint, head => .ok (some (head.getD []))
  | .create, head => .ok (some (head.getD []))
  | .write off data, head =>
      let c := head.getD []
      .ok (some (tabulate (max c.length (off + data.length)) fun x =>
        if off ≤ x ∧ x < off + data.length then data.getD (x - off) 0 else c.getD x 0))
  | .writeFull data, _ => .ok (some data)
  | .truncate off, head => .ok (head.map fun c => tabulate off fun x => c.getD x 0)
  | .zero off len, head => .ok (head.map fun c => tabulate c.length fun x =>
      if off ≤ x ∧ x < off + len then 0 else c.getD x 0)
  | .delete, none => .error enoent
  | .delete, some _ => .ok none
  | .copyup data, head => .ok (some (head.getD data))

/-- The operations of one OSD request, all of them or none. -/
def runOps : List (OsdOp α) → Option (List α) → Except Int (Option (List α))
  | [], head => .ok head
  | op :: ops, head => op.run head >>= runOps ops

/-- An object: its content, the newest snapshot that it has been written after, and what it was at
the snapshots up to this one. -/
structure Object (α : Type) where
  head : Option (List α)
  seq : Nat
  clone : Nat → Option (List α)

/-- The content at a snapshot. -/
def Object.snap (o : Object α) (s : Nat) : Option (List α) :=
  if o.seq < s then o.head else o.clone s

/-- An OSD request that changes the object, with the newest snapshot of its snapshot context: the
content is kept for the snapshots that have been taken since the last one. -/
def Object.write (o : Object α) (seq : Nat) (ops : List (OsdOp α)) : Except Int (Object α) := do
  let head ← runOps ops o.head
  return {
    head := head
    seq := max o.seq seq
    clone := fun s => if o.seq < s ∧ s ≤ seq then o.head else o.clone s }

/-! ## The object map -/

/-- The state of an object in the object map. -/
inductive MapState where
  | objectNonexistent
  | objectExists
  | objectPending
  | objectExistsClean
  deriving DecidableEq, Repr

/-- `update_needed`. -/
def updateNeeded (state new : MapState) : Bool :=
  !(decide (state = new) ||
    decide (new = .objectPending ∧ state = .objectNonexistent) ||
    decide (new = .objectNonexistent ∧ state ≠ .objectPending))

/-- The update of a state, by the OSD and by `rbd_object_map_update_finish`. -/
def MapState.update (state new : MapState) (current : Option MapState) : MapState :=
  match current with
  | none => new
  | some cur =>
      if cur = state ∨ cur = .objectExists ∧ state = .objectExistsClean then new else state

/-! ## Object requests -/

/-- What a request reads of the image and of its mapping. -/
structure Image (α : Type) where
  layout : Layout
  objno : Nat
  overlap : Nat
  parent : Nat → α
  allocSize : Nat
  objectMap : Bool
  mapInvalid : Bool
  fastDiff : Bool

/-- `use_object_map`, of an image that is mapped for writing. -/
def Image.useObjectMap (img : Image α) : Bool := img.objectMap && !img.mapInvalid

/-- `enum obj_operation_type`, with the data of a write. -/
inductive OpType (α : Type) where
  | read
  | write (data : List α)
  | discard
  | zeroout

/-- An OSD request of an object request; `copyup` is the one with the empty snapshot context. -/
inductive Sent (α : Type) where
  | read (off len : Nat)
  | parentRead (exts : List FileExtent)
  | mapUpdate (snap : Option Nat) (new : MapState) (current : Option MapState)
  | copyup (data : List α)
  | write (seq : Nat) (ops : List (OsdOp α))

/-- An OSD request that a call has decided to send, with its reply and, once it is submitted, its
place in the order of submissions. -/
structure Flight (α : Type) where
  sent : Sent α
  ticket : Nat
  reply : Option (Int × List α)

/-- The states of the copyup in which it waits. -/
inductive CopyupState where
  | readParent
  | objectMaps
  | writeObject
  | modsOnly
  deriving DecidableEq, Repr

/-- The states in which an object request waits, or has completed. -/
inductive Control where
  | readObject
  | readParent
  | preObjectMap
  | writeObject
  | copyup (state : CopyupState)
  | postObjectMap
  | done (result : Int)
  deriving DecidableEq, Repr

/-- An object request. `since` is the number of changes of the object when it started, and
`submitted` says that what its last call has decided to send has been allocated and is on its
way. -/
structure Req (α : Type) where
  op : OpType α
  off : Nat
  len : Nat
  snaps : List Nat
  seq : Nat
  since : Nat
  control : Control
  deletion : Bool := false
  noopForNonexistent : Bool := false
  mayExist : Bool := false
  copyupEnabled : Bool := false
  copyupZeros : Bool := false
  imgExtents : List FileExtent := []
  copyupData : List α := []
  pendingResult : Int := 0
  numPending : Nat := 0
  data : List α := []
  flight : List (Flight α) := []
  submitted : Bool := true

namespace Req

variable (img : Image α) (r : Req α)

/-- `rbd_obj_is_entire`. -/
def isEntire : Bool := decide (r.off = 0 ∧ r.len = img.layout.objectSize)

/-- `rbd_obj_is_tail`. -/
def isTail : Bool := decide (r.off + r.len = img.layout.objectSize)

/-- `rbd_obj_calc_img_extents`. -/
def withExtents (entire : Bool) : Req α :=
  { r with imgExtents := calcImgExtents img.layout img.overlap ⟨img.objno, r.off, r.len⟩ entire }

/-- `rbd_obj_copyup_enabled`. -/
def copyupWanted : Bool := !(r.imgExtents.isEmpty || (r.isEntire img && r.snaps.isEmpty))

/-- `rbd_obj_init_write`. -/
def initWrite : Req α :=
  let r := r.withExtents img true
  { r with copyupEnabled := r.copyupWanted img }

/-- `rbd_obj_init_discard`; nothing is returned for a discard that frees no space. -/
def initDiscard : Option (Req α) :=
  let finish (r : Req α) : Req α :=
    let r := r.withExtents img true
    { r with noopForNonexistent := true, deletion := r.isEntire img && r.imgExtents.isEmpty }
  if img.allocSize ≠ img.layout.objectSize ∨ r.isTail img = false then
    let off := (r.off + img.allocSize - 1) / img.allocSize * img.allocSize
    let next := (r.off + r.len) / img.allocSize * img.allocSize
    if next ≤ off then none else some (finish { r with off := off, len := next - off })
  else some (finish r)

/-- `rbd_obj_init_zeroout`. -/
def initZeroout : Req α :=
  let r := r.withExtents img true
  { r with
    copyupEnabled := r.copyupWanted img
    noopForNonexistent := r.imgExtents.isEmpty
    deletion := r.imgExtents.isEmpty && r.isEntire img }

/-- `truncate_or_zero_opcode`, with its extent. -/
def truncateOrZero : OsdOp α := if r.isTail img then .truncate r.off else .zero r.off r.len

/-- `rbd_osd_setup_write_ops`. -/
def writeOps : List (OsdOp α) :=
  match r.op with
  | .read => []
  | .write data =>
      (if !img.useObjectMap || !r.mayExist then [.setAllocHint] else []) ++
        [if r.isEntire img then .writeFull data else .write r.off data]
  | .discard =>
      if r.isEntire img && r.imgExtents.isEmpty then [.delete] else [r.truncateOrZero img]
  | .zeroout =>
      if r.isEntire img then
        if r.imgExtents.isEmpty then [.delete]
        else (if r.copyupEnabled then [] else [.create]) ++ [.truncate r.off]
      else [r.truncateOrZero img]

/-- The request has completed. -/
def finish (result : Int) : Req α × List (Sent α) := ({ r with control := .done result }, [])

/-- Submit OSD requests and wait for them, unless they cannot be allocated. -/
def submit (fault : Option Errno) (control : Control) (sent : List (Sent α)) :
    Req α × List (Sent α) :=
  match fault with
  | some e => r.finish e
  | none => ({ r with control := control }, sent)

/-- `rbd_obj_advance_write` from `RBD_OBJ_WRITE_COPYUP` on. -/
def advanceWritten (mem : MapState) (alloc : Nat → Option Errno) (result : Int) :
    Req α × List (Sent α) :=
  if result ≠ 0 then r.finish result
  else if !img.objectMap || !r.deletion then r.finish 0
  else if updateNeeded mem .objectNonexistent then
    r.submit (alloc 0) .postObjectMap
      [.mapUpdate none .objectNonexistent (some .objectPending)]
  else r.finish 0

/-- `rbd_obj_copyup_write_object` and what follows it: data that is not zero goes to the snapshots
in a request of its own, before the modification. -/
def copyupWriteObject (alloc : Nat → Option Errno) : Req α × List (Sent α) :=
  let bytes := if r.copyupZeros then [] else r.copyupData
  if r.snaps ≠ [] ∧ bytes.length > 0 then
    match alloc 0, alloc 1 with
    | some e, _ => r.finish e
    | none, some e =>
        ({ r with pendingResult := e, numPending := 1, control := .copyup .writeObject },
          [.copyup bytes])
    | none, none =>
        ({ r with pendingResult := 0, numPending := 2, control := .copyup .writeObject },
          [.copyup bytes, .write r.seq (r.writeOps img)])
  else
    { r with pendingResult := 0, numPending := 1 }.submit (alloc 0) (.copyup .writeObject)
      [.write r.seq (.copyup bytes :: r.writeOps img)]

/-- The loop of `rbd_obj_copyup_object_maps`: the updates that it sends, and the error it stops
at. -/
def snapUpdates (fastDiff : Bool) (alloc : Nat → Option Errno) :
    Nat → List Nat → List (Sent α) × Int
  | _, [] => ([], 0)
  | i, s :: rest =>
      match alloc i with
      | some e => ([], e)
      | none =>
          let later := snapUpdates fastDiff alloc (i + 1) rest
          (.mapUpdate (some s) (if fastDiff && !rest.isEmpty then .objectExistsClean
            else .objectExists) none :: later.1, later.2)

/-- `rbd_obj_copyup_object_maps`. -/
def copyupObjectMaps (alloc : Nat → Option Errno) : List (Sent α) × Int :=
  if img.objectMap && !r.copyupZeros then snapUpdates img.fastDiff alloc 0 r.snaps else ([], 0)

/-- `rbd_obj_advance_copyup` from `RBD_OBJ_COPYUP_OBJECT_MAPS` on. -/
def copyupMapped (alloc : Nat → Option Errno) (result : Int) : Req α × List (Sent α) :=
  if result ≠ 0 then r.finish result else r.copyupWriteObject img alloc

/-- `rbd_obj_advance_copyup` from `RBD_OBJ_COPYUP_READ_PARENT` on. -/
def copyupRead [DecidableEq α] (alloc : Nat → Option Errno) (result : Int) (data : List α) :
    Req α × List (Sent α) :=
  if result ≠ 0 then r.finish result
  else
    let r := { r with copyupData := data, copyupZeros := data.all (decide <| · = 0) }
    let updates := r.copyupObjectMaps img alloc
    if updates.1.isEmpty then r.copyupMapped img alloc updates.2
    else ({ r with
      pendingResult := updates.2
      numPending := updates.1.length
      control := .copyup .objectMaps }, updates.1)

/-- `rbd_obj_advance_copyup` from `RBD_OBJ_COPYUP_START` on. -/
def copyupStart (alloc : Nat → Option Errno) : Req α × List (Sent α) :=
  let r := { r with imgExtents := pruneExtents r.imgExtents img.overlap }
  if r.imgExtents.isEmpty then
    r.submit (alloc 0) (.copyup .modsOnly) [.write r.seq (r.writeOps img)]
  else r.submit (alloc 0) (.copyup .readParent) [.parentRead r.imgExtents]

/-- `pending_result_dec`: the request after a reply, and the result when it was the last one. -/
def pendingResultDec (result : Int) : Req α × Option Int :=
  let pending := if result ≠ 0 ∧ r.pendingResult = 0 then result else r.pendingResult
  ({ r with pendingResult := pending, numPending := r.numPending - 1 },
    if r.numPending - 1 = 0 then some pending else none)

/-- `rbd_obj_advance_write` from `RBD_OBJ_WRITE_PRE_OBJECT_MAP` on. -/
def advanceMapped (alloc : Nat → Option Errno) (result : Int) : Req α × List (Sent α) :=
  if result ≠ 0 then r.finish result
  else r.submit (alloc 0) .writeObject
    [.write r.seq ((if r.copyupEnabled then [.stat] else []) ++ r.writeOps img)]

/-- `rbd_object_map_may_exist`. -/
def mapMayExist (mem : MapState) : Bool :=
  !img.useObjectMap || decide (mem ≠ .objectNonexistent)

/-- The state that `rbd_obj_write_pre_object_map` wants. -/
def preState : MapState := if r.deletion then .objectPending else .objectExists

/-- `rbd_obj_advance_write` from `RBD_OBJ_WRITE_START` on. -/
def writeStart (mem : MapState) (alloc : Nat → Option Errno) : Req α × List (Sent α) :=
  let r := { r with mayExist := mapMayExist img mem }
  if !r.mayExist && r.noopForNonexistent then r.finish 0
  else
    if img.objectMap && updateNeeded mem r.preState then
      r.submit (alloc 0) .preObjectMap [.mapUpdate none r.preState none]
    else r.advanceMapped img alloc 0

/-- `rbd_obj_advance_read` from `RBD_OBJ_READ_OBJECT` on. -/
def readObject (alloc : Nat → Option Errno) (result : Int) (data : List α) :
    Req α × List (Sent α) :=
  let exts := calcImgExtents img.layout img.overlap ⟨img.objno, r.off, r.len⟩ false
  if result = enoent ∧ !exts.isEmpty then
    { r with imgExtents := exts }.submit (alloc 0) .readParent [.parentRead exts]
  else if result = enoent then { r with data := List.replicate r.len 0 }.finish 0
  else if 0 ≤ result then
    { r with data := data ++ List.replicate (r.len - result.toNat) 0 }.finish 0
  else r.finish result

/-- `rbd_obj_advance_read` from `RBD_OBJ_READ_START` on. -/
def readStart (mem : MapState) (alloc : Nat → Option Errno) : Req α × List (Sent α) :=
  if mapMayExist img mem then r.submit (alloc 0) .readObject [.read r.off r.len]
  else r.readObject img alloc enoent []

/-- `__rbd_obj_handle_request` for a reply, in the state in which the request waits for it. -/
def advance [DecidableEq α] (mem : MapState) (alloc : Nat → Option Errno) (result : Int)
    (data : List α) : Req α × List (Sent α) :=
  match r.control with
  | .readObject => r.readObject img alloc result data
  | .readParent =>
      if result = 0 then
        { r with data := data ++ List.replicate (r.len - imgExtentsBytes r.imgExtents) 0 }.finish 0
      else r.finish result
  | .preObjectMap => r.advanceMapped img alloc result
  | .writeObject =>
      if result = enoent ∧ r.copyupEnabled then r.copyupStart img alloc
      else if result = enoent ∧ r.deletion then r.advanceWritten img mem alloc 0
      else r.advanceWritten img mem alloc result
  | .copyup .readParent => r.copyupRead img alloc result data
  | .copyup .objectMaps =>
      let next := r.pendingResultDec result
      match next.2 with
      | none => (next.1, [])
      | some result => next.1.copyupMapped img alloc result
  | .copyup .writeObject =>
      let next := r.pendingResultDec result
      match next.2 with
      | none => (next.1, [])
      | some result => next.1.advanceWritten img mem alloc result
  | .copyup .modsOnly => r.advanceWritten img mem alloc result
  | .postObjectMap => r.finish result
  | .done _ => (r, [])

end Req

/-! ## The requests together -/

/-- What a request has done to the object. -/
inductive Effect (α : Type) where
  | write (off : Nat) (data : List α)
  | zero (off len : Nat)
  | nothing

/-- The bytes of the object after an effect. -/
def Effect.apply : Effect α → (Nat → α) → Nat → α
  | .write off data, f => fun x =>
      if off ≤ x ∧ x < off + data.length then data.getD (x - off) 0 else f x
  | .zero off len, f => fun x => if off ≤ x ∧ x < off + len then 0 else f x
  | .nothing, f => f

/-- What the modification of a request does; a discard of an object that does not exist leaves what
is below it. -/
def Req.effect (r : Req α) (existed : Bool) : Effect α :=
  match r.op with
  | .read => .nothing
  | .write data => .write r.off data
  | .discard => if existed then .zero r.off r.len else .nothing
  | .zeroout => .zero r.off r.len

/-- The object, its state in the object map in memory and on the OSDs, the object requests so far
with what they have in flight, and what they have done to the object, in order. -/
structure Sys (α : Type) where
  object : Object α
  mem : MapState
  map : MapState
  reqs : List (Req α)
  ticket : Nat
  log : List (Nat × Effect α)

/-- The OSD requests that are executed in the order of their submission. -/
inductive Target where
  | object
  | map (snap : Option Nat)
  | unordered
  deriving DecidableEq, Repr

/-- What an OSD request is for. -/
def Sent.target : Sent α → Target
  | .read _ _ => .unordered
  | .parentRead _ => .unordered
  | .mapUpdate snap _ _ => .map snap
  | .copyup _ => .object
  | .write _ _ => .object

/-- The OSD requests of a call. -/
def stamp : Nat → List (Sent α) → List (Flight α)
  | _, [] => []
  | t, sent :: rest => ⟨sent, t, none⟩ :: stamp (t + 1) rest

/-- The OSD requests of a call when they are submitted. -/
def restamp : Nat → List (Flight α) → List (Flight α)
  | _, [] => []
  | t, f :: rest => { f with ticket := t } :: restamp (t + 1) rest

/-- A step of the system. Between a call of a state machine and the submission of what it sends lie
the allocations of `__rbd_obj_add_osd_request` and `ceph_osdc_alloc_messages`, which may sleep. -/
inductive Event (α : Type) where
  | start (op : OpType α) (off len : Nat) (snaps : List Nat) (seq : Nat)
      (alloc : Nat → Option Errno)
  | submit (i : Nat)
  | exec (i j : Nat) (fault : Option (Errno × Bool))
  | deliver (i j : Nat) (alloc : Nat → Option Errno)

/-- A request of an image request: its extent is in the object, its data has its length, and its
snapshots are older than its snapshot context. -/
def OpType.Valid (img : Image α) (op : OpType α) (off len : Nat) (snaps : List Nat) (seq : Nat) :
    Bool :=
  decide (0 < len ∧ off + len ≤ img.layout.objectSize ∧ (∀ s ∈ snaps, s ≤ seq)) &&
    match op with
    | .write data => decide (data.length = len)
    | _ => true

namespace Sys

/-- The request that an image request starts, ready to be advanced. -/
def initial (img : Image α) (s : Sys α) (op : OpType α) (off len : Nat) (snaps : List Nat)
    (seq : Nat) : Option (Req α) :=
  let r : Req α := {
    op := op
    off := off
    len := len
    snaps := snaps
    seq := seq
    since := s.log.length
    control := .preObjectMap }
  match op with
  | .read => some r
  | .write _ => some (r.initWrite img)
  | .discard => r.initDiscard img
  | .zeroout => some (r.initZeroout img)

/-- The start of a request, with the call of its state machine. -/
def begin (img : Image α) (s : Sys α) (r : Req α) (alloc : Nat → Option Errno) : Sys α :=
  let next := match r.op with
    | .read => r.readStart img s.mem alloc
    | _ => r.writeStart img s.mem alloc
  let noop : Bool := match r.op with
    | .read => false
    | _ => decide (next.1.control = .done 0)
  { s with
    reqs := s.reqs ++ [{ next.1 with
      flight := next.1.flight ++ stamp s.ticket next.2
      submitted := next.2.isEmpty }]
    ticket := s.ticket + next.2.length
    log := if noop then s.log ++ [(s.reqs.length, r.effect false)] else s.log }

/-- What the last call of a request has decided to send is submitted. -/
def post (s : Sys α) (i : Nat) (r : Req α) : Sys α :=
  { s with
    reqs := s.reqs.set i { r with flight := restamp s.ticket r.flight, submitted := true }
    ticket := s.ticket + r.flight.length }

/-- Nothing with the same target is in flight that was submitted earlier. -/
def first (s : Sys α) (f : Flight α) (waits : Flight α → Bool) : Bool :=
  s.reqs.all fun r => !r.submitted || r.flight.all fun other =>
    !waits other || decide (other.sent.target ≠ f.sent.target ∨ f.ticket ≤ other.ticket)

/-- The requests with the reply of an OSD request. -/
def replied (s : Sys α) (i j : Nat) (r : Req α) (f : Flight α) (result : Int) (data : List α) :
    List (Req α) :=
  s.reqs.set i { r with flight := r.flight.set j { f with reply := some (result, data) } }

/-- The result that is reported: the fault, if there is one. -/
def reported (fault : Option (Errno × Bool)) (result : Int) : Int :=
  match fault with
  | some (e, _) => e
  | none => result

/-- The OSD request fails without having been executed. -/
def skipped (fault : Option (Errno × Bool)) : Bool :=
  match fault with
  | some (_, executed) => !executed
  | none => false

/-- The execution of an OSD request; a request that fails may have been executed. -/
def execute (img : Image α) (s : Sys α) (i j : Nat) (r : Req α) (f : Flight α)
    (fault : Option (Errno × Bool)) : Sys α :=
  if skipped fault then { s with reqs := s.replied i j r f (reported fault 0) [] }
  else
    match f.sent with
    | .read off len =>
        match s.object.head with
        | none => { s with reqs := s.replied i j r f (reported fault enoent) [] }
        | some c =>
            let data := (c.drop off).take len
            { s with reqs := s.replied i j r f (reported fault data.length) data }
    | .parentRead exts =>
        { s with reqs := s.replied i j r f (reported fault 0) (parentData img.parent exts) }
    | .mapUpdate snap new current =>
        { s with
          map := if snap = none then s.map.update new current else s.map
          reqs := s.replied i j r f (reported fault 0) [] }
    | .copyup data =>
        match s.object.write 0 [.copyup data] with
        | .error e => { s with reqs := s.replied i j r f (reported fault e) [] }
        | .ok o => { s with object := o, reqs := s.replied i j r f (reported fault 0) [] }
    | .write seq ops =>
        match s.object.write seq ops with
        | .error e =>
            { s with
              reqs := s.replied i j r f (reported fault e) []
              log := if e = enoent ∧ r.deletion then
                s.log ++ [(i, r.effect true)] else s.log }
        | .ok o =>
            { s with
              object := o
              reqs := s.replied i j r f (reported fault 0) []
              log := s.log ++ [(i, r.effect s.object.head.isSome)] }

/-- `rbd_osd_req_callback`, `rbd_object_map_callback` and the end of a read of the parent. -/
def callback [DecidableEq α] (img : Image α) (s : Sys α) (i j : Nat) (r : Req α) (f : Flight α)
    (result : Int) (data : List α) (alloc : Nat → Option Errno) : Sys α :=
  let mem := match f.sent with
    | .mapUpdate none new current => if result = 0 then s.mem.update new current else s.mem
    | _ => s.mem
  let next := Req.advance img { r with flight := r.flight.eraseIdx j } mem alloc result data
  { s with
    mem := mem
    reqs := s.reqs.set i { next.1 with
      flight := next.1.flight ++ stamp s.ticket next.2
      submitted := next.2.isEmpty }
    ticket := s.ticket + next.2.length }

/-- One step: a request is started, the OSD requests of a call are submitted, one of them is
executed, or a reply is handled. Replies of the object map are handled in the order of their
requests. -/
def step [DecidableEq α] (img : Image α) (s : Sys α) : Event α → Option (Sys α)
  | .start op off len snaps seq alloc =>
      if OpType.Valid img op off len snaps seq then
        (s.initial img op off len snaps seq).map fun r => s.begin img r alloc
      else none
  | .submit i => do
      let r ← s.reqs[i]?
      if r.submitted then none else some (s.post i r)
  | .exec i j fault => do
      let r ← s.reqs[i]?
      let f ← r.flight[j]?
      if r.submitted ∧ f.reply.isNone ∧
        (f.sent.target = .unordered ∨ s.first f (·.reply.isNone)) then
        some (s.execute img i j r f fault)
      else none
  | .deliver i j alloc => do
      let r ← s.reqs[i]?
      let f ← r.flight[j]?
      let reply ← f.reply
      if f.sent.target = .map none → s.first f (fun _ => true) then
        some (s.callback img i j r f reply.1 reply.2 alloc)
      else none

end Sys

end XcpCephRbd.Rbd
