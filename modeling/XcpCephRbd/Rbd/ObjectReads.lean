import XcpCephRbd.Rbd.ObjectWrites

/-!
# What a call keeps of a request, and what a read has seen

No call of a state machine changes what a request is (`Kept`). `Req.ReadOk` says, for each state of
a read, which OSD request it has in flight, and that what it has got so far was in the object at one
moment since its start; every part of `rbd_obj_advance_read` leads from such a state to one
(`readOk_advance`).
-/

namespace XcpCephRbd.Rbd

open Striper

variable {α : Type}

/-! ## What a call keeps of a request -/

/-- What no call changes in a request. -/
structure Kept [Zero α] (img : Image α) (r r' : Req α) : Prop where
  op : r'.op = r.op
  off : r'.off = r.off
  len : r'.len = r.len
  seq : r'.seq = r.seq
  since : r'.since = r.since
  deletion : r'.deletion = r.deletion
  wf : r.Wf img → r'.Wf img

section Kept

variable [Zero α] {img : Image α} {r r' r'' : Req α}

theorem Kept.trans (h : Kept img r r') (h' : Kept img r' r'') : Kept img r r'' :=
  ⟨h'.op.trans h.op, h'.off.trans h.off, h'.len.trans h.len, h'.seq.trans h.seq,
    h'.since.trans h.since, h'.deletion.trans h.deletion, fun hwf => h'.wf (h.wf hwf)⟩

/-- The fields that the calls write, when the image extents stay or belong to a read. -/
theorem kept_of (control : Control) (mayExist copyupZeros : Bool) (exts : List FileExtent)
    (copyupData : List α) (pendingResult : Int) (numPending : Nat) (data : List α)
    (flight : List (Flight α)) (submitted : Bool)
    (hexts : r.Wf img → r.op ≠ .read → exts = img.extents) :
    Kept img r { r with
      control := control
      mayExist := mayExist
      copyupZeros := copyupZeros
      imgExtents := exts
      copyupData := copyupData
      pendingResult := pendingResult
      numPending := numPending
      data := data
      flight := flight
      submitted := submitted } :=
  ⟨rfl, rfl, rfl, rfl, rfl, rfl, fun h => ⟨h.pos, h.inside, h.data, h.snaps_le, hexts h, h.deletion,
    h.copyup, h.noop⟩⟩

/-- The fields that the calls write, when the image extents stay. -/
theorem kept_same (control : Control) (mayExist copyupZeros : Bool) (copyupData : List α)
    (pendingResult : Int) (numPending : Nat) (data : List α) (flight : List (Flight α))
    (submitted : Bool) :
    Kept img r { r with
      control := control
      mayExist := mayExist
      copyupZeros := copyupZeros
      copyupData := copyupData
      pendingResult := pendingResult
      numPending := numPending
      data := data
      flight := flight
      submitted := submitted } :=
  kept_of _ _ _ _ _ _ _ _ _ _ fun h hop => h.extents hop

theorem kept_submit (fault : Option Errno) (control : Control) (sents : List (Sent α)) :
    Kept img r (r.submit fault control sents).1 := by
  cases fault with
  | none => exact kept_same _ _ _ _ _ _ _ _ _
  | some e => exact kept_same _ _ _ _ _ _ _ _ _

theorem kept_finish (result : Int) : Kept img r (r.finish result).1 :=
  kept_same _ _ _ _ _ _ _ _ _

theorem kept_flight (flight : List (Flight α)) (submitted : Bool) :
    Kept img r { r with flight := flight, submitted := submitted } :=
  kept_same _ _ _ _ _ _ _ _ _

theorem kept_written (mem : MapState) (alloc : Nat → Option Errno) (result : Int) :
    Kept img r (r.advanceWritten img mem alloc result).1 := by
  rw [Req.advanceWritten]
  split
  · exact kept_finish _
  · split
    · exact kept_finish _
    · split
      · exact kept_submit _ _ _
      · exact kept_finish _

theorem kept_copyupWriteObject (alloc : Nat → Option Errno) :
    Kept img r (r.copyupWriteObject img alloc).1 := by
  rw [Req.copyupWriteObject]
  generalize (if r.copyupZeros then [] else r.copyupData) = bytes
  split
  · cases alloc 0 with
    | some e => exact kept_finish _
    | none =>
        cases alloc 1 with
        | some e => exact kept_same _ _ _ _ _ _ _ _ _
        | none => exact kept_same _ _ _ _ _ _ _ _ _
  · exact (kept_same _ _ _ _ _ _ _ _ _).trans (kept_submit _ _ _)

theorem kept_copyupMapped (alloc : Nat → Option Errno) (result : Int) :
    Kept img r (r.copyupMapped img alloc result).1 := by
  rw [Req.copyupMapped]
  split
  · exact kept_finish _
  · exact kept_copyupWriteObject _

theorem kept_copyupRead [DecidableEq α] (alloc : Nat → Option Errno) (result : Int)
    (data : List α) : Kept img r (r.copyupRead img alloc result data).1 := by
  rw [Req.copyupRead]
  split
  · exact kept_finish _
  · dsimp only
    split
    · exact (kept_same _ _ _ _ _ _ _ _ _).trans
        (kept_copyupMapped _ _)
    · exact kept_same _ _ _ _ _ _ _ _ _

theorem kept_copyupStart (hop : r.op ≠ .read) (alloc : Nat → Option Errno) :
    Kept img r (r.copyupStart img alloc).1 := by
  have hprune : Kept img r { r with imgExtents := pruneExtents r.imgExtents img.overlap } :=
    kept_of _ _ _ _ _ _ _ _ _ _ fun h _ => by rw [h.extents hop, img.prune_extents]
  rw [Req.copyupStart]
  dsimp only
  split
  · exact hprune.trans (kept_submit _ _ _)
  · exact hprune.trans (kept_submit _ _ _)

theorem kept_mapped (alloc : Nat → Option Errno) (result : Int) :
    Kept img r (r.advanceMapped img alloc result).1 := by
  rw [Req.advanceMapped]
  split
  · exact kept_finish _
  · exact kept_submit _ _ _

theorem kept_writeStart (mem : MapState) (alloc : Nat → Option Errno) :
    Kept img r (r.writeStart img mem alloc).1 := by
  have hexist : Kept img r { r with mayExist := Req.mapMayExist img mem } :=
    kept_same _ _ _ _ _ _ _ _ _
  rw [Req.writeStart]
  dsimp only
  split
  · exact hexist.trans (kept_finish _)
  · split
    · exact hexist.trans (kept_submit _ _ _)
    · exact hexist.trans (kept_mapped _ _)

theorem kept_readObject (hop : r.op = .read) (alloc : Nat → Option Errno) (result : Int)
    (data : List α) : Kept img r (r.readObject img alloc result data).1 := by
  rw [Req.readObject]
  split
  · exact Kept.trans (kept_of _ _ _ _ _ _ _ _ _ _ fun _ hne => absurd hop hne) (kept_submit _ _ _)
  · split
    · exact (kept_same _ _ _ _ _ _ _ _ _).trans (kept_finish _)
    · split
      · exact (kept_same _ _ _ _ _ _ _ _ _).trans (kept_finish _)
      · exact kept_finish _

theorem kept_readStart (hop : r.op = .read) (mem : MapState) (alloc : Nat → Option Errno) :
    Kept img r (r.readStart img mem alloc).1 := by
  rw [Req.readStart]
  split
  · exact kept_submit _ _ _
  · exact kept_readObject hop _ _ _

/-- A call for a reply. -/
theorem kept_advance [DecidableEq α] (mem : MapState) (alloc : Nat → Option Errno) (result : Int)
    (data : List α) (hread : r.control = .readObject → r.op = .read)
    (hwrite : r.control = .writeObject → r.op ≠ .read) :
    Kept img r (Req.advance img r mem alloc result data).1 := by
  rw [Req.advance]
  split
  · exact kept_readObject (hread (by assumption)) _ _ _
  · split
    · exact (kept_same _ _ _ _ _ _ _ _ _).trans (kept_finish _)
    · exact kept_finish _
  · exact kept_mapped _ _
  · split
    · exact kept_copyupStart (hwrite (by assumption)) _
    · split
      · exact kept_written _ _ _
      · exact kept_written _ _ _
  · exact kept_copyupRead _ _ _
  · rw [pendingResultDec_eq]
    dsimp only
    split
    · exact kept_same _ _ _ _ _ _ _ _ _
    · exact (kept_same _ _ _ _ _ _ _ _ _).trans
        (kept_copyupMapped _ _)
  · rw [pendingResultDec_eq]
    dsimp only
    split
    · exact kept_same _ _ _ _ _ _ _ _ _
    · exact (kept_same _ _ _ _ _ _ _ _ _).trans (kept_written _ _ _)
  · exact kept_written _ _ _
  · exact kept_finish _
  · exact kept_same _ _ _ _ _ _ _ _ _

end Kept

/-! ## The bytes of the object over time -/

/-- The bytes after some effects. -/
def content [Zero α] (init : Nat → α) (log : List (Nat × Effect α)) : Nat → α :=
  log.foldl (fun f e => e.2.apply f) init

section Content

variable [Zero α] {init : Nat → α} {log : List (Nat × Effect α)}

theorem content_append (e : Nat × Effect α) :
    content init (log ++ [e]) = e.2.apply (content init log) := by
  rw [content, List.foldl_append]
  rfl

/-- An effect makes of a byte what it makes of the same byte elsewhere. -/
theorem apply_congr (e : Effect α) {f g : Nat → α} {x : Nat} (h : f x = g x) :
    e.apply f x = e.apply g x := by
  cases e with
  | nothing => exact h
  | write off data =>
      show (if _ then _ else f x) = if _ then _ else g x
      rw [h]
  | zero off len =>
      show (if _ then _ else f x) = if _ then _ else g x
      rw [h]

/-- A property of the bytes at one moment since the start of the request. -/
def Seen (init : Nat → α) (log : List (Nat × Effect α)) (since : Nat) (p : (Nat → α) → Prop) :
    Prop :=
  ∃ n, since ≤ n ∧ n ≤ log.length ∧ p (content init (log.take n))

/-- What has been seen stays so. -/
theorem Seen.append {since : Nat} {p : (Nat → α) → Prop} (h : Seen init log since p)
    (more : List (Nat × Effect α)) : Seen init (log ++ more) since p := by
  obtain ⟨n, hsince, hle, hp⟩ := h
  refine ⟨n, hsince, by rw [List.length_append]; omega, ?_⟩
  rwa [List.take_append_of_le_length hle]

/-- What is the case now. -/
theorem seen_now {since : Nat} {p : (Nat → α) → Prop} (hsince : since ≤ log.length)
    (h : p (content init log)) : Seen init log since p :=
  ⟨log.length, hsince, Nat.le_refl _, by rwa [List.take_length]⟩

end Content

/-! ## Reads -/

/-- The data that a read returns is what the object has in its extent. -/
def Req.Reads [Zero α] (r : Req α) (data : List α) (f : Nat → α) : Prop :=
  ∀ i < r.len, data.getD i 0 = f (r.off + i)

/-- What a read has in flight in each of its states, and what it has seen. -/
def Req.ReadOk [Zero α] (img : Image α) (init : Nat → α) (log : List (Nat × Effect α)) (r : Req α) :
    Prop :=
  match r.control with
  | .readObject =>
      ∃ t rep, r.flight = [⟨.read r.off r.len, t, rep⟩] ∧ ∀ res d, rep = some (res, d) →
        (res = enoent → Seen init log r.since (r.Reads ((List.range r.len).map fun i =>
          img.below (r.off + i)))) ∧
        (0 ≤ res → res = d.length ∧ d.length ≤ r.len ∧ Seen init log r.since (r.Reads d))
  | .readParent => ∃ t rep, r.flight = [⟨.parentRead r.imgExtents, t, rep⟩] ∧
      r.imgExtents = calcImgExtents img.layout img.overlap ⟨img.objno, r.off, r.len⟩ false ∧
      Seen init log r.since (r.Reads ((List.range r.len).map fun i => img.below (r.off + i))) ∧
      ∀ d, rep = some (0, d) → d = parentData img.parent r.imgExtents
  | .done res => r.flight = [] ∧ (res = 0 → r.data.length = r.len ∧
      Seen init log r.since (r.Reads r.data))
  | _ => False

section Read

variable [Zero α] {img : Image α} {init : Nat → α} {log : List (Nat × Effect α)} {r : Req α}

theorem getD_tabulated (n : Nat) (f : Nat → α) {i : Nat} (h : i < n) :
    ((List.range n).map f).getD i 0 = f i := by
  have hget := getD_tabulate n f i
  rwa [if_pos h] at hget

/-- Data with zeros after it has the same bytes. -/
theorem reads_zeroFill {data : List α} {n : Nat} {f : Nat → α} (h : r.Reads data f) :
    r.Reads (data ++ List.replicate n 0) f := by
  intro i hi
  rw [← h i hi, List.getD_eq_getElem?_getD, List.getD_eq_getElem?_getD]
  by_cases hlt : i < data.length
  · rw [List.getElem?_append_left hlt]
  · rw [List.getElem?_append_right (by omega), List.getElem?_eq_none (l := data) (by omega),
      List.getElem?_replicate]
    split
    · rfl
    · rfl

/-- What a read sees does not change when more has been done. -/
theorem Req.ReadOk.append (h : r.ReadOk img init log) (more : List (Nat × Effect α)) :
    r.ReadOk img init (log ++ more) := by
  obtain ⟨control, hctl⟩ : ∃ control, r.control = control := ⟨_, rfl⟩
  rw [Req.ReadOk, hctl] at h ⊢
  cases control with
  | readObject =>
      obtain ⟨t, rep, hflight, hrep⟩ := h
      refine ⟨t, rep, hflight,
        fun res d hd => ⟨fun hnone => ((hrep res d hd).1 hnone).append more, ?_⟩⟩
      intro hle
      obtain ⟨hlen, hshort, hseen⟩ := (hrep res d hd).2 hle
      exact ⟨hlen, hshort, hseen.append more⟩
  | readParent =>
      obtain ⟨t, rep, hflight, hext, hseen, hrep⟩ := h
      exact ⟨t, rep, hflight, hext, hseen.append more, hrep⟩
  | done res => exact ⟨h.1, fun hzero => ⟨(h.2 hzero).1, (h.2 hzero).2.append more⟩⟩
  | _ => exact h

/-- A read that completes with an error. -/
theorem readOk_error (t : Nat) (hflight : r.flight = []) {result : Int} (h : result ≠ 0) :
    (launched t (r.finish result)).ReadOk img init log :=
  ⟨by simp [launched, Req.finish, stamp, hflight], fun hzero => absurd hzero h⟩

/-- From `RBD_OBJ_READ_OBJECT` on. -/
theorem readOk_object (t : Nat) (hflight : r.flight = []) (alloc : Nat → Option Errno)
    {result : Int} {data : List α}
    (hnone : result = enoent → Seen init log r.since (r.Reads ((List.range r.len).map fun i =>
      img.below (r.off + i))))
    (hdata : 0 ≤ result → result = data.length ∧ data.length ≤ r.len ∧
      Seen init log r.since (r.Reads data)) :
    (launched t (r.readObject img alloc result data)).ReadOk img init log := by
  rw [Req.readObject]
  generalize hext : calcImgExtents img.layout img.overlap ⟨img.objno, r.off, r.len⟩ false = exts
  by_cases habsent : result = enoent
  · by_cases hempty : exts.isEmpty = true
    · -- nothing is below the object in the extent
      rw [if_neg (by simp [hempty]), if_pos habsent]
      refine ⟨by simp [launched, Req.finish, stamp, hflight],
        fun _ => ⟨by simp [launched, Req.finish], ?_⟩⟩
      obtain ⟨n, hsince, hle, hreads⟩ := hnone habsent
      refine ⟨n, hsince, hle, ?_⟩
      intro i hi
      show (List.replicate r.len (0 : α)).getD i 0 = content init (log.take n) (r.off + i)
      have hi' : i < r.len := hi
      have hcalc := (img.calc_getD r.off r.len).2 i hi'
      rw [hext, List.isEmpty_iff.mp hempty] at hcalc
      rw [← hreads i hi', getD_tabulated _ _ hi', ← hcalc]
      show (List.replicate r.len (0 : α)).getD i 0 = 0
      rw [List.getD_eq_getElem?_getD, List.getElem?_replicate]
      split
      · rfl
      · rfl
    · rw [if_pos (by simp [habsent, hempty])]
      cases halloc : alloc 0 with
      | some e =>
          exact readOk_error (r := { r with imgExtents := exts }) t hflight (errno_ne_zero e)
      | none =>
          exact ⟨t, none, by simp [launched, Req.submit, hflight, stamp], hext.symm,
            hnone habsent, fun d hd => by cases hd⟩
  · rw [if_neg (fun hboth => habsent hboth.1), if_neg habsent]
    by_cases hle : 0 ≤ result
    · rw [if_pos hle]
      obtain ⟨hres, hshort, n, hsince, hlen, hreads⟩ := hdata hle
      refine ⟨by simp [launched, Req.finish, stamp, hflight], fun _ => ⟨?_, n, hsince, hlen,
        reads_zeroFill hreads⟩⟩
      simp only [launched, Req.finish, List.length_append, List.length_replicate]
      omega
    · rw [if_neg hle]
      exact readOk_error t hflight (by omega)

/-- From `RBD_OBJ_READ_START` on. -/
theorem readOk_start (t : Nat) (hflight : r.flight = []) (mem : MapState)
    (alloc : Nat → Option Errno)
    (hnone : Req.mapMayExist img mem = false → Seen init log r.since (r.Reads
      ((List.range r.len).map fun i => img.below (r.off + i)))) :
    (launched t (r.readStart img mem alloc)).ReadOk img init log := by
  rw [Req.readStart]
  split
  · cases halloc : alloc 0 with
    | some e => exact readOk_error t hflight (errno_ne_zero e)
    | none =>
        exact ⟨t, none, by simp [launched, Req.submit, hflight, stamp], fun res d hd => by cases hd⟩
  · rename_i hmay
    exact readOk_object t hflight alloc (fun _ => hnone (by simpa using hmay))
      fun hle => absurd hle (by decide)

/-- One reply of a read. -/
theorem readOk_advance [DecidableEq α] (t : Nat) {j : Nat} {f : Flight α} {result : Int}
    {data : List α} (mem : MapState) (alloc : Nat → Option Errno) (h : r.ReadOk img init log)
    (hj : r.flight[j]? = some f) (hreply : f.reply = some (result, data)) :
    (launched t (Req.advance img { r with flight := r.flight.eraseIdx j } mem alloc result
      data)).ReadOk img init log := by
  obtain ⟨control, hctl⟩ : ∃ control, r.control = control := ⟨_, rfl⟩
  simp only [Req.ReadOk, hctl] at h
  cases control with
  | readObject =>
      obtain ⟨t₀, rep, hflight, hrep⟩ := h
      obtain ⟨rfl, hnil⟩ := eraseIdx_of_single hflight hj
      simp only [Req.advance, hctl, hnil]
      exact readOk_object (r := { r with flight := [] }) t rfl alloc (hrep result data hreply).1
        (hrep result data hreply).2
  | readParent =>
      obtain ⟨t₀, rep, hflight, hext, hseen, hrep⟩ := h
      obtain ⟨rfl, hnil⟩ := eraseIdx_of_single hflight hj
      obtain rfl : rep = some (result, data) := hreply
      simp only [Req.advance, hctl, hnil]
      by_cases hzero : result = 0
      · rw [if_pos hzero]
        have hdata := hrep data (by rw [hzero])
        obtain ⟨hshort, hbytes⟩ := img.calc_getD r.off r.len
        rw [← hext, ← hdata] at hshort hbytes
        obtain ⟨n, hsince, hle, hreads⟩ := hseen
        have hlen : data.length = imgExtentsBytes r.imgExtents := by
          rw [hdata, length_parentData]
        refine ⟨rfl, fun _ => ⟨?_, n, hsince, hle, reads_zeroFill ?_⟩⟩
        · simp only [launched, Req.finish, List.length_append, List.length_replicate]
          omega
        · intro i hi
          show data.getD i 0 = content init (log.take n) (r.off + i)
          have hi' : i < r.len := hi
          rw [← hreads i hi', getD_tabulated _ _ hi']
          exact hbytes i hi'
      · rw [if_neg hzero]
        exact readOk_error (r := { r with flight := [] }) t rfl hzero
  | done res =>
      rw [h.1] at hj
      cases hj
  | _ => exact h.elim

/-- The states of a read. -/
theorem Req.ReadOk.control_ne (h : r.ReadOk img init log) : r.control ≠ .writeObject := by
  intro hctl
  simp only [Req.ReadOk, hctl] at h

/-- What a read has in flight. -/
theorem Req.ReadOk.sent_cases (h : r.ReadOk img init log) {j : Nat} {f : Flight α}
    (hj : r.flight[j]? = some f) :
    f.sent = .read r.off r.len ∨ f.sent = .parentRead r.imgExtents := by
  obtain ⟨control, hctl⟩ : ∃ control, r.control = control := ⟨_, rfl⟩
  simp only [Req.ReadOk, hctl] at h
  cases control with
  | readObject =>
      obtain ⟨t, rep, hflight, -⟩ := h
      exact .inl (by rw [(eraseIdx_of_single hflight hj).1])
  | readParent =>
      obtain ⟨t, rep, hflight, -⟩ := h
      exact .inr (by rw [(eraseIdx_of_single hflight hj).1])
  | done res =>
      rw [h.1] at hj
      cases hj
  | _ => exact h.elim

/-- The execution of an OSD request of a read. -/
theorem Req.ReadOk.exec (h : r.ReadOk img init log) {j : Nat} {f : Flight α} {res : Int}
    {data : List α} (hj : r.flight[j]? = some f)
    (hread : f.sent = .read r.off r.len →
      (res = enoent → Seen init log r.since (r.Reads ((List.range r.len).map fun i =>
        img.below (r.off + i)))) ∧
      (0 ≤ res → res = data.length ∧ data.length ≤ r.len ∧ Seen init log r.since (r.Reads data)))
    (hparent : ∀ exts, f.sent = .parentRead exts → res = 0 → data = parentData img.parent exts) :
    ({ r with flight := r.flight.set j { f with reply := some (res, data) } } : Req α).ReadOk img
      init log := by
  obtain ⟨control, hctl⟩ : ∃ control, r.control = control := ⟨_, rfl⟩
  simp only [Req.ReadOk, hctl] at h ⊢
  cases control with
  | readObject =>
      obtain ⟨t, rep, hflight, -⟩ := h
      obtain ⟨rfl, hset⟩ := set_of_single hflight hj (some (res, data))
      refine ⟨t, some (res, data), hset, fun res' d hd => ?_⟩
      cases hd
      exact hread rfl
  | readParent =>
      obtain ⟨t, rep, hflight, hext, hseen, -⟩ := h
      obtain ⟨rfl, hset⟩ := set_of_single hflight hj (some (res, data))
      refine ⟨t, some (res, data), hset, hext, hseen, fun d hd => ?_⟩
      cases hd
      exact hparent _ rfl rfl
  | done res' =>
      rw [h.1] at hj
      cases hj
  | _ => exact h.elim

/-- The submission changes the places in the order only. -/
theorem Req.ReadOk.restamp (h : r.ReadOk img init log) (t : Nat) (submitted : Bool) :
    ({ r with flight := Rbd.restamp t r.flight, submitted := submitted } : Req α).ReadOk img init
      log := by
  obtain ⟨control, hctl⟩ : ∃ control, r.control = control := ⟨_, rfl⟩
  simp only [Req.ReadOk, hctl] at h ⊢
  cases control with
  | readObject =>
      obtain ⟨t', rep, hflight, hread⟩ := h
      exact ⟨t, rep, by rw [hflight]; rfl, hread⟩
  | readParent =>
      obtain ⟨t', rep, hflight, hext, hseen, hdata⟩ := h
      exact ⟨t, rep, by rw [hflight]; rfl, hext, hseen, hdata⟩
  | done res => exact ⟨by rw [h.1]; rfl, h.2⟩
  | _ => exact h.elim

end Read

end XcpCephRbd.Rbd
