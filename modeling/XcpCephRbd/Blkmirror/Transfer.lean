import XcpCephRbd.Lib.Safe
import XcpCephRbd.Blkmirror.World

/-!
# What `copy_delta` reports

`copy_delta` call by call, on devices of which each `pread` and `pwrite` may transfer less than it
was asked. The loop goes on by what was read and does not look at what `pwrite` returns, and a
failed `fsync` is passed over, so the count that it returns is the number of bytes that it read. It
is the number of bytes copied where every `pwrite` writes all it is given and `fsync` does not fail,
and where the extents do not overlap only there (`copyDelta_reports`).
-/

namespace XcpCephRbd.Blkmirror.Transfer

open Prog (Safe Setting)

/-- The calls of `copy_delta`: the diff of the backend, the map of the snapshot, and what is done
with the two devices. -/
inductive Call where
  | imageDiff
  | mapImage
  | openSrc
  | openDst
  | pread (n pos : Nat)
  | pwrite (buf : List UInt8) (pos : Nat)
  | closeSrc
  | fsync
  | closeDst
  | unmapImage
  deriving DecidableEq, Repr

/-- What a call returns. -/
def Result : Call → Type
  | .imageDiff => List Diff
  | .pread _ _ => List UInt8
  | .pwrite _ _ => Nat
  | _ => Unit

/-- The exceptions, told apart by `except OSError`. -/
inductive Exc where
  | osError (message : String)
  | other (message : String)
  deriving DecidableEq, Repr

/-- A program that makes such calls. -/
abbrev Op := Prog Exc Call Result

/-- Make one call. -/
abbrev perform (c : Call) : Op (Result c) := Prog.perform c

/-- The `while` loop over one extent, from `pos` on. -/
def copyRange (pos stop total : Nat) : Op Nat :=
  if pos < stop then
    (perform (.pread (min copyChunk (stop - pos)) pos)).bind fun buf : List UInt8 =>
      if buf = [] then .ret total
      else
        (perform (.pwrite buf pos)).bind fun _ =>
          copyRange (pos + buf.length) stop (total + buf.length)
  else .ret total
termination_by stop - pos
decreasing_by
  have hpos := List.length_pos_of_ne_nil ‹_›
  omega

/-- The `for` loop over the extents. -/
def copyExtents : List (Nat × Nat) → Nat → Op Nat
  | [], total => return total
  | (off, length) :: rest, total => do
      let total ← copyRange off (off + length) total
      copyExtents rest total

/-- `try: … except OSError: pass`. -/
def exceptOs (p : Op Unit) : Op Unit :=
  tryCatch p fun
    | .osError _ => pure ()
    | error => throw error

/-- The `finally` block: the source is closed, the destination flushed and closed, and the snapshot
unmapped. -/
def release : Op Unit := do
  perform .closeSrc
  exceptOs (perform .fsync)
  perform .closeDst
  tryCatch (perform .unmapImage) fun _ => pure ()

/-- `try: … finally: …`. -/
def finallyDo (p : Op Nat) (cleanup : Op Unit) : Op Nat :=
  p.finish fun outcome => do
    cleanup
    match outcome with
    | .ok value => return value
    | .error error => throw error

/-- `copy_delta(dconf, pool, ns, image, from_snap, to_snap, nbd_dev)`. -/
def copyDelta : Op Nat := do
  let diffs : List Diff ← perform .imageDiff
  let extents := presentExtents diffs
  if extents.isEmpty then return 0
  else do
    perform .mapImage
    perform .openSrc
    perform .openDst
    finallyDo (copyExtents extents 0) release

/-! ## The devices -/

/-- The answer of `image_diff`, the content of the source device, what has been written where on the
destination, and what has happened to it: a `pwrite` that wrote less than it was given, an `fsync`
that succeeded, one that failed. -/
structure Devices where
  diffs : List Diff
  src : List UInt8
  journal : Nat → Option UInt8 := fun _ => none
  short : Bool := false
  synced : Bool := false
  syncFailed : Bool := false

/-- What the environment decides about a call: it succeeds, it fails, or it transfers at most so
many bytes. -/
inductive Choice where
  | ok
  | fail (error : Exc)
  | moved (count : Nat)
  deriving DecidableEq, Repr

/-- The bytes stand at the position. -/
def written (journal : Nat → Option UInt8) (pos : Nat) (bytes : List UInt8) : Nat → Option UInt8 :=
  fun p => if pos ≤ p ∧ p < pos + bytes.length then bytes[p - pos]? else journal p

/-- The answer to a call. A `pread` transfers at least one byte unless it is at the end of the
device, and a `pwrite` at least one of those that it is given. -/
def handle : Choice → Devices → (c : Call) → Option (Except Exc (Result c) × Devices)
  | .fail error, d, .fsync => some (.error error, { d with syncFailed := true })
  | .fail error, d, _ => some (.error error, d)
  | .moved count, d, .pread n pos =>
      if 0 < count then some (.ok ((d.src.drop pos).take (min count n)), d) else none
  | .moved count, d, .pwrite buf pos =>
      if 0 < count ∧ count ≤ buf.length then
        some (.ok count, { d with
          journal := written d.journal pos (buf.take count)
          short := d.short || decide (count < buf.length) })
      else none
  | .ok, d, .imageDiff => some (.ok d.diffs, d)
  | .ok, d, .fsync => some (.ok (), { d with synced := true })
  | .ok, d, .mapImage => some (.ok (), d)
  | .ok, d, .openSrc => some (.ok (), d)
  | .ok, d, .openDst => some (.ok (), d)
  | .ok, d, .closeSrc => some (.ok (), d)
  | .ok, d, .closeDst => some (.ok (), d)
  | .ok, d, .unmapImage => some (.ok (), d)
  | _, _, _ => none

/-- The next call is answered. -/
def step (s : Op Nat × Devices) (choice : Choice) : Option (Op Nat × Devices) :=
  s.1.next handle choice s.2

/-- The byte lies in the extent and on the source device. -/
def InExtent (src : List UInt8) (extent : Nat × Nat) (p : Nat) : Prop :=
  extent.1 ≤ p ∧ p < extent.1 + extent.2 ∧ p < src.length

/-- The number of bytes of the extents on the source device. -/
def totalBytes (src : List UInt8) (extents : List (Nat × Nat)) : Nat :=
  (extents.map fun e => min (e.1 + e.2) src.length - e.1).sum

/-- What `copy_delta` reports is true: every byte of every extent has been written where it belongs,
`fsync` has succeeded if there was anything to copy, and the count is the number of those bytes. -/
structure Reports (d : Devices) (n : Nat) : Prop where
  copied : ∀ e ∈ presentExtents d.diffs, ∀ p, InExtent d.src e p → d.journal p = d.src[p]?
  durable : presentExtents d.diffs ≠ [] → d.synced = true ∧ d.syncFailed = false
  count : n = totalBytes d.src (presentExtents d.diffs)

/-- No two extents share a byte of the source device. -/
def Apart (src : List UInt8) (extents : List (Nat × Nat)) : Prop :=
  extents.Pairwise fun a b => ∀ p, InExtent src a p → ¬InExtent src b p

/-- A `pwrite` writes all it is given, and `fsync` does not fail. -/
def FullCall (choice : Choice) : Call → Prop
  | .pwrite buf _ => ∀ count, choice = .moved count → count = buf.length
  | .fsync => ∀ error, choice ≠ .fail error
  | _ => True

/-- The next call is such a one. -/
def Full (s : Op Nat × Devices) (choice : Choice) : Prop :=
  ∀ c ∈ s.1.firstCall, FullCall choice c

/-! ## What the loops leave on the destination -/

/-- `copy_delta` with any behaviour of the devices. -/
def transferring : Setting Exc Call Result Devices Choice where
  handle := handle
  allowed := fun _ _ _ => True
  rely := fun _ _ => False
  asserted := fun _ _ => True

section Rules

variable {d d' d'' : Devices} {lo mid hi : Nat}

/-- One call: what it leads to where it succeeds and where it fails. -/
theorem safe_call {c : Call} {post : Result c → Devices → Prop} {exc : Exc → Devices → Prop}
    (hok : ∀ choice result after, handle choice d c = some (.ok result, after) → post result after)
    (hfail : ∀ choice error after, handle choice d c = some (.error error, after) →
      exc error after) : Safe transferring post exc (perform c) d := by
  refine Prog.safe_perform (P := (· = d)) (fun _ _ _ hmove => False.elim hmove) rfl
    (fun _ _ => trivial) (fun s choice result after hs _ hhandle => ?_)
    fun s choice error after hs _ hhandle => ?_
  · subst hs
    exact hok choice result after hhandle
  · subst hs
    exact hfail choice error after hhandle

/-- What is the same after every call of the loops. -/
structure Kept (d d' : Devices) : Prop where
  diffs : d'.diffs = d.diffs
  src : d'.src = d.src
  synced : d'.synced = d.synced
  syncFailed : d'.syncFailed = d.syncFailed
  short : d.short = true → d'.short = true

theorem Kept.refl (d : Devices) : Kept d d := ⟨rfl, rfl, rfl, rfl, id⟩

theorem Kept.trans (h : Kept d d') (h' : Kept d' d'') : Kept d d'' :=
  ⟨h'.diffs.trans h.diffs, h'.src.trans h.src, h'.synced.trans h.synced,
    h'.syncFailed.trans h.syncFailed, fun hshort => h'.short (h.short hshort)⟩

/-- The bytes from `lo` up to `hi` have been gone over: those of the source that lie there have been
written, or a `pwrite` was short and one of them is as it was. -/
structure Passed (lo hi : Nat) (d d' : Devices) : Prop where
  kept : Kept d d'
  outside : ∀ p, ¬(lo ≤ p ∧ p < hi) → d'.journal p = d.journal p
  copied : d'.short = false → ∀ p, lo ≤ p → p < hi → p < d.src.length → d'.journal p = d.src[p]?
  missed : d.short = false → d'.short = true →
    ∃ p, lo ≤ p ∧ p < hi ∧ p < d.src.length ∧ d'.journal p = d.journal p

/-- There is nothing of the source there. -/
theorem passed_of_empty (h : hi ≤ lo ∨ d.src.length ≤ lo) : Passed lo hi d d where
  kept := .refl d
  outside _ _ := rfl
  copied _ p hlo hhi hsrc := by omega
  missed hno hyes := by
    rw [hno] at hyes
    cases hyes

/-- Two stretches, one after the other. -/
theorem Passed.trans (h : Passed lo mid d d') (h' : Passed mid hi d' d'') (hlo : lo ≤ mid)
    (hhi : mid ≤ hi) : Passed lo hi d d'' where
  kept := h.kept.trans h'.kept
  outside p hp := by
    rw [h'.outside p (by omega), h.outside p (by omega)]
  copied hshort p hplo hphi hsrc := by
    have hmid : d'.short = false := by
      by_contra hyes
      rw [h'.kept.short (by simpa using hyes)] at hshort
      cases hshort
    by_cases hp : p < mid
    · rw [h'.outside p (by omega), h.copied hmid p hplo hp hsrc]
    · rw [h'.copied hshort p (by omega) hphi (h.kept.src ▸ hsrc), h.kept.src]
  missed hno hyes := by
    cases hmid : d'.short with
    | false =>
        obtain ⟨p, hplo, hphi, hsrc, hp⟩ := h'.missed hmid hyes
        exact ⟨p, by omega, hphi, h.kept.src ▸ hsrc, by rw [hp, h.outside p (by omega)]⟩
    | true =>
        obtain ⟨p, hplo, hphi, hsrc, hp⟩ := h.missed hno hmid
        exact ⟨p, hplo, by omega, hsrc, by rw [h'.outside p (by omega), hp]⟩

/-- What a `pread` returns. -/
theorem pread_inv {choice : Choice} {n pos : Nat} {buf : List UInt8} {after : Devices}
    (h : handle choice d (.pread n pos) = some (.ok buf, after)) :
    after = d ∧ ∃ count, 0 < count ∧ buf = (d.src.drop pos).take (min count n) := by
  cases choice with
  | moved count =>
      simp only [handle, Option.ite_none_right_eq_some, Option.some.injEq, Prod.mk.injEq] at h
      obtain ⟨hpos, hreply, rfl⟩ := h
      cases hreply
      exact ⟨rfl, count, hpos, rfl⟩
  | _ => cases h

/-- What a `pwrite` does. -/
theorem pwrite_inv {choice : Choice} {buf : List UInt8} {pos count : Nat} {after : Devices}
    (h : handle choice d (.pwrite buf pos) = some (.ok count, after)) :
    0 < count ∧ count ≤ buf.length ∧ choice = .moved count ∧ after = { d with
      journal := written d.journal pos (buf.take count)
      short := d.short || decide (count < buf.length) } := by
  cases choice with
  | moved count' =>
      simp only [handle, Option.ite_none_right_eq_some, Option.some.injEq, Prod.mk.injEq] at h
      obtain ⟨⟨hpos, hle⟩, hreply, rfl⟩ := h
      cases hreply
      exact ⟨hpos, hle, rfl, rfl⟩
  | _ => cases h

/-- One turn of the loop: bytes of the source that were read are written, or some of them. -/
theorem passed_pwrite {choice : Choice} {count count' n pos : Nat} {buf : List UInt8}
    {after : Devices} (hbuf : buf = (d.src.drop pos).take (min count n)) (hne : buf ≠ [])
    (h : handle choice d (.pwrite buf pos) = some (.ok count', after)) :
    Passed pos (pos + buf.length) d after := by
  obtain ⟨hpos, hle, -, rfl⟩ := pwrite_inv h
  have hsrc : pos + buf.length ≤ d.src.length := by
    have hlen := List.length_pos_of_ne_nil hne
    rw [hbuf, List.length_take, List.length_drop] at hlen ⊢
    omega
  have hread : ∀ p, pos ≤ p → p < pos + buf.length → buf[p - pos]? = d.src[p]? := by
    intro p hlo hhi
    have hcut : p - pos < min count n := by
      rw [hbuf, List.length_take] at hhi
      omega
    rw [hbuf, List.getElem?_take_of_lt hcut, List.getElem?_drop, Nat.add_sub_cancel' hlo]
  have hlen : (buf.take count').length = count' := by
    rw [List.length_take]
    omega
  refine ⟨⟨rfl, rfl, rfl, rfl, fun hshort => ?_⟩, fun p hp => ?_, fun hshort p hlo hhi _ => ?_,
    fun hno hyes => ?_⟩
  · simp [hshort]
  · simp only [written, hlen]
    rw [if_neg (by omega)]
  · have hfull : count' = buf.length := by
      simp only [Bool.or_eq_false_iff, decide_eq_false_iff_not] at hshort
      omega
    simp only [written, hlen]
    rw [if_pos (by omega), List.getElem?_take_of_lt (by omega), hread p hlo hhi]
  · -- the last byte of those that were read is not among those that were written
    have hpart : count' < buf.length := by
      simpa [hno] using hyes
    refine ⟨pos + count', by omega, by omega, by omega, ?_⟩
    simp only [written, hlen]
    rw [if_neg (by omega)]

/-- The loop over one extent goes over all of it, and counts the bytes of the source there. -/
theorem safe_copyRange (pos stop total : Nat) :
    Safe transferring (fun n d' => n = total + (min stop d.src.length - pos) ∧ Passed pos stop d d')
      (fun _ _ => True) (copyRange pos stop total) d := by
  induction hk : stop - pos using Nat.strong_induction_on generalizing pos total d with
  | _ k ih =>
      rw [copyRange]
      split
      next hlt =>
        refine Prog.safe_bind (safe_call (fun choice buf after hread => ?_) fun _ _ _ _ => trivial)
        obtain ⟨rfl, count, hcount, hbuf⟩ := pread_inv hread
        have hchunk : 0 < copyChunk := by decide
        split
        next hempty =>
          -- nothing was read, so this is the end of the source
          have hend : after.src.length ≤ pos := by
            have hlen := congrArg List.length (hempty.symm.trans hbuf)
            rw [List.length_take, List.length_drop, List.length_nil] at hlen
            omega
          exact ⟨by omega, passed_of_empty (.inr hend)⟩
        next hne =>
          have hlen := List.length_pos_of_ne_nil hne
          have hfits : pos + buf.length ≤ stop ∧ pos + buf.length ≤ after.src.length := by
            rw [hbuf, List.length_take, List.length_drop] at hlen ⊢
            omega
          refine Prog.safe_bind (safe_call (fun choice count' after' hwrite => ?_)
            fun _ _ _ _ => trivial)
          have hpassed := passed_pwrite hbuf hne hwrite
          refine (ih (stop - (pos + buf.length)) (by omega) (pos + buf.length) (total + buf.length)
            rfl).mono (fun n d' hrest => ?_) fun _ _ h => h
          obtain ⟨hn, hrest⟩ := hrest
          rw [hpassed.kept.src] at hn
          exact ⟨by omega, hpassed.trans hrest (by omega) hfits.1⟩
      next hge => exact ⟨by omega, passed_of_empty (.inl (by omega))⟩

/-- The extents have been gone over. -/
structure Covered (extents : List (Nat × Nat)) (d d' : Devices) : Prop where
  kept : Kept d d'
  outside : ∀ p, (∀ e ∈ extents, ¬(e.1 ≤ p ∧ p < e.1 + e.2)) → d'.journal p = d.journal p
  copied : d'.short = false → ∀ e ∈ extents, ∀ p, InExtent d.src e p → d'.journal p = d.src[p]?
  missed : Apart d.src extents → d.short = false → d'.short = true →
    ∃ e ∈ extents, ∃ p, InExtent d.src e p ∧ d'.journal p = d.journal p

/-- One extent more has been gone over before the others. -/
theorem Passed.covered {e : Nat × Nat} {rest : List (Nat × Nat)}
    (h : Passed e.1 (e.1 + e.2) d d') (h' : Covered rest d' d'') : Covered (e :: rest) d d'' where
  kept := h.kept.trans h'.kept
  outside p hp := by
    rw [h'.outside p fun e he => hp e (List.mem_cons_of_mem _ he),
      h.outside p (hp e List.mem_cons_self)]
  copied hshort := by
    have hrest : ∀ e ∈ rest, ∀ p, InExtent d.src e p → d''.journal p = d.src[p]? := by
      have hcopied := h'.copied hshort
      rwa [h.kept.src] at hcopied
    have hmid : d'.short = false := by
      by_contra hyes
      rw [h'.kept.short (by simpa using hyes)] at hshort
      cases hshort
    intro x hx p hp
    by_cases hlater : ∃ x ∈ rest, x.1 ≤ p ∧ p < x.1 + x.2
    · obtain ⟨x, hmem, hlo, hhi⟩ := hlater
      exact hrest x hmem p ⟨hlo, hhi, hp.2.2⟩
    · obtain rfl | hx := List.mem_cons.mp hx
      · rw [h'.outside p fun x hmem hin => hlater ⟨x, hmem, hin⟩]
        exact h.copied hmid p hp.1 hp.2.1 hp.2.2
      · exact absurd ⟨x, hx, hp.1, hp.2.1⟩ hlater
  missed hapart hno hyes := by
    obtain ⟨hfirst, hapart⟩ := List.pairwise_cons.mp hapart
    cases hmid : d'.short with
    | true =>
        -- the byte that was missed lies in no later extent
        obtain ⟨p, hlo, hhi, hsrc, hp⟩ := h.missed hno hmid
        refine ⟨e, List.mem_cons_self, p, ⟨hlo, hhi, hsrc⟩, ?_⟩
        rw [h'.outside p fun x hx hin => hfirst x hx p ⟨hlo, hhi, hsrc⟩ ⟨hin.1, hin.2, hsrc⟩, hp]
    | false =>
        -- the byte that is missed later was not written here
        obtain ⟨x, hx, p, hin, hp⟩ := h'.missed (h.kept.src ▸ hapart) hmid hyes
        rw [h.kept.src] at hin
        refine ⟨x, List.mem_cons_of_mem _ hx, p, hin, ?_⟩
        rw [hp, h.outside p fun hrange => hfirst x hx p ⟨hrange.1, hrange.2, hin.2.2⟩ hin]

/-- The loop over the extents goes over all of them, and counts the bytes of the source there. -/
theorem safe_copyExtents (extents : List (Nat × Nat)) (total : Nat) :
    Safe transferring (fun n d' => n = total + totalBytes d.src extents ∧ Covered extents d d')
      (fun _ _ => True) (copyExtents extents total) d := by
  induction extents generalizing total d with
  | nil =>
      refine ⟨by simp [totalBytes], .refl d, fun _ _ => rfl, fun _ e he => ?_, fun _ hno hyes => ?_⟩
      · cases he
      · rw [hno] at hyes
        cases hyes
  | cons e rest ih =>
      refine Prog.safe_bind ((safe_copyRange e.1 (e.1 + e.2) total).mono (fun n d' hfirst => ?_)
        fun _ _ h => h)
      obtain ⟨rfl, hpassed⟩ := hfirst
      refine (ih _).mono (fun n d'' hrest => ?_) fun _ _ h => h
      obtain ⟨rfl, hcovered⟩ := hrest
      refine ⟨?_, hpassed.covered hcovered⟩
      rw [hpassed.kept.src]
      simp only [totalBytes, List.map_cons, List.sum_cons]
      omega

/-- What the `finally` block leaves. -/
structure Released (d d' : Devices) : Prop where
  diffs : d'.diffs = d.diffs
  src : d'.src = d.src
  journal : d'.journal = d.journal
  short : d'.short = d.short
  synced : d'.synced = true ∧ d'.syncFailed = d.syncFailed ∨
    d'.synced = d.synced ∧ d'.syncFailed = true

/-- The `finally` block flushes the destination, or `fsync` fails. -/
theorem safe_release :
    Safe transferring (fun _ d' => Released d d') (fun _ _ => True) release d := by
  -- the calls beside `fsync` leave the devices as they are
  have hother : ∀ (c : Call) (d₀ : Devices) choice reply after,
      (c = .closeSrc ∨ c = .closeDst ∨ c = .unmapImage) →
      handle choice d₀ c = some (reply, after) → after = d₀ := by
    rintro c d₀ choice reply after (rfl | rfl | rfl) h <;> cases choice <;> cases h <;> rfl
  refine Prog.safe_bind (safe_call (fun choice result after hclose => ?_) fun _ _ _ _ => trivial)
  cases hother _ _ _ _ _ (.inl rfl) hclose
  have hsync : Safe transferring (fun _ d' => Released d d') (fun _ _ => True)
      (exceptOs (perform .fsync)) d := by
    refine Prog.safe_tryCatch (safe_call (fun choice result after hsync => ?_)
      fun choice error after hsync => ?_)
    · cases choice with
      | ok =>
          cases hsync
          exact ⟨rfl, rfl, rfl, rfl, .inl ⟨rfl, rfl⟩⟩
      | _ => cases hsync
    · cases choice with
      | fail error' =>
          cases hsync
          cases error with
          | osError message => exact ⟨rfl, rfl, rfl, rfl, .inr ⟨rfl, rfl⟩⟩
          | other message => trivial
      | _ => cases hsync
  refine Prog.safe_bind (hsync.mono (fun _ d' hreleased => ?_) fun _ _ h => h)
  refine Prog.safe_bind (safe_call (fun choice result after hclose => ?_) fun _ _ _ _ => trivial)
  cases hother _ _ _ _ _ (.inr (.inl rfl)) hclose
  refine Prog.safe_tryCatch (safe_call (fun choice result after hunmap => ?_)
    fun choice error after hunmap => ?_)
  · cases hother _ _ _ _ _ (.inr (.inr rfl)) hunmap
    exact hreleased
  · cases hother _ _ _ _ _ (.inr (.inr rfl)) hunmap
    exact hreleased

/-- What holds where `copy_delta` has returned. -/
structure Returned (d : Devices) (n : Nat) : Prop where
  copied : d.short = false →
    ∀ e ∈ presentExtents d.diffs, ∀ p, InExtent d.src e p → d.journal p = d.src[p]?
  missed : Apart d.src (presentExtents d.diffs) → d.short = true →
    ∃ e ∈ presentExtents d.diffs, ∃ p, InExtent d.src e p ∧ d.journal p = none
  durable : presentExtents d.diffs ≠ [] → d.syncFailed = false → d.synced = true
  idle : presentExtents d.diffs = [] → d.syncFailed = false ∧ d.short = false
  count : n = totalBytes d.src (presentExtents d.diffs)

/-- `copy_delta` with any behaviour of the devices. -/
theorem safe_copyDelta (diffs : List Diff) (src : List UInt8) :
    Safe transferring (fun n d' => Returned d' n) (fun _ _ => True) copyDelta
      { diffs := diffs, src := src } := by
  have hsame : ∀ (c : Call) (d₀ : Devices) choice reply after,
      (c = .mapImage ∨ c = .openSrc ∨ c = .openDst) →
      handle choice d₀ c = some (reply, after) → after = d₀ := by
    rintro c d₀ choice reply after (rfl | rfl | rfl) h <;> cases choice <;> cases h <;> rfl
  refine Prog.safe_bind (safe_call (fun choice read after hdiff => ?_) fun _ _ _ _ => trivial)
  obtain ⟨rfl, rfl⟩ : read = diffs ∧ after = { diffs := diffs, src := src } := by
    cases choice with
    | ok =>
        cases hdiff
        exact ⟨rfl, rfl⟩
    | _ => cases hdiff
  dsimp only
  split
  next hempty =>
    have hnil : presentExtents read = [] := List.isEmpty_iff.mp hempty
    refine ⟨fun _ e he => ?_, fun _ hshort => ?_, fun hne => absurd hnil hne,
      fun _ => ⟨rfl, rfl⟩, ?_⟩
    · rw [hnil] at he
      cases he
    · cases hshort
    · simp [hnil, totalBytes]
  next hne =>
    refine Prog.safe_bind (safe_call (fun choice result after hmap => ?_) fun _ _ _ _ => trivial)
    cases hsame _ _ _ _ _ (.inl rfl) hmap
    refine Prog.safe_bind (safe_call (fun choice result after hopen => ?_) fun _ _ _ _ => trivial)
    cases hsame _ _ _ _ _ (.inr (.inl rfl)) hopen
    refine Prog.safe_bind (safe_call (fun choice result after hopen => ?_) fun _ _ _ _ => trivial)
    cases hsame _ _ _ _ _ (.inr (.inr rfl)) hopen
    refine Prog.safe_finish ((safe_copyExtents _ 0).mono (fun n d' hloop => ?_) fun _ d' _ => ?_)
    · obtain ⟨hn, hcovered⟩ := hloop
      refine Prog.safe_bind (safe_release.mono (fun _ d'' hreleased => ?_) fun _ _ h => h)
      have hdiffs : d''.diffs = read := hreleased.diffs.trans hcovered.kept.diffs
      have hsrc : d''.src = src := hreleased.src.trans hcovered.kept.src
      have hfailed : d'.syncFailed = false := hcovered.kept.syncFailed
      refine ⟨fun hshort => ?_, fun hapart hshort => ?_, fun _ hok => ?_, fun hnil => ?_, ?_⟩
      · rw [hreleased.short] at hshort
        rw [hdiffs, hsrc, hreleased.journal]
        exact hcovered.copied hshort
      · rw [hreleased.short] at hshort
        rw [hdiffs, hsrc] at hapart ⊢
        rw [hreleased.journal]
        exact hcovered.missed hapart rfl hshort
      · obtain ⟨hsynced, -⟩ | ⟨-, hbad⟩ := hreleased.synced
        · exact hsynced
        · rw [hok] at hbad
          cases hbad
      · rw [hdiffs] at hnil
        exact absurd (List.isEmpty_iff.mpr hnil) hne
      · rw [hdiffs, hsrc, hn, Nat.zero_add]
    · exact Prog.safe_bind (safe_release.mono (fun _ _ _ => trivial) fun _ _ h => h)

end Rules

/-! ## Runs -/

/-- Every `pwrite` so far has written all it was given, and no `fsync` has failed. -/
def Sound (s : Op Nat × Devices) : Prop := s.2.short = false ∧ s.2.syncFailed = false

/-- It stays so exactly in the steps that are full. -/
theorem sound_step_iff {s s' : Op Nat × Devices} {choice : Choice} (h : step s choice = some s') :
    Sound s' ↔ Sound s ∧ Full s choice := by
  obtain ⟨c, resume, reply, hcall, hhandle, hrest⟩ := Prog.next_eq_some_iff.mp h
  obtain ⟨op, d⟩ := s
  obtain ⟨op', d'⟩ := s'
  dsimp only at hcall hhandle
  subst hcall
  have hfull : Full (.call c resume, d) choice ↔ FullCall choice c := by
    refine ⟨fun h => h c rfl, fun h c' hc' => ?_⟩
    cases hc'
    exact h
  rw [hfull]
  cases c with
  | pwrite buf pos =>
      cases reply with
      | ok count =>
          obtain ⟨hpos, hle, rfl, rfl⟩ := pwrite_inv hhandle
          simp only [Sound, Bool.or_eq_false_iff, decide_eq_false_iff_not]
          constructor
          · rintro ⟨⟨hshort, hnot⟩, hsync⟩
            refine ⟨⟨hshort, hsync⟩, fun count' heq => ?_⟩
            cases heq
            omega
          · rintro ⟨⟨hshort, hsync⟩, hfull⟩
            have hall := hfull count rfl
            exact ⟨⟨hshort, by omega⟩, hsync⟩
      | error error =>
          cases choice with
          | fail error' =>
              cases hhandle
              simp [Sound, FullCall]
          | ok => cases hhandle
          | moved count =>
              simp only [handle, Option.ite_none_right_eq_some, Option.some.injEq,
                Prod.mk.injEq] at hhandle
              cases hhandle.2.1
  | pread n pos =>
      have hsame : d' = d := by
        cases reply with
        | ok buf => exact (pread_inv hhandle).1
        | error error =>
            cases choice with
            | fail error' =>
                cases hhandle
                rfl
            | ok => cases hhandle
            | moved count =>
                simp only [handle, Option.ite_none_right_eq_some, Option.some.injEq,
                  Prod.mk.injEq] at hhandle
                exact hhandle.2.2.symm
      subst hsame
      simp [Sound, FullCall]
  | _ => cases choice <;> cases hhandle <;> simp [Sound, FullCall]

/-- What `copy_delta` returns is what was copied if every `pwrite` writes all it is given and
`fsync` does not fail; and if the extents are apart, only then. -/
theorem copyDelta_reports {diffs : List Diff} {src : List UInt8} {choices : List Choice} {n : Nat}
    {d : Devices}
    (hrun : Run.run step (copyDelta, { diffs := diffs, src := src }) choices = some (.ret n, d)) :
    (Run.Along step Full (copyDelta, { diffs := diffs, src := src }) choices → Reports d n) ∧
      (Apart d.src (presentExtents d.diffs) → Reports d n →
        Run.Along step Full (copyDelta, { diffs := diffs, src := src }) choices) := by
  have hreturned : Returned d n :=
    (safe_copyDelta diffs src).run (fun _ _ _ => trivial) hrun
  have hiff := Run.along_iff (fun _ _ _ h => sound_step_iff h) hrun
  constructor
  · intro hfull
    obtain ⟨hshort, hsync⟩ := hiff.mpr ⟨⟨rfl, rfl⟩, hfull⟩
    exact ⟨hreturned.copied hshort, fun hne => ⟨hreturned.durable hne hsync, hsync⟩,
      hreturned.count⟩
  · intro hapart hreports
    refine (hiff.mp ⟨?_, ?_⟩).2
    · by_contra hshort
      obtain ⟨e, he, p, hin, hnone⟩ := hreturned.missed hapart (by simpa using hshort)
      have hcopied := hreports.copied e he p hin
      rw [hnone, List.getElem?_eq_getElem hin.2.2] at hcopied
      cases hcopied
    · by_cases hnil : presentExtents d.diffs = []
      · exact (hreturned.idle hnil).1
      · exact (hreports.durable hnil).2

/-- A source device of two bytes, all of it an extent. -/
def twoBytes : Devices := { diffs := [⟨0, 2, true⟩], src := [7, 8] }

/-- The two bytes are read at once, and `pwrite` writes so many of them. -/
def copyOf (count : Nat) : List Choice :=
  [.ok, .ok, .ok, .ok, .moved 2, .moved count, .ok, .ok, .ok, .ok]

/-- The program has returned two, with or without a short write. -/
def returnedTwo (short : Bool) (s : Op Nat × Devices) : Bool :=
  match s with
  | (.ret n, d) => n == 2 && d.short == short && !d.syncFailed && d.src == [7, 8] &&
      presentExtents d.diffs == [(0, 2)]
  | _ => false

/-- What the test says. -/
theorem eq_of_returnedTwo {short : Bool} {s : Op Nat × Devices} (h : returnedTwo short s = true) :
    ∃ d, s = (.ret 2, d) ∧ d.short = short ∧ d.syncFailed = false ∧ d.src = [7, 8] ∧
      presentExtents d.diffs = [(0, 2)] := by
  obtain ⟨op, d⟩ := s
  cases op with
  | ret n =>
      simp only [returnedTwo, Bool.and_eq_true, beq_iff_eq, Bool.not_eq_true'] at h
      obtain ⟨⟨⟨⟨rfl, hshort⟩, hsync⟩, hsrc⟩, hextents⟩ := h
      exact ⟨d, rfl, hshort, hsync, hsrc, hextents⟩
  | raise error => cases h
  | call c resume => cases h

/-- Both bytes are written, and two are reported. -/
theorem copyDelta_reports_two :
    ∃ d, Run.run step (copyDelta, twoBytes) (copyOf 2) = some (.ret 2, d) ∧ Reports d 2 := by
  have hchecked : (Run.checked step (fun _ _ => True) (copyDelta, twoBytes) (copyOf 2)).any
      (returnedTwo false) = true := by
    decide +kernel
  obtain ⟨s, hrun, -, htest⟩ := Run.exists_of_checked hchecked
  obtain ⟨d, rfl, hshort, hsync, -⟩ := eq_of_returnedTwo htest
  have hfull := (Run.along_iff (fun _ _ _ h => sound_step_iff h) hrun).mp ⟨hshort, hsync⟩
  exact ⟨d, hrun, (copyDelta_reports hrun).1 hfull.2⟩

/-- One byte of two is written, and two are reported. -/
theorem copyDelta_short :
    ∃ d, Run.run step (copyDelta, twoBytes) (copyOf 1) = some (.ret 2, d) ∧ ¬Reports d 2 := by
  have hchecked : (Run.checked step (fun _ _ => True) (copyDelta, twoBytes) (copyOf 1)).any
      (fun s => returnedTwo true s && s.2.journal 1 == none) = true := by
    decide +kernel
  obtain ⟨s, hrun, -, htest⟩ := Run.exists_of_checked hchecked
  rw [Bool.and_eq_true, beq_iff_eq] at htest
  obtain ⟨htest, hnone⟩ := htest
  obtain ⟨d, rfl, -, -, hsrc, hextents⟩ := eq_of_returnedTwo htest
  refine ⟨d, hrun, fun hreports => ?_⟩
  have hin : InExtent d.src (0, 2) 1 := by
    rw [hsrc]
    exact ⟨by decide, by decide, by decide⟩
  have hcopied := hreports.copied (0, 2) (by simp [hextents]) 1 hin
  rw [hnone, hsrc] at hcopied
  cases hcopied

end XcpCephRbd.Blkmirror.Transfer
