import XcpCephRbd.Volume.Track

/-!
# Rules for the programs of the operations

How a program of calls is followed through while a guest writes between them. `Ends rely post p h`
says that `p`, started on the host `h`, returns in a state in which `post` holds, whatever moves
`rely` allows before each call. A call of the host has its effect, since no call fails and no
tapdisk is taken for another; a read-modify-write of the metadata replaces the dictionary that it
read, since only the guest moves in between. `GuestMove` is the move of a guest that writes nothing
new while a snapshot is being sealed.
-/

namespace XcpCephRbd.Volume

open Bitmap (Bytes)
open Cbtlog (companionName)
open Prog (Stable)

/-- The call is one that only the environment answers. -/
def Call.asked : Call → Bool
  | .uuid4 | .gen | .imageDiff _ _ _ _ _ _ => true
  | _ => false

/-- The call does not fail and finds no tapdisk of another image. -/
def Exact (choice : Choice) : Prop := NoFail choice ∧ choice.own = true

/-- The program returns, and then `post` holds. -/
abbrev Ends {α : Type} (rely : Host → Host → Prop) (post : α → Host → Prop) (p : Op α) (h : Host) :
    Prop := Prog.Wp hostHandle Exact rely post p h

/-- The write changes nothing. -/
def harmless (w : World) (base : String) (off : Nat) (data : Bytes) : Bool :=
  (w.images.lookup base).all fun img =>
    (List.range data.length).all fun i => data.getD i 0 == img.content (off + i)

/-- The guest writes; while a snapshot is being sealed it changes nothing. -/
def GuestMove (base : String) (h h' : Host) : Prop :=
  h'.sealing = h.sealing ∧ ∃ off data, h.world.guestWrite base off data = some h'.world ∧
    (h.sealing = true → harmless h.world base off data = true)

/-- Nothing moves. -/
def Still (_ _ : Host) : Prop := False

theorem stable_still (P : Host → Prop) : Stable Still P := fun _ _ _ h => h.elim

/-- A write that changes nothing leaves the state of the disk. -/
theorem disk_write_of_harmless {w : World} {base : String} {img : Image} {off : Nat} {data : Bytes}
    (hfound : w.images.lookup base = some img) (h : harmless w base off data = true) :
    (img.write off data).disk = img.disk := by
  simp only [harmless, hfound, Option.all_some, List.all_eq_true, List.mem_range, beq_iff_eq] at h
  simp only [Image.disk, Image.write, Disk.mk.injEq, true_and]
  funext i
  split
  next hin =>
    have hsame := h (i - off) (by omega)
    rwa [Nat.add_sub_cancel' hin.1] at hsame
  next => rfl

variable {α β : Type} {rely : Host → Host → Prop} {h : Host} {base : String}

/-- A call that does not fail has its effect. -/
theorem hostHandle_effect {choice : Choice} {h' : Host} {c : Call} {reply : Except Exc (Result c)}
    (hexact : Exact choice) (hc : c.asked = false)
    (hcall : hostHandle choice h c = some (reply, h')) :
    ∃ result w, reply = .ok result ∧ effect h.world c = some (result, w) ∧
      h' = ⟨w, sealingAfter h.sealing c⟩ := by
  obtain ⟨⟨reply', w⟩, hhandle, heq⟩ := Option.map_eq_some_iff.mp hcall
  cases heq
  obtain ⟨result, -, rfl, heffect⟩ |
      ⟨-, -, ⟨error, rfl, -⟩ | rfl | rfl | ⟨_, _, _, _, _, _, rfl⟩ | ⟨_, _, _, _, -, rfl⟩⟩ :=
    handle_cases hhandle
  · exact ⟨result, w, rfl, heffect, rfl⟩
  · exact hexact.1.elim
  · cases hc
  · cases hc
  · cases hc
  · cases hexact.2

/-- A call: a stable condition holds before it, and its effect gives what is wanted. -/
theorem ends_call {c : Call} {post : Result c → Host → Prop} {P : Host → Prop}
    (hstable : Stable rely P) (hP : P h) (hc : c.asked = false)
    (hcall : ∀ h result w, P h → effect h.world c = some (result, w) →
      post result ⟨w, sealingAfter h.sealing c⟩) : Ends rely post (perform c) h := by
  refine Prog.wp_perform hstable hP fun before choice reply after hbefore hexact hhandle => ?_
  obtain ⟨result, w, rfl, heffect, rfl⟩ := hostHandle_effect hexact hc hhandle
  exact ⟨result, rfl, hcall before result w hbefore heffect⟩

/-- A new snapshot name. -/
theorem ends_uuid4 {post : String → Host → Prop} {P : Host → Prop} (hstable : Stable rely P)
    (hP : P h) (hcall : ∀ h snap, P h → isUuid snap.toList = true → post snap h) :
    Ends rely post (perform .uuid4) h := by
  refine Prog.wp_perform hstable hP fun before choice reply after hbefore hexact hhost => ?_
  obtain ⟨⟨reply', w⟩, hhandle, heq⟩ := Option.map_eq_some_iff.mp hhost
  cases heq
  cases choice with
  | ok => simp [handle, effect] at hhandle
  | fail error => exact hexact.1.elim
  | fresh text =>
      simp only [handle, Option.ite_none_right_eq_some, Option.some.injEq, Prod.mk.injEq] at hhandle
      obtain ⟨huuid, rfl, rfl⟩ := hhandle
      exact ⟨text, rfl, hcall before text hbefore huuid⟩
  | diff extents => simp [handle] at hhandle
  | tap number other found => cases hexact.2

/-- A new generation. -/
theorem ends_gen {post : String → Host → Prop} {P : Host → Prop} (hstable : Stable rely P)
    (hP : P h) (hcall : ∀ h gen, P h → gen ≠ "" → post gen h) :
    Ends rely post (perform .gen) h := by
  refine Prog.wp_perform hstable hP fun before choice reply after hbefore hexact hhost => ?_
  obtain ⟨⟨reply', w⟩, hhandle, heq⟩ := Option.map_eq_some_iff.mp hhost
  cases heq
  cases choice with
  | ok => simp [handle, effect] at hhandle
  | fail error => exact hexact.1.elim
  | fresh text =>
      simp only [handle, Option.ite_none_right_eq_some, Option.some.injEq, Prod.mk.injEq] at hhandle
      obtain ⟨hgen, rfl, rfl⟩ := hhandle
      refine ⟨text, rfl, hcall before text hbefore ?_⟩
      rintro rfl
      simp [isGen] at hgen
  | diff extents => simp [handle] at hhandle
  | tap number other found => cases hexact.2

/-- The cleanup comes after what it cleans up. -/
theorem ends_finallyDo {post : α → Host → Prop} {p : Op α} {cleanup : Op Unit}
    (hp : Ends rely (fun value h => Ends rely (fun _ h => post value h) cleanup h) p h) :
    Ends rely post (finallyDo p cleanup) h := by
  refine Prog.wp_bind (Prog.wp_tryCatch (hp.mono fun value h hcleanup => ?_))
  exact Prog.wp_bind hcleanup

/-- An image of its own size is not changed by a resize to it. -/
theorem resize_self {img : Image} (hzero : img.disk.Zero) : img.resize img.size = img := by
  have hcontent : (fun i => if i < img.size then img.content i else 0) = img.content := by
    funext i
    split
    · rfl
    · exact (hzero i (Nat.le_of_not_lt ‹_›)).symm
  rw [Image.resize, hcontent]

/-- A read-modify-write: the condition before it is stable and determines the metadata and the size
of the base. -/
theorem ends_rmw {mutate : Desired → Desired} {post : Unit → Host → Prop} {P : Host → Prop}
    {metadata : Dict} {size : Nat} (hstable : Stable rely P) (hP : P h)
    (hbase : ∀ h, P h → ∃ img, h.world.images.lookup base = some img ∧ img.metadata = metadata ∧
      img.size = size ∧ img.disk.Zero)
    (hpost : ∀ h img, P h → h.world.images.lookup base = some img →
      post () ⟨{ h.world with
        images := h.world.images.insert base
          { img with metadata := replaced metadata (mutate metadata.toDesired) } }, h.sealing⟩) :
    Ends rely post (rmw base mutate) h := by
  refine Prog.wp_bind (ends_call hstable hP rfl fun h result w hP heffect => ?_)
  obtain ⟨img, himg, rfl, rfl, -⟩ := hbase h hP
  simp only [effect, himg, Option.map_some] at heffect
  cases heffect
  refine Prog.wp_bind (Prog.wp_tryCatch (Prog.wp_bind (ends_call hstable hP rfl
    fun h result w hP heffect => ?_)))
  obtain ⟨img', himg', hmeta, hsize, -⟩ := hbase h hP
  simp only [effect, himg', Option.map_some] at heffect
  cases heffect
  refine ends_call hstable hP rfl fun h result w hP heffect => ?_
  obtain ⟨after, hupdate, heq⟩ := Option.map_eq_some_iff.mp heffect
  cases heq
  obtain ⟨img'', img₂, himg'', hput, rfl⟩ := World.update_eq_some_iff.mp hupdate
  obtain ⟨img₃, himg₃, hmeta₃, hsize₃, hzero⟩ := hbase h hP
  cases himg''.symm.trans himg₃
  have hwritten : img₂ = { img'' with
      metadata := replaced img.metadata (mutate img.metadata.toDesired) } := by
    rw [← Option.some.inj hput]
    simp only [Image.put, Image.info, ← hsize₃, resize_self hzero, hmeta, hmeta₃, replaced]
  rw [hwritten]
  exact hpost h img'' hP himg''

end XcpCephRbd.Volume
