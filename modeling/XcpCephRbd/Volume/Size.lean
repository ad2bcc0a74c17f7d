import XcpCephRbd.Lib.Run
import XcpCephRbd.Volume.Walk

/-!
# Metadata writers and the size of an image

On the REST backend every write of image-meta is a PUT that also carries a size: the one that the
operation read in an earlier call. Between the two calls another operation may have resized the
image. `size_kept` says that the size of the image is that of its last resize in every interleaving,
call by call, of resizes and metadata operations in which no resize to another size takes effect
while some operation carries a size that it has read and not sent yet.
-/

namespace XcpCephRbd.Volume.Size

open Datapath (SrMeta splitKey)
open Prog (AllCalls Carries Fresh)

/-- The metadata operations. -/
inductive MetaOp where
  | set (key k v : String)
  | unset (key k : String)
  | setName (key newName : String)
  | setDescription (key newDescription : String)
  | enableCbt (key : String)
  | disableCbt (key : String)
  | dataDestroy (key : String)
  | snapshot (key : String)
  | destroySnap (base snap : String)
  | ls

/-- The image an operation is called for; `SR.ls` goes over all of them. -/
def MetaOp.base? : MetaOp → Option String
  | .set key _ _ | .unset key _ | .setName key _ | .setDescription key _ | .enableCbt key
  | .disableCbt key | .dataDestroy key | .snapshot key => some (splitKey key).1
  | .destroySnap base _ => some base
  | .ls => none

/-- The program of an operation. -/
def MetaOp.prog (sr : SrMeta) : MetaOp → Op Unit
  | .set key k v => Volume.set key k v
  | .unset key k => Volume.unset key k
  | .setName key newName => Volume.setName key newName
  | .setDescription key newDescription => Volume.setDescription key newDescription
  | .enableCbt key => Volume.enableCbt sr key
  | .disableCbt key => Volume.disableCbt key
  | .dataDestroy key => Volume.dataDestroy key
  | .snapshot key => do let _ ← Volume.snapshot sr key
  | .destroySnap base snap => Volume.destroySnap base snap
  | .ls => do let _ ← Volume.ls sr

/-- A resize of a volume, or a metadata operation. -/
inductive Task where
  | resize (key : String) (newSize : Nat)
  | metadata (op : MetaOp)

/-- The program of a task. -/
def Task.prog (sr : SrMeta) : Task → Op Unit
  | .resize key newSize => Volume.resize key newSize
  | .metadata op => op.prog sr

/-- The task is on `base`, on one of its snapshots, or on the whole SR. -/
def Task.On (base : String) : Task → Prop
  | .resize key _ => (splitKey key).1 = base
  | .metadata op => op.base?.getD base = base

/-- Tasks under way on a shared world, and the size that the last resize of the image gave it. -/
structure Pool where
  world : World
  threads : List (Op Unit)
  resized : Nat

/-- The size that a resize of `base` sends: its PUT has no metadata. -/
def resizeOf (base : String) : Call → Option Nat
  | .putImage image body => if image = base ∧ body.metadata.isNone then body.size else none
  | _ => none

/-- The size that `base` is resized to when the first call of `p` is answered by `choice`. -/
def resizing (base : String) (p : Op Unit) (choice : Choice) : Option Nat :=
  match choice with
  | .ok => p.firstCall.bind (resizeOf base)
  | _ => none

/-- A task makes its next call. -/
def step (base : String) (s : Pool) (label : Nat × Choice) : Option Pool :=
  s.threads[label.1]?.bind fun p =>
    (p.next handle label.2 s.world).map fun (q, w) =>
      { world := w
        threads := s.threads.set label.1 q
        resized := (resizing base p label.2).getD s.resized }

/-- The tasks before their first call. -/
def start (sr : SrMeta) (w : World) (tasks : List Task) (size : Nat) : Pool where
  world := w
  threads := tasks.map (Task.prog sr)
  resized := size

/-- The call tells the size of `base` to an operation that may send it back. -/
def reads (base : String) : Call → Prop
  | .imageInfo image => image = base
  | .listImages => True
  | _ => False

/-- The call writes the metadata of `base` and sends the size `n` with it. -/
def sends (base : String) : Call → Nat → Prop
  | .putImage image body, n => image = base ∧ body.metadata.isSome ∧ body.size = some n
  | _, _ => False

/-- The listing gives `base` the size `n`. -/
def Listed (base : String) (infos : List Info) (n : Nat) : Prop :=
  ∃ info ∈ infos, info.name = base ∧ info.size = n

/-- The answer reports the size `n` of `base`. -/
def reports (base : String) : (c : Call) → Except Exc (Result c) → Nat → Prop
  | .imageInfo _, .ok info, n => info.size = n
  | .listImages, .ok infos, n => Listed base infos n
  | _, _, _ => False

/-- A resize of `base` takes effect only while every size that some task carries is the new one. -/
def NoneCarried (base : String) (s : Pool) (label : Nat × Choice) : Prop :=
  ∀ p n, s.threads[label.1]? = some p → resizing base p label.2 = some n →
    ∀ q ∈ s.threads, ∀ m, Carries (reads base) (sends base) m q → m = n

/-- The call neither removes `base` nor rolls it back. -/
def Keeps (base : String) : Call → Prop
  | .remove image => image ≠ base
  | .snapRollback image _ => image ≠ base
  | _ => True

/-- What every task keeps to: `base` is neither removed nor rolled back, a size that is sent was
read, and no size is carried before the first read. -/
structure Disciplined {α : Type} (base : String) (p : Op α) : Prop where
  keeps : AllCalls (Keeps base) p
  fresh : Fresh (reads base) (sends base) (reports base) p
  empty : ∀ n, ¬Carries (reads base) (sends base) n p

namespace Disciplined

variable {α β : Type} {base : String}

theorem ret (value : α) : Disciplined base (.ret value) := ⟨trivial, trivial, by simp⟩

theorem raise (error : Exc) : Disciplined base (.raise error : Op α) := ⟨trivial, trivial, by simp⟩

/-- A call that keeps the image and sends no size. -/
theorem perform {c : Call} (hkeeps : Keeps base c) (hsends : ∀ n, ¬sends base c n) :
    Disciplined base (perform c) where
  keeps := .perform hkeeps
  fresh reply := by
    cases reply with
    | ok result => exact ⟨fun _ _ h => absurd h Prog.not_carries_ret, trivial⟩
    | error error => exact ⟨fun _ _ h => absurd h Prog.not_carries_raise, trivial⟩
  empty n := Prog.not_carries_of_allCalls (.perform (hsends n))

/-- A sequence. -/
theorem bind {p : Op α} {f : α → Op β} (hp : Disciplined base p)
    (hf : ∀ result, Disciplined base (f result)) : Disciplined base (p >>= f) where
  keeps := hp.keeps.bind fun result => (hf result).keeps
  fresh := hp.fresh.bind (fun result => (hf result).fresh) fun result => (hf result).empty
  empty n h := by
    obtain hfirst | ⟨result, hsecond⟩ := h.of_bind
    · exact hp.empty n hfirst
    · exact (hf result).empty n hsecond

/-- A handled program. -/
theorem tryCatch {p : Op α} {handler : Exc → Op α} (hp : Disciplined base p)
    (hhandler : ∀ error, Disciplined base (handler error)) :
    Disciplined base (MonadExcept.tryCatch p handler) where
  keeps := hp.keeps.tryCatch fun error => (hhandler error).keeps
  fresh := hp.fresh.tryCatch (fun error => (hhandler error).fresh) fun error =>
    (hhandler error).empty
  empty n h := by
    obtain hfirst | ⟨error, hsecond⟩ := h.of_tryCatch
    · exact hp.empty n hfirst
    · exact (hhandler error).empty n hsecond

theorem exceptBackend {p : Op α} {handler : BackendError → Op α} (hp : Disciplined base p)
    (hhandler : ∀ error, Disciplined base (handler error)) :
    Disciplined base (exceptBackend p handler) := by
  refine hp.tryCatch fun error => ?_
  cases error with
  | backend error => exact hhandler error
  | unimplemented | calledProcess | other => exact raise _

theorem ite {c : Prop} [Decidable c] {p q : Op α} (hp : Disciplined base p)
    (hq : Disciplined base q) : Disciplined base (if c then p else q) := by
  split
  · exact hp
  · exact hq

end Disciplined

section Operations

variable {base : String}

/-- `image_meta_set` sends the size it is given, to the image it is given. -/
theorem carries_imageMetaSet {image : String} {metadata : Desired} {size n : Nat}
    (h : Carries (reads base) (sends base) n (RestBackend.imageMetaSet image metadata size)) :
    image = base ∧ n = size := by
  obtain hread | ⟨current, hput⟩ := h.of_bind
  · refine absurd hread (Prog.not_carries_of_allCalls (.tryCatch (.bind (.perform ?_) ?_) ?_))
    · exact fun h => h
    · exact fun _ => trivial
    · intro error
      cases error <;> trivial
  · cases hput with
    | here hsends => exact ⟨hsends.1, (Option.some.inj hsends.2.2).symm⟩
    | later reply _ hrest => cases reply <;> cases hrest

/-- `image_meta_set` keeps the image and reads no size. -/
theorem allCalls_imageMetaSet {image : String} {metadata : Desired} {size : Nat} :
    AllCalls (fun c => Keeps base c ∧ ¬reads base c)
      (RestBackend.imageMetaSet image metadata size) := by
  refine .bind (.tryCatch (.bind (.perform ⟨trivial, fun h => h⟩) fun _ => trivial) ?_)
    fun _ => .perform ⟨trivial, fun h => h⟩
  intro error
  cases error <;> trivial

/-- A read-modify-write sends the size that its own read reported. -/
theorem disciplined_rmw (mutate : Desired → Desired) : Disciplined base (rmw base mutate) where
  keeps := .bind (.perform trivial) fun _ => allCalls_imageMetaSet.mono fun _ h => h.1
  fresh reply := by
    cases reply with
    | error error => exact ⟨fun _ _ h => absurd h Prog.not_carries_raise, trivial⟩
    | ok info =>
        refine ⟨fun _ n h => (carries_imageMetaSet h).2.symm, ?_⟩
        exact .of_quiet (allCalls_imageMetaSet.mono fun _ h => h.2)
  empty n h := Prog.sends_of_carries_reads h rfl

/-- The parts of an operation are disciplined, and so is what they are put together to. -/
theorem closed_disciplined : Closed base fun p => Disciplined base p where
  ret := .ret
  raise := .raise
  perform {c} hplain := by
    refine .perform ?_ fun n hsends => ?_
    · cases c <;> first | exact hplain | trivial
    · cases c <;> first | exact hplain | exact hsends
  bind := .bind
  tryCatch := .tryCatch
  rmw := disciplined_rmw

/-- A call that leaves the image's size alone in every way. -/
def Silent (base : String) (c : Call) : Prop :=
  Keeps base c ∧ ¬reads base c ∧ ∀ n, ¬sends base c n

theorem silent_gcSpawn (job : Job) : Silent base (.gcSpawn job) :=
  ⟨trivial, fun h => h, fun _ h => h⟩

/-- The prune keeps the image and reads no size. -/
theorem allCalls_pruneOrphans (info : Info) :
    AllCalls (fun c => Keeps base c ∧ ¬reads base c) (pruneOrphans info) := by
  dsimp only [pruneOrphans]
  split
  · trivial
  · refine .tryCatch (.bind allCalls_imageMetaSet fun _ => trivial) fun error => ?_
    cases error <;> trivial

/-- The prune sends the size that the listing gave of its image. -/
theorem carries_pruneOrphans {info : Info} {n : Nat}
    (h : Carries (reads base) (sends base) n (pruneOrphans info)) :
    info.name = base ∧ info.size = n := by
  dsimp only [pruneOrphans] at h
  split at h
  · cases h
  · obtain hset | ⟨error, hhandler⟩ := h.of_tryCatch
    · obtain hset | ⟨_, hrest⟩ := hset.of_bind
      · obtain ⟨hname, hsize⟩ := carries_imageMetaSet hset
        exact ⟨hname, hsize.symm⟩
      · cases hrest
    · cases error <;> cases hhandler

/-- What follows the listing keeps the image and reads no size. -/
theorem allCalls_lsImages (sr : SrMeta) (targets : List Job) (infos : List Info) :
    AllCalls (fun c => Keeps base c ∧ ¬reads base c) (lsImages sr targets infos) := by
  induction infos generalizing targets with
  | nil => trivial
  | cons info infos ih =>
      unfold lsImages
      split
      · exact .bind ((allCalls_requeue silent_gcSpawn _ _).mono fun _ h => ⟨h.1, h.2.1⟩)
          fun targets => ih targets
      · split
        · exact .bind (allCalls_pruneOrphans info) fun _ =>
            .bind ((allCalls_lsSnapshots silent_gcSpawn _ _ _ _ _).mono fun _ h => ⟨h.1, h.2.1⟩)
              fun _ =>
              .bind (ih _) fun _ => trivial
        · exact ih targets

/-- What follows the listing sends sizes that the listing gave. -/
theorem carries_lsImages {sr : SrMeta} {targets : List Job} {infos : List Info} {n : Nat}
    (h : Carries (reads base) (sends base) n (lsImages sr targets infos)) :
    Listed base infos n := by
  have hsilent : ∀ {α : Type} {p : Op α}, AllCalls (Silent base) p →
      ¬Carries (reads base) (sends base) n p := fun hp =>
    Prog.not_carries_of_allCalls (hp.mono fun _ h => h.2.2 n)
  induction infos generalizing targets with
  | nil => cases h
  | cons info infos ih =>
      have hlater : Listed base infos n → Listed base (info :: infos) n := fun hlisted => by
        obtain ⟨other, hmem, hother⟩ := hlisted
        exact ⟨other, List.mem_cons_of_mem _ hmem, hother⟩
      unfold lsImages at h
      split at h
      · obtain hrequeue | ⟨_, hrest⟩ := h.of_bind
        · exact absurd hrequeue (hsilent (allCalls_requeue silent_gcSpawn _ _))
        · exact hlater (ih hrest)
      · split at h
        · obtain hprune | ⟨_, hrest⟩ := h.of_bind
          · exact ⟨info, List.mem_cons_self, carries_pruneOrphans hprune⟩
          · obtain hsnaps | ⟨_, hrest⟩ := hrest.of_bind
            · exact absurd hsnaps (hsilent (allCalls_lsSnapshots silent_gcSpawn _ _ _ _ _))
            · obtain hrest | ⟨_, hret⟩ := hrest.of_bind
              · exact hlater (ih hrest)
              · cases hret
        · exact hlater (ih h)

/-- The listing is a read, and what follows it sends only what it reported. -/
theorem disciplined_ls (sr : SrMeta) : Disciplined base (ls sr) := by
  have hlist : ∀ targets, Disciplined base (do
      let images : List Info ← exceptBackend (perform .listImages) fun error =>
        throw (.other ("SR.ls failed: " ++ error.message))
      lsImages sr targets images) := by
    intro targets
    refine ⟨⟨trivial, fun reply => ?_⟩, fun reply => ?_,
      fun n h => Prog.sends_of_carries_reads h trivial⟩
    · cases reply with
      | ok infos => exact (allCalls_lsImages sr targets infos).mono fun _ h => h.1
      | error error => cases error <;> trivial
    · cases reply with
      | ok infos =>
          exact ⟨fun _ _ h => carries_lsImages h,
            .of_quiet ((allCalls_lsImages sr targets infos).mono fun _ h => h.2)⟩
      | error error =>
          cases error <;> exact ⟨fun _ _ h => absurd h Prog.not_carries_raise, trivial⟩
  exact .bind (.perform trivial fun _ h => h) hlist

/-- Every metadata operation on `base` is disciplined. -/
theorem disciplined_metaOp (sr : SrMeta) {op : MetaOp} (hon : op.base?.getD base = base) :
    Disciplined base (op.prog sr) := by
  cases op with
  | set key k v | unset key k | setName key name | setDescription key desc =>
      simp only [MetaOp.base?, Option.getD_some] at hon
      subst hon
      exact disciplined_rmw _
  | enableCbt key => exact closed_disciplined.enableCbt sr hon
  | disableCbt key => exact closed_disciplined.disableCbt hon
  | dataDestroy key => exact closed_disciplined.dataDestroy hon
  | snapshot key => exact .bind (closed_disciplined.snapshot sr hon) fun _ => .ret ()
  | destroySnap image snap =>
      simp only [MetaOp.base?, Option.getD_some] at hon
      subst hon
      exact closed_disciplined.destroySnap snap
  | ls => exact .bind (disciplined_ls sr) fun _ => .ret ()

/-- A resize sends no metadata, so the size it sends is not one that it carries. -/
theorem disciplined_resize (key : String) (newSize : Nat) :
    Disciplined base (resize key newSize) :=
  .ite (.raise _) (.exceptBackend (.perform trivial fun _ h => by simp [sends] at h) fun _ =>
    .raise _)

/-- Every task on `base` is disciplined. -/
theorem disciplined_task (sr : SrMeta) {task : Task} (hon : task.On base) :
    Disciplined base (task.prog sr) := by
  cases task with
  | resize key newSize => exact disciplined_resize key newSize
  | metadata op => exact disciplined_metaOp sr hon

end Operations

/-- The size of an image after a PUT. -/
theorem size_put (img : Image) (body : PutBody) :
    (img.put body).size = body.size.getD img.size := by
  cases hsize : body.size <;> cases hmeta :
    body.metadata <;> simp [Image.put, hsize, hmeta, Image.resize]

/-- The size and the metadata of an image are the same. -/
def SameHead (img img' : Image) : Prop := img'.size = img.size ∧ img'.metadata = img.metadata

/-- A change of one image that keeps its size and its metadata keeps those of every image. -/
theorem sameHead_update {w after : World} {image base : String} {f : Image → Option Image}
    {img : Image} (hbase : w.images.lookup base = some img)
    (hupdate : w.update image f = some after)
    (hf : ∀ img img', f img = some img' → SameHead img img') :
    ∃ img', after.images.lookup base = some img' ∧ SameHead img img' := by
  obtain ⟨img₀, img', himg₀, hf', rfl⟩ := World.update_eq_some_iff.mp hupdate
  by_cases himage : base = image
  · subst himage
    cases himg₀.symm.trans hbase
    exact ⟨img', AList.lookup_insert _, hf img img' hf'⟩
  · exact ⟨img, by simpa [AList.lookup_insert_ne himage] using hbase, rfl, rfl⟩

/-- The body of a PUT on `base`. -/
def putOn (base : String) : Call → Option PutBody
  | .putImage image body => if image = base then some body else none
  | _ => none

/-- The base after a call that neither removes it nor rolls it back: a PUT on it edits it, and every
other call leaves its size and its metadata alone. -/
theorem effect_base {w after : World} {base : String} {img : Image} {c : Call} {result : Result c}
    (hbase : w.images.lookup base = some img) (hkeeps : Keeps base c)
    (heffect : effect w c = some (result, after)) :
    ∃ img', after.images.lookup base = some img' ∧
      match putOn base c with
      | some body => img' = img.put body
      | none => SameHead img img' := by
  have hsame : ∃ img', w.images.lookup base = some img' ∧ SameHead img img' :=
    ⟨img, hbase, rfl, rfl⟩
  cases c with
  | uuid4 | gen | imageDiff => cases heffect
  | imageInfo image | metaRead image =>
      obtain ⟨_, -, heq⟩ := Option.map_eq_some_iff.mp heffect
      cases heq
      exact hsame
  | listImages | findDevice | tapFind | gcSpawn | gcSweep =>
      cases heffect
      exact hsame
  | unmap image =>
      cases heffect
      split <;> exact hsame
  | putImage image body =>
      obtain ⟨_, hupdate, heq⟩ := Option.map_eq_some_iff.mp heffect
      cases heq
      obtain ⟨img₀, img', himg₀, hput, rfl⟩ := World.update_eq_some_iff.mp hupdate
      cases hput
      by_cases himage : base = image
      · subst himage
        cases himg₀.symm.trans hbase
        exact ⟨_, AList.lookup_insert _, by simp [putOn]⟩
      -- a PUT on another image, a companion for one
      · refine ⟨img, by simpa [AList.lookup_insert_ne himage] using hbase, ?_⟩
        rw [putOn, if_neg (Ne.symm himage)]
        exact ⟨rfl, rfl⟩
  | create image size features =>
      simp only [effect, Option.ite_none_left_eq_some, Option.some.injEq] at heffect
      obtain ⟨hnew, -, rfl⟩ := heffect
      have hne : base ≠ image := by
        rintro rfl
        exact hnew (AList.lookup_isSome.mp (by simp [hbase]))
      exact ⟨img, by simpa [AList.lookup_insert_ne hne] using hbase, rfl, rfl⟩
  | remove image =>
      simp only [effect, Option.bind_eq_some_iff, Option.ite_none_right_eq_some,
        Option.some.injEq] at heffect
      obtain ⟨_, -, -, -, rfl⟩ := heffect
      have hne : base ≠ image := Ne.symm hkeeps
      exact ⟨img, by simpa [AList.lookup_erase_ne hne] using hbase, rfl, rfl⟩
  | snapCreate image snap =>
      obtain ⟨_, hupdate, heq⟩ := Option.map_eq_some_iff.mp heffect
      cases heq
      exact sameHead_update hbase hupdate fun _ _ h => by
        rw [(Image.snapCreate_eq_some_iff.mp h).2]
        exact ⟨rfl, rfl⟩
  | snapRemove image snap =>
      obtain ⟨_, hupdate, heq⟩ := Option.map_eq_some_iff.mp heffect
      cases heq
      refine sameHead_update hbase hupdate fun _ _ h => ?_
      obtain ⟨_, -, -, rfl⟩ := Image.snapRemove_eq_some_iff.mp h
      exact ⟨rfl, rfl⟩
  | snapSetProtected image snap on =>
      obtain ⟨_, hupdate, heq⟩ := Option.map_eq_some_iff.mp heffect
      cases heq
      refine sameHead_update hbase hupdate fun _ _ h => ?_
      obtain ⟨_, -, -, rfl⟩ := Image.snapSetProtected_eq_some_iff.mp h
      exact ⟨rfl, rfl⟩
  | snapRollback image snap =>
      obtain ⟨_, hupdate, heq⟩ := Option.map_eq_some_iff.mp heffect
      cases heq
      obtain ⟨img₀, img', -, -, rfl⟩ := World.update_eq_some_iff.mp hupdate
      have hne : base ≠ image := Ne.symm hkeeps
      exact ⟨img, by simpa [AList.lookup_insert_ne hne] using hbase, rfl, rfl⟩
  | snapRename image snap newSnap =>
      obtain ⟨_, hupdate, heq⟩ := Option.map_eq_some_iff.mp heffect
      cases heq
      refine sameHead_update hbase hupdate fun _ _ h => ?_
      obtain ⟨-, -, rfl⟩ := Image.snapRename_eq_some_iff.mp h
      exact ⟨rfl, rfl⟩
  | map image =>
      simp only [effect, Option.ite_none_right_eq_some, Option.some.injEq] at heffect
      obtain ⟨-, -, rfl⟩ := heffect
      exact hsame
  | cbtCreate image blocks =>
      obtain ⟨_, hupdate, heq⟩ := Option.map_eq_some_iff.mp heffect
      cases heq
      refine sameHead_update hbase hupdate fun _ _ h => ?_
      cases h
      exact ⟨rfl, rfl⟩
  | cbtSet image size =>
      obtain ⟨_, hupdate, heq⟩ := Option.map_eq_some_iff.mp heffect
      cases heq
      refine sameHead_update hbase hupdate fun _ _ h => ?_
      obtain ⟨_, -, rfl⟩ := Image.cbtSet_eq_some_iff.mp h
      exact ⟨rfl, rfl⟩
  | cbtGet image =>
      simp only [effect, Option.bind_eq_some_iff, Option.map_eq_some_iff] at heffect
      obtain ⟨_, -, _, -, -, rfl⟩ := heffect
      exact hsame
  | tapPause image | tapUnpause image log =>
      obtain ⟨_, hupdate, heq⟩ := Option.map_eq_some_iff.mp heffect
      cases heq
      obtain ⟨_, -, rfl⟩ := World.updateTap_eq_some_iff.mp hupdate
      exact hsame

/-- The size that a PUT on `base` carries. -/
def sentSize (base : String) : Call → Option Nat
  | .putImage image body => if image = base then body.size else none
  | _ => none

/-- The size that a call sends is that of its body. -/
theorem sentSize_eq (base : String) (c : Call) :
    sentSize base c = (putOn base c).bind PutBody.size := by
  cases c with
  | putImage image body =>
      by_cases himage : image = base
      · simp [sentSize, putOn, himage]
      · simp [sentSize, putOn, himage]
  | _ => rfl

/-- The only calls that change the size of `base`, of those that neither remove it nor roll it back,
are the PUTs on it that carry a size. -/
theorem effect_size {w after : World} {base : String} {img : Image} {c : Call} {result : Result c}
    (hbase : w.images.lookup base = some img) (hkeeps : Keeps base c)
    (heffect : effect w c = some (result, after)) :
    ∃ img', after.images.lookup base = some img' ∧
      img'.size = (sentSize base c).getD img.size := by
  obtain ⟨img', himg', hhead⟩ := effect_base hbase hkeeps heffect
  refine ⟨img', himg', ?_⟩
  rw [sentSize_eq]
  cases hput : putOn base c with
  | none =>
      rw [hput] at hhead
      exact hhead.1
  | some body =>
      rw [hput] at hhead
      rw [hhead, size_put]
      rfl

/-- What a read reports is the size of the image. -/
theorem reports_size {w after : World} {base : String} {img : Image} {c : Call} {result : Result c}
    {n : Nat} (hbase : w.images.lookup base = some img) (hreads : reads base c)
    (heffect : effect w c = some (result, after)) (hreports : reports base c (.ok result) n) :
    n = img.size := by
  cases c with
  | imageInfo image =>
      cases hreads
      obtain ⟨img', himg', heq⟩ := Option.map_eq_some_iff.mp heffect
      cases himg'.symm.trans hbase
      cases heq
      exact hreports.symm
  | listImages =>
      cases heffect
      obtain ⟨info, hmem, hname, rfl⟩ := hreports
      obtain ⟨⟨name, img'⟩, hentry, rfl⟩ := List.mem_map.mp hmem
      cases hname
      cases (AList.mem_lookup_iff.mpr hentry).symm.trans hbase
      rfl
  | _ => exact absurd hreads (by simp [reads])

/-- The size of the image is that of its last resize, every size that a task carries is that size
too, and the tasks keep to their discipline. -/
structure Inv (base : String) (s : Pool) : Prop where
  size : ∃ img, s.world.images.lookup base = some img ∧ img.size = s.resized
  keeps : ∀ p ∈ s.threads, AllCalls (Keeps base) p
  fresh : ∀ p ∈ s.threads, Fresh (reads base) (sends base) (reports base) p
  carried : ∀ p ∈ s.threads, ∀ n, Carries (reads base) (sends base) n p → n = s.resized

/-- A step of a task, taken apart. -/
theorem step_cases {base : String} {s s' : Pool} {label : Nat × Choice}
    (hstep : step base s label = some s') :
    ∃ c resume reply w, s.threads[label.1]? = some (.call c resume) ∧
      handle label.2 s.world c = some (reply, w) ∧
      s' = { world := w, threads := s.threads.set label.1 (resume reply),
             resized := (resizing base (.call c resume) label.2).getD s.resized } := by
  simp only [step, Option.bind_eq_some_iff, Option.map_eq_some_iff] at hstep
  obtain ⟨p, hp, ⟨q, w⟩, hnext, rfl⟩ := hstep
  obtain ⟨c, resume, reply, rfl, hhandle, rfl⟩ := Prog.next_eq_some_iff.mp hnext
  exact ⟨c, resume, reply, w, hp, hhandle, rfl⟩

/-- A PUT on `base` that carries a size is a resize, or it sends the size with metadata. -/
theorem sentSize_cases (base : String) (c : Call) :
    sentSize base c = resizeOf base c ∨
      ∃ n, sentSize base c = some n ∧ resizeOf base c = none ∧ sends base c n := by
  cases c with
  | putImage image body =>
      by_cases himage : image = base
      · cases hmeta : body.metadata with
        | none => exact .inl (by simp [sentSize, resizeOf, himage, hmeta])
        | some given =>
            cases hsize : body.size with
            | none => exact .inl (by simp [sentSize, resizeOf, hmeta, hsize])
            | some n =>
                exact .inr ⟨n, by simp [sentSize, himage, hsize],
                  by simp [resizeOf, hmeta], himage, by simp [hmeta], hsize⟩
      · exact .inl (by simp [sentSize, resizeOf, himage])
  | _ => exact .inl rfl

/-- The size after a step is that of the last resize. -/
theorem Inv.size_step {base : String} {s : Pool} (h : Inv base s) {choice : Choice} {c : Call}
    {resume : Except Exc (Result c) → Op Unit} {reply : Except Exc (Result c)} {w : World}
    (hmem : Prog.call c resume ∈ s.threads) (hhandle : handle choice s.world c = some (reply, w)) :
    ∃ img, w.images.lookup base = some img ∧
      img.size = (resizing base (.call c resume) choice).getD s.resized := by
  obtain ⟨img, himg, hsize⟩ := h.size
  obtain ⟨result, rfl, rfl, heffect⟩ | ⟨hchoice, rfl, -⟩ := handle_cases hhandle
  · obtain ⟨img', himg', hsize'⟩ := effect_size himg (h.keeps _ hmem).1 heffect
    refine ⟨img', himg', ?_⟩
    obtain hresize | ⟨n, hsent, hresize, hsends⟩ := sentSize_cases base c
    · simp [resizing, Prog.firstCall, hsize', hresize, hsize]
    · -- a metadata write sends what it carries, which is the size the image has
      have hn := h.carried _ hmem n (.here hsends)
      simp [resizing, Prog.firstCall, hsize', hsent, hresize, hn]
  · refine ⟨img, himg, ?_⟩
    cases choice with
    | ok => exact absurd rfl hchoice
    | fail | fresh | diff | tap => simpa [resizing] using hsize

/-- The size that the task which moved carries afterwards: what it carried before, or what its call
reported. -/
theorem Inv.carried_moved {base : String} {s : Pool} (h : Inv base s) {choice : Choice} {c : Call}
    {resume : Except Exc (Result c) → Op Unit} {reply : Except Exc (Result c)} {w : World} {n : Nat}
    (hmem : Prog.call c resume ∈ s.threads) (hhandle : handle choice s.world c = some (reply, w))
    (hcarries : Carries (reads base) (sends base) n (resume reply)) :
    Carries (reads base) (sends base) n (.call c resume) ∨ (reads base c ∧ n = s.resized) := by
  by_cases hreads : reads base c
  · have hreports := ((h.fresh _ hmem) reply).1 hreads n hcarries
    obtain ⟨img, himg, hsize⟩ := h.size
    refine .inr ⟨hreads, ?_⟩
    obtain ⟨result, -, rfl, heffect⟩ |
        ⟨-, -, ⟨error, -, rfl⟩ | rfl | rfl | ⟨_, _, _, _, _, _, rfl⟩ | ⟨_, _, _, _, rfl, -⟩⟩ :=
      handle_cases hhandle
    · exact (reports_size himg hreads heffect hreports).trans hsize
    · cases c <;> exact hreports.elim
    all_goals exact hreads.elim
  · exact .inl (.later reply hreads hcarries)

/-- A read is not a resize. -/
theorem resizing_of_reads {base : String} {c : Call} {resume : Except Exc (Result c) → Op Unit}
    {choice : Choice} (hreads : reads base c) : resizing base (.call c resume) choice = none := by
  cases choice with
  | ok => cases c <;> first | rfl | exact hreads.elim
  | _ => rfl

/-- A step in which no resize takes effect while another size is carried keeps the invariant. -/
theorem Inv.step {base : String} {s s' : Pool} {label : Nat × Choice} (h : Inv base s)
    (hnone : NoneCarried base s label) (hstep : step base s label = some s') : Inv base s' := by
  obtain ⟨c, resume, reply, w, hthread, hhandle, rfl⟩ := step_cases hstep
  have hmem : Prog.call c resume ∈ s.threads := List.mem_of_getElem? hthread
  have hthreads : ∀ p ∈ s.threads.set label.1 (resume reply), p ∈ s.threads ∨ p = resume reply :=
    fun p hp => List.mem_or_eq_of_mem_set hp
  refine ⟨h.size_step hmem hhandle, fun p hp => ?_, fun p hp => ?_, fun p hp n hcarries => ?_⟩
  · obtain hp | rfl := hthreads p hp
    · exact h.keeps p hp
    · exact (h.keeps _ hmem).2 reply
  · obtain hp | rfl := hthreads p hp
    · exact h.fresh p hp
    · exact ((h.fresh _ hmem) reply).2
  · cases hres : resizing base (.call c resume) label.2 with
    | none =>
        obtain hp | rfl := hthreads p hp
        · exact h.carried p hp n hcarries
        · obtain hbefore | ⟨-, hn⟩ := h.carried_moved hmem hhandle hcarries
          · exact h.carried _ hmem n hbefore
          · exact hn
    | some m =>
        have hall := hnone _ m hthread hres
        obtain hp | rfl := hthreads p hp
        · exact hall p hp n hcarries
        · obtain hbefore | ⟨hreads, -⟩ := h.carried_moved hmem hhandle hcarries
          · exact hall _ hmem n hbefore
          · rw [resizing_of_reads hreads] at hres
            cases hres

/-- **Metadata updates keep the size.** In every interleaving, call by call and with any calls
failing, of resizes of `base` and metadata operations on it, in which no resize to another size
takes effect while an operation carries a size it has read, the size of the image is that of the
last resize. -/
theorem size_kept {base : String} {sr : SrMeta} {w : World} {img : Image} {tasks : List Task}
    {labels : List (Nat × Choice)} {s : Pool} (hbase : w.images.lookup base = some img)
    (hon : ∀ task ∈ tasks, task.On base)
    (hrun : Run.run (step base) (start sr w tasks img.size) labels = some s)
    (hnone : Run.Along (step base) (NoneCarried base) (start sr w tasks img.size) labels) :
    ∃ img', s.world.images.lookup base = some img' ∧ img'.size = s.resized := by
  have hdisciplined : ∀ p ∈ tasks.map (Task.prog sr), Disciplined base p := by
    intro p hp
    obtain ⟨task, htask, rfl⟩ := List.mem_map.mp hp
    exact disciplined_task sr (hon task htask)
  have hinit : Inv base (start sr w tasks img.size) :=
    { size := ⟨img, hbase, rfl⟩
      keeps := fun p hp => (hdisciplined p hp).keeps
      fresh := fun p hp => (hdisciplined p hp).fresh
      carried := fun p hp n h => absurd h ((hdisciplined p hp).empty n) }
  exact (Run.run_invariant (fun _ _ _ h hg hs => Inv.step h hg hs) hinit hnone hrun).size

/-- A disk of one block, `Volume.resize` to two blocks and `Volume.set` of a key. -/
def growAndSet : Pool :=
  start { srUuid := "sr", pool := "rbd" } { images := AList.singleton "vdi" { size := 65536 } }
    [.resize "vdi" 131072, .metadata (.set "vdi" "origin" "backup")] 65536

/-- All tasks have finished, after a resize to two blocks, and the image has this size. -/
def finishedWith (size : Nat) (s : Pool) : Bool :=
  s.threads.all Prog.finished && s.resized == 131072 &&
    (s.world.images.lookup "vdi").any fun img => img.size == size

/-- The step resizes nothing. -/
def NoResize (base : String) (s : Pool) (label : Nat × Choice) : Prop :=
  (s.threads[label.1]?.bind fun p => resizing base p label.2) = none

instance (base : String) (s : Pool) (label : Nat × Choice) : Decidable (NoResize base s label) :=
  inferInstanceAs (Decidable (_ = _))

/-- The resize takes effect before the first call of the metadata operation. -/
theorem size_kept_resize_first :
    ∃ s, Run.run (step "vdi") growAndSet [(0, .ok), (1, .ok), (1, .ok), (1, .ok)] = some s ∧
      s.threads.all Prog.finished = true ∧ s.resized = 131072 ∧
        ∃ img, s.world.images.lookup "vdi" = some img ∧ img.size = s.resized := by
  have hrun : ((step "vdi" growAndSet (0, .ok)).bind fun s =>
      Run.checked (step "vdi") (NoResize "vdi") s [(1, .ok), (1, .ok), (1, .ok)]).any
        (finishedWith 131072) = true := by
    decide +kernel
  simp only [Option.any_eq_true, Option.bind_eq_some_iff, finishedWith, Bool.and_eq_true,
    beq_iff_eq] at hrun
  obtain ⟨s, ⟨s₁, hfirst, hrest⟩, ⟨hdone, hresized⟩, -⟩ := hrun
  obtain ⟨hrest, hnoResize⟩ := Run.run_of_checked hrest
  have hrun := Run.run_cons_iff.mpr ⟨s₁, hfirst, hrest⟩
  have hon : ∀ task ∈ [Task.resize "vdi" 131072, .metadata (.set "vdi" "origin" "backup")],
      task.On "vdi" := by
    simp only [List.forall_mem_cons, List.not_mem_nil, false_imp_iff, implies_true, and_true]
    exact ⟨rfl, rfl⟩
  have hnone : Run.Along (step "vdi") (NoneCarried "vdi") growAndSet
      [(0, .ok), (1, .ok), (1, .ok), (1, .ok)] := by
    refine ⟨fun _ n _ _ q hq m hcarries => ?_, fun next hnext => ?_⟩
    · obtain ⟨task, htask, rfl⟩ := List.mem_map.mp hq
      exact absurd hcarries ((disciplined_task _ (hon task htask)).empty m)
    · cases hfirst.symm.trans hnext
      refine hnoResize.mono fun state label hquiet p n hp hres => ?_
      simp [NoResize, hp, hres] at hquiet
  have hbase : growAndSet.world.images.lookup "vdi" = some { size := 65536 } := rfl
  exact ⟨s, hrun, hdone, hresized, size_kept hbase hon hrun hnone⟩

/-- The metadata operation reads the size, the resize takes effect, and the write of the metadata
sends the size that was read: the grown image is cut back. -/
theorem size_cut_by_metadata_write :
    ∃ s, Run.run (step "vdi") growAndSet [(1, .ok), (0, .ok), (1, .ok), (1, .ok)] = some s ∧
      s.threads.all Prog.finished = true ∧ s.resized = 131072 ∧
        ∃ img, s.world.images.lookup "vdi" = some img ∧ img.size = 65536 := by
  have hrun : (Run.run (step "vdi") growAndSet [(1, .ok), (0, .ok), (1, .ok), (1, .ok)]).any
      (finishedWith 65536) = true := by
    decide +kernel
  simp only [Option.any_eq_true, finishedWith, Bool.and_eq_true, beq_iff_eq] at hrun
  obtain ⟨s, hrun, ⟨hdone, hresized⟩, img, himg, hsize⟩ := hrun
  exact ⟨s, hrun, hdone, hresized, img, himg, hsize⟩

end XcpCephRbd.Volume.Size
