import XcpCephRbd.Volume.Size

/-!
# Metadata operations that run side by side

Every write of image-meta is a read of the dictionary, a second read inside `image_meta_set`, and
the write of the whole dictionary as it was read, changed in the operation's own keys. `serial`
follows what the dictionary would be if each write only made the changes of its own operation, one
write after the other. `updates_kept` says that the dictionary is this one in every interleaving,
call by call, of metadata operations in which each write finds the keys that its operation has read
as they were read. The operations are those of `Size`; on librbd they are the same with
`LocalBackend.image_meta_set` in the place of the REST one (`onLocal`).
-/

namespace XcpCephRbd.Volume.Updates

open Datapath (SrMeta)
open Prog (AllCalls)
open Size (MetaOp Keeps putOn effect_base)

/-! ## The two backends -/

/-- `metadata_set(key, value)` and `metadata_remove(key)` of librbd. -/
def metadataEdit (image : String) (entry : String × Option String) : Op Unit :=
  perform (.putImage image { metadata := some (AList.singleton entry.1 entry.2) })

/-- `LocalBackend.image_meta_set(pool, image, metadata, size)`. -/
def LocalBackend.imageMetaSet (image : String) (metadata : Desired) : Op Unit := do
  let info : Info ← perform (.metaRead image)
  (info.metadata.keys.filter fun key => key ∉ metadata).forM fun key =>
    metadataEdit image (key, none)
  metadata.entries.forM fun entry => metadataEdit image (entry.1, some (entry.2.getD ""))

/-- The single edits that librbd makes where REST is given a dictionary with nulls: a null for a
current key stands for its removal, any other one for the empty text. -/
def localEdits (current : Dict) (given : Desired) : List (String × Option String) :=
  given.entries.map fun entry =>
    (entry.1, if entry.2.isNone ∧ entry.1 ∈ current then none else some (entry.2.getD ""))

/-- What the read of `image_meta_set` leaves behind on librbd, where its failure is not passed
over. -/
def rereadReply : Except Exc Info → Except Exc Dict
  | .ok info => .ok info.metadata
  | .error (.backend error) => .error (.backend error)
  | .error _ => .ok ∅

/-- The operation with the metadata writes of `LocalBackend`; `current` is what the last read of
`image_meta_set` has left behind. -/
def onLocal {α : Type} : Except Exc Dict → Op α → Op α
  | _, .ret value => .ret value
  | _, .raise error => .raise error
  | _, .call (.metaRead image) resume =>
      .call (.metaRead image) fun reply => onLocal (rereadReply reply) (resume reply)
  | current, .call (.putImage image body) resume =>
      match body.metadata, current with
      | none, current => .call (.putImage image body) fun reply => onLocal current (resume reply)
      | some _, .error error => onLocal (.ok ∅) (resume (.error error))
      | some given, .ok current =>
          ((localEdits current given).forM (metadataEdit image)).finish fun reply =>
            onLocal (.ok ∅) (resume reply)
  | current, .call c resume => .call c fun reply => onLocal current (resume reply)

/-- The dictionary with its nulls: first the keys that it drops, then its own entries. -/
theorem entries_dropAbsent (current : Dict) (metadata : Desired) :
    (dropAbsent current metadata).entries =
      ((current.keys.filter fun key => key ∉ metadata).map fun key => ⟨key, none⟩) ++
        metadata.entries := by
  have hfold : ∀ keys : List String, keys.Nodup →
      (keys.foldr (fun key rest => if key ∈ metadata then rest else rest.insert key none)
        metadata).entries =
      ((keys.filter fun key => key ∉ metadata).map fun key => ⟨key, none⟩) ++
        metadata.entries := by
    intro keys hnodup
    induction keys with
    | nil => rfl
    | cons key keys ih =>
        obtain ⟨hnew, hnodup⟩ := List.nodup_cons.mp hnodup
        rw [List.foldr_cons, List.filter_cons]
        by_cases hkey : key ∈ metadata
        · simpa [hkey] using ih hnodup
        · -- the key is new to what has been put together so far
          have habsent : key ∉ (((keys.filter fun key => key ∉ metadata).map
              fun key => (⟨key, none⟩ : (_ : String) × Option String)) ++
                metadata.entries).keys := by
            simp only [List.keys, List.map_append, List.mem_append, List.map_map, List.mem_map,
              List.mem_filter, Function.comp_apply, not_or]
            refine ⟨fun ⟨other, hother, heq⟩ => hnew (heq ▸ hother.1),
              fun ⟨entry, hentry, heq⟩ => ?_⟩
            exact hkey (heq ▸ AList.mem_keys.mpr (List.mem_keys_of_mem hentry))
          simp only [hkey, if_false, AList.entries_insert, ih hnodup, not_false_eq_true,
            decide_true, if_true, List.map_cons, List.cons_append]
          rw [List.kerase_of_notMem_keys habsent]
  exact hfold current.keys current.nodupKeys

/-- The edits of a dictionary without nulls of its own: the removals, then its entries. -/
theorem localEdits_dropAbsent (current : Dict) {metadata : Desired}
    (hnull : ∀ entry ∈ metadata.entries, entry.2.isSome) :
    localEdits current (dropAbsent current metadata) =
      ((current.keys.filter fun key => key ∉ metadata).map fun key => (key, none)) ++
        metadata.entries.map fun entry => (entry.1, some (entry.2.getD "")) := by
  rw [localEdits, entries_dropAbsent, List.map_append, List.map_map]
  congr 1
  · refine List.map_congr_left fun key hkey => ?_
    simp [AList.mem_keys.mpr (List.mem_of_mem_filter hkey)]
  · refine List.map_congr_left fun entry hentry => ?_
    have hsome := hnull entry hentry
    simp [Option.isSome_iff_ne_none.mp hsome]

/-- On librbd an operation writes metadata with `LocalBackend.image_meta_set`. -/
theorem onLocal_imageMetaSet {α : Type} (current : Except Exc Dict) (image : String)
    {metadata : Desired} (hnull : ∀ entry ∈ metadata.entries, entry.2.isSome) (size : Nat)
    (rest : Except Exc Unit → Op α) :
    onLocal current ((RestBackend.imageMetaSet image metadata size).finish rest) =
      (LocalBackend.imageMetaSet image metadata).finish fun outcome =>
        onLocal (.ok ∅) (rest outcome) := by
  refine congrArg (Prog.call (Call.metaRead image)) (funext fun reply => ?_)
  cases reply with
  | error error => cases error <;> rfl
  | ok info =>
      have hprog : (localEdits info.metadata (dropAbsent info.metadata metadata)).forM
          (metadataEdit image) = (do
        (info.metadata.keys.filter fun key => key ∉ metadata).forM fun key =>
          metadataEdit image (key, none)
        metadata.entries.forM fun entry => metadataEdit image
          (entry.1, some (entry.2.getD ""))) := by
        rw [localEdits_dropAbsent info.metadata hnull]
        simp only [List.forM_eq_forM, List.forM_append, List.forM_map]
      show Prog.finish ((localEdits info.metadata (dropAbsent info.metadata metadata)).forM
        (metadataEdit image)) _ = Prog.finish _ _
      rw [hprog]
      congr 1
      funext outcome
      cases outcome <;> rfl

/-- The backend of an SR. -/
inductive Backend where
  | rest
  | librbd
  deriving DecidableEq, Repr

/-- The program of an operation on a backend. -/
def Backend.prog (be : Backend) (sr : SrMeta) (op : MetaOp) : Op Unit :=
  match be with
  | .rest => op.prog sr
  | .librbd => onLocal (.ok ∅) (op.prog sr)

/-! ## Operations side by side -/

/-- An operation under way: what is left of it, and the dictionary of the base as its own read and
the read of `image_meta_set` last showed it. A read of `image_meta_set` that fails shows nothing. -/
structure Thread where
  prog : Op Unit
  seen : Dict := ∅
  reread : Dict := ∅

/-- The dictionary that the answer to an operation's own read of `base` shows. -/
def seenAfter (base : String) (seen : Dict) : (c : Call) → Except Exc (Result c) → Dict
  | .imageInfo image, .ok info => if image = base then info.metadata else seen
  | .listImages, .ok infos =>
      ((infos.find? fun info => info.name == base).map Info.metadata).getD seen
  | _, _ => seen

/-- The dictionary that the answer to `image_meta_set`'s read of `base` shows. -/
def rereadAfter (base : String) (reread : Dict) : (c : Call) → Except Exc (Result c) → Dict
  | .metaRead image, .ok info => if image = base then info.metadata else reread
  | .metaRead image, .error _ => if image = base then ∅ else reread
  | _, _ => reread

/-- The dictionary that a call sends to `base`. -/
def written (base : String) (c : Call) : Option Desired := (putOn base c).bind PutBody.metadata

/-- The operation has read the key. -/
def Thread.Read (t : Thread) (key : String) : Prop := key ∈ t.seen ∨ key ∈ t.reread

instance (t : Thread) (key : String) : Decidable (t.Read key) := inferInstanceAs (Decidable (_ ∨ _))

/-- What a write leaves to be under a key, where it says anything about it: on REST the dictionary
stands for the whole one, so a key that was read and is not in it is to go. -/
def Thread.wants (be : Backend) (t : Thread) (given : Desired) (key : String) :
    Option (Option String) :=
  match given.lookup key with
  | some value => some value
  | none => if be = .rest ∧ t.Read key then some none else none

/-- What a write changes under a key on the operation's own account: a value that is handed back as
it was read is no change. -/
def Thread.edit (be : Backend) (t : Thread) (given : Desired) (key : String) :
    Option (Option String) :=
  (t.wants be given key).filter fun value => !decide (t.Read key ∧ value = t.seen.lookup key)

/-- Operations on a shared world, and the dictionary of the base that their own changes make, one
write after the other: each write counts with what it changes of what its operation has read, as it
would if nobody else had written since. -/
structure Pool where
  world : World
  threads : List Thread
  serial : String → Option String

/-- The dictionary that the first call of a thread sends to `base` if the call succeeds. -/
def sending (base : String) (t : Thread) : Choice → Option Desired
  | .ok => t.prog.firstCall.bind (written base)
  | _ => none

/-- An operation makes its next call. -/
def step (be : Backend) (base : String) (s : Pool) (label : Nat × Choice) : Option Pool :=
  s.threads[label.1]?.bind fun t =>
    match t.prog with
    | .call c resume => (handle label.2 s.world c).map fun (reply, w) =>
        { world := w
          threads := s.threads.set label.1
            { prog := resume reply
              seen := seenAfter base t.seen c reply
              reread := rereadAfter base t.reread c reply }
          serial := fun key => ((sending base t label.2).bind fun given =>
            t.edit be given key).getD (s.serial key) }
    | _ => none

/-- The operations before their first call. -/
def start (be : Backend) (sr : SrMeta) (w : World) (ops : List MetaOp) (metadata : Dict) :
    Pool where
  world := w
  threads := ops.map fun op => { prog := be.prog sr op }
  serial := metadata.lookup

/-- A write takes effect only while the keys that its operation has read and that it writes are as
the operation read them, and on REST as the read of `image_meta_set` showed them too. -/
def Current (be : Backend) (base : String) (s : Pool) (label : Nat × Choice) : Prop :=
  ∀ t ∈ s.threads[label.1]?, ∀ given ∈ sending base t label.2,
    ∀ img ∈ s.world.images.lookup base, ∀ key ∈ t.seen.keys ++ t.reread.keys,
      be = .rest ∨ key ∈ given →
        img.metadata.lookup key = t.seen.lookup key ∧
          (be = .rest → t.reread.lookup key = t.seen.lookup key)

/-! ## What a write says about the keys that were read -/

/-- On REST a write names every key that the read of `image_meta_set` before it has shown. -/
def Covers {α : Type} (base : String) : Dict → Op α → Prop
  | _, .ret _ => True
  | _, .raise _ => True
  | reread, .call c resume =>
      (∀ given, written base c = some given → ∀ key ∈ reread, key ∈ given) ∧
        ∀ reply, Covers base (rereadAfter base reread c reply) (resume reply)

section Covers

variable {α β : Type} {base : String}

theorem covers_bind {p : Op α} {f : α → Op β} {reread : Dict} (hp : Covers base reread p)
    (hf : ∀ reread result, Covers base reread (f result)) : Covers base reread (p >>= f) := by
  induction p generalizing reread with
  | ret value => exact hf reread value
  | raise error => trivial
  | call c resume ih => exact ⟨hp.1, fun reply => ih reply (hp.2 reply)⟩

theorem covers_tryCatch {p : Op α} {handler : Exc → Op α} {reread : Dict}
    (hp : Covers base reread p) (hhandler : ∀ reread error, Covers base reread (handler error)) :
    Covers base reread (MonadExcept.tryCatch p handler) := by
  induction p generalizing reread with
  | ret value => trivial
  | raise error => exact hhandler reread error
  | call c resume ih => exact ⟨hp.1, fun reply => ih reply (hp.2 reply)⟩

/-- A program that writes no metadata has nothing to name. -/
theorem covers_of_silent {p : Op α} {reread : Dict}
    (hp : AllCalls (fun c => written base c = none) p) : Covers base reread p := by
  induction p generalizing reread with
  | ret value => trivial
  | raise error => trivial
  | call c resume ih =>
      refine ⟨fun given hgiven => ?_, fun reply => ih reply (hp.2 reply)⟩
      cases hp.1.symm.trans hgiven

/-- `image_meta_set` names the keys that its read has shown. -/
theorem covers_imageMetaSet (image : String) (metadata : Desired) (size : Nat) (reread : Dict) :
    Covers base reread (RestBackend.imageMetaSet image metadata size) := by
  have hput : ∀ current reread : Dict, (image = base → reread = current) →
      Covers base reread (perform (.putImage image
        { size := some size, metadata := some (dropAbsent current metadata) })) := by
    intro current reread hcurrent
    refine ⟨fun given hgiven key hkey => ?_, fun reply => by cases reply <;> trivial⟩
    by_cases himage : image = base
    · simp only [written, putOn, himage, if_true, Option.bind_some, Option.some.injEq] at hgiven
      subst hgiven
      rw [hcurrent himage] at hkey
      rw [← AList.lookup_isSome, lookup_dropAbsent]
      by_cases hmem : key ∈ metadata
      · simpa [hmem] using AList.lookup_isSome.mpr hmem
      · simp [hmem, hkey]
    · simp [written, putOn, himage] at hgiven
  refine ⟨fun given hgiven => ?_, fun reply => ?_⟩
  · cases hgiven
  · cases reply with
    | ok info => exact hput _ _ fun himage => by simp [rereadAfter, himage]
    | error error =>
        cases error with
        | backend error => exact hput _ _ fun himage => by simp [rereadAfter, himage]
        | unimplemented | calledProcess | other => trivial

/-- The parts of an operation name what was read, and so does what they are put together to. -/
theorem closed_covers : Closed base fun p => ∀ reread, Covers base reread p where
  ret _ _ := trivial
  raise _ _ := trivial
  perform {c} hplain reread := by
    refine covers_of_silent (.perform ?_)
    cases c <;> first | rfl | exact hplain.elim
  bind hp hf reread := covers_bind (hp reread) fun reread result => hf result reread
  tryCatch hp hhandler reread := covers_tryCatch (hp reread) fun reread error =>
    hhandler error reread
  rmw mutate reread := covers_bind (covers_of_silent (.perform rfl)) fun reread _ =>
    covers_imageMetaSet _ _ _ reread

/-- What follows a listing names what was read. -/
theorem covers_lsImages (sr : SrMeta) (infos : List Info) (targets : List Job) (reread : Dict) :
    Covers base reread (lsImages sr targets infos) := by
  have hspawn : ∀ job, written base (.gcSpawn job) = none := fun _ => rfl
  induction infos generalizing targets reread with
  | nil => trivial
  | cons info infos ih =>
      unfold lsImages
      split
      · exact covers_bind (covers_of_silent (allCalls_requeue hspawn _ _)) fun reread targets =>
          ih targets reread
      · split
        · refine covers_bind ?_ fun reread _ =>
            covers_bind (covers_of_silent (allCalls_lsSnapshots hspawn _ _ _ _ _)) fun reread _ =>
              covers_bind (ih _ reread) fun _ _ => trivial
          dsimp only [pruneOrphans]
          split
          · trivial
          · refine covers_tryCatch (covers_bind (covers_imageMetaSet _ _ _ _) fun _ _ => trivial)
              fun _ error => ?_
            cases error <;> trivial
        · exact ih targets reread

end Covers
/-- Every metadata operation on REST names what was read. -/
theorem covers_metaOp {base : String} (sr : SrMeta) {op : MetaOp} (hon : op.base?.getD base = base)
    (reread : Dict) : Covers base reread (op.prog sr) := by
  cases op with
  | set key k v | unset key k | setName key name | setDescription key desc =>
      simp only [MetaOp.base?, Option.getD_some] at hon
      subst hon
      exact closed_covers.rmw _ reread
  | enableCbt key => exact closed_covers.enableCbt sr hon reread
  | disableCbt key => exact closed_covers.disableCbt hon reread
  | dataDestroy key => exact closed_covers.dataDestroy hon reread
  | snapshot key => exact covers_bind (closed_covers.snapshot sr hon reread) fun _ _ => trivial
  | destroySnap image snap =>
      simp only [MetaOp.base?, Option.getD_some] at hon
      subst hon
      exact closed_covers.destroySnap snap reread
  | ls =>
      refine covers_bind (covers_bind (covers_of_silent (.perform rfl)) fun reread _ =>
        covers_bind (covers_of_silent (.tryCatch (.perform rfl) fun error => ?_))
          fun reread _ => covers_lsImages sr _ _ reread) fun _ _ => trivial
      cases error <;> trivial

/-- The operations on librbd neither remove the base nor roll it back either. -/
theorem keeps_onLocal {α : Type} {base : String} {p : Op α} (hp : AllCalls (Keeps base) p)
    (current : Except Exc Dict) : AllCalls (Keeps base) (onLocal current p) := by
  have hedits : ∀ (image : String) (edits : List (String × Option String)),
      AllCalls (Keeps base) (edits.forM (metadataEdit image)) := by
    intro image edits
    induction edits with
    | nil => trivial
    | cons edit edits ih => exact .bind (.perform trivial) fun _ => ih
  induction p generalizing current with
  | ret value => trivial
  | raise error => trivial
  | call c resume ih =>
      have hrest : ∀ current reply, AllCalls (Keeps base) (onLocal current (resume reply)) :=
        fun current reply => ih reply (hp.2 reply) current
      cases c with
      | putImage image body =>
          obtain ⟨size, metadata⟩ := body
          cases metadata with
          | none => exact ⟨trivial, fun reply => hrest _ reply⟩
          | some given =>
              cases current with
              | error error => exact hrest (.ok ∅) (.error error)
              | ok current =>
                  exact (hedits image _).finish fun outcome => hrest (.ok ∅) outcome
      | _ => exact ⟨hp.1, fun reply => hrest _ reply⟩

/-- The operations on either backend neither remove the base nor roll it back. -/
theorem keeps_prog {base : String} (be : Backend) (sr : SrMeta) {op : MetaOp}
    (hon : op.base?.getD base = base) : AllCalls (Keeps base) (be.prog sr op) := by
  have hkeeps := (Size.disciplined_metaOp sr hon).keeps
  cases be with
  | rest => exact hkeeps
  | librbd => exact keeps_onLocal hkeeps _

/-! ## The dictionary after every write -/

/-- A write that finds the keys it has read as they were read makes the operation's own changes and
no others. -/
theorem lookup_written {be : Backend} {t : Thread} {given : Desired} {metadata : Dict}
    {key : String} (hcurrent : t.Read key → be = .rest ∨ key ∈ given →
      metadata.lookup key = t.seen.lookup key ∧
        (be = .rest → t.reread.lookup key = t.seen.lookup key))
    (hcovers : be = .rest → key ∈ t.reread → key ∈ given) :
    (Image.setMetadata metadata given).lookup key =
      (t.edit be given key).getD (metadata.lookup key) := by
  rw [lookup_setMetadata]
  cases hgiven : given.lookup key with
  | some value =>
      have hmem : key ∈ given := AList.lookup_isSome.mp (by simp [hgiven])
      simp only [Thread.edit, Thread.wants, hgiven, Option.filter_some]
      by_cases hsame : t.Read key ∧ value = t.seen.lookup key
      · -- the value is handed back as it was read, and it is still the same
        simp [hsame, (hcurrent hsame.1 (.inr hmem)).1]
      · simp [hsame]
  | none =>
      have hmem : key ∉ given := AList.lookup_eq_none.mp hgiven
      by_cases hrest : be = .rest ∧ t.Read key
      · obtain ⟨hmeta, hreread⟩ := hcurrent hrest.2 (.inl hrest.1)
        have hnone : t.seen.lookup key = none := by
          rw [← hreread hrest.1]
          exact AList.lookup_eq_none.mpr fun hshown => hmem (hcovers hrest.1 hshown)
        simp [Thread.edit, Thread.wants, hgiven, hrest, hnone, Option.filter_some]
      · simp [Thread.edit, Thread.wants, hgiven, hrest]

/-- A step of an operation, taken apart. -/
theorem step_cases {be : Backend} {base : String} {s s' : Pool} {label : Nat × Choice}
    (hstep : step be base s label = some s') :
    ∃ t c resume reply w, s.threads[label.1]? = some t ∧ t.prog = .call c resume ∧
      handle label.2 s.world c = some (reply, w) ∧
      s' = { world := w
             threads := s.threads.set label.1
               { prog := resume reply
                 seen := seenAfter base t.seen c reply
                 reread := rereadAfter base t.reread c reply }
             serial := fun key => ((sending base t label.2).bind fun given =>
               t.edit be given key).getD (s.serial key) } := by
  obtain ⟨t, ht, hcall⟩ := Option.bind_eq_some_iff.mp hstep
  cases hprog : t.prog with
  | ret value => simp [hprog] at hcall
  | raise error => simp [hprog] at hcall
  | call c resume =>
      simp only [hprog, Option.map_eq_some_iff] at hcall
      obtain ⟨⟨reply, w⟩, hhandle, rfl⟩ := hcall
      exact ⟨t, c, resume, reply, w, ht, hprog, hhandle, rfl⟩

/-- The dictionary of the base is the one that the operations' own changes make, and the operations
keep to what `Keeps` and `Covers` say. -/
structure Inv (be : Backend) (base : String) (s : Pool) : Prop where
  same : ∃ img, s.world.images.lookup base = some img ∧
    ∀ key, img.metadata.lookup key = s.serial key
  keeps : ∀ t ∈ s.threads, AllCalls (Keeps base) t.prog
  covers : be = .rest → ∀ t ∈ s.threads, Covers base t.reread t.prog

/-- The metadata of an image after a PUT. -/
theorem metadata_put (img : Image) (body : PutBody) :
    (img.put body).metadata = match body.metadata with
      | some given => Image.setMetadata img.metadata given
      | none => img.metadata := by
  cases hsize : body.size <;> cases hmeta : body.metadata <;>
    simp [Image.put, hsize, hmeta, Image.resize]

/-- The dictionary after a step is the one that the operations' own changes make. -/
theorem Inv.same_step {be : Backend} {base : String} {s : Pool} (h : Inv be base s) {t : Thread}
    {c : Call} {resume : Except Exc (Result c) → Op Unit} {reply : Except Exc (Result c)}
    {w : World} {label : Nat × Choice} (hcurrent : Current be base s label)
    (ht : s.threads[label.1]? = some t) (hprog : t.prog = .call c resume)
    (hhandle : handle label.2 s.world c = some (reply, w)) :
    ∃ img, w.images.lookup base = some img ∧ ∀ key, img.metadata.lookup key =
      ((sending base t label.2).bind fun given => t.edit be given key).getD (s.serial key) := by
  obtain ⟨img, himg, hsame⟩ := h.same
  have hmem : t ∈ s.threads := List.mem_of_getElem? ht
  have hkeeps := h.keeps t hmem
  rw [hprog] at hkeeps
  obtain ⟨result, hok, rfl, heffect⟩ | ⟨hchoice, rfl, -⟩ := handle_cases hhandle
  · obtain ⟨img', himg', hhead⟩ := effect_base himg hkeeps.1 heffect
    have hsending : sending base t label.2 = (putOn base c).bind PutBody.metadata := by
      rw [hok, sending, hprog]
      rfl
    refine ⟨img', himg', fun key => ?_⟩
    rw [hsending, ← hsame key]
    cases hput : putOn base c with
    | none =>
        rw [hput] at hhead
        rw [hhead.2]
        rfl
    | some body =>
        rw [hput] at hhead
        rw [hhead, metadata_put]
        cases hgiven : body.metadata with
        | none => simp [hgiven]
        | some given =>
            have hsent : sending base t label.2 = some given := by
              rw [hsending, hput]
              exact hgiven
            simp only [Option.bind_some, hgiven]
            -- a wanted key is as it was read, and one left out is covered by an explicit null
            refine lookup_written (fun hread hwanted => ?_) fun hrest hshown => ?_
            · refine hcurrent t ht given hsent img himg key ?_ hwanted
              exact List.mem_append.mpr (hread.imp AList.mem_keys.mp AList.mem_keys.mp)
            · have hcovers := h.covers hrest t hmem
              rw [hprog] at hcovers
              exact hcovers.1 given (by rw [written, hput]; exact hgiven) key hshown
  · have hnone : sending base t label.2 = none := by
      cases hc : label.2 with
      | ok => exact absurd hc hchoice
      | fail | fresh | diff | tap => rfl
    exact ⟨img, himg, fun key => by rw [hnone]; exact hsame key⟩

/-- A step in which a write finds the keys as they were read keeps the invariant. -/
theorem Inv.step {be : Backend} {base : String} {s s' : Pool} {label : Nat × Choice}
    (h : Inv be base s) (hcurrent : Current be base s label)
    (hstep : step be base s label = some s') : Inv be base s' := by
  obtain ⟨t, c, resume, reply, w, ht, hprog, hhandle, rfl⟩ := step_cases hstep
  have hmem : t ∈ s.threads := List.mem_of_getElem? ht
  refine ⟨h.same_step hcurrent ht hprog hhandle, fun t' ht' => ?_, fun hrest t' ht' => ?_⟩
  · obtain hold | rfl := List.mem_or_eq_of_mem_set ht'
    · exact h.keeps t' hold
    · have hkeeps := h.keeps t hmem
      rw [hprog] at hkeeps
      exact hkeeps.2 reply
  · obtain hold | rfl := List.mem_or_eq_of_mem_set ht'
    · exact h.covers hrest t' hold
    · have hcovers := h.covers hrest t hmem
      rw [hprog] at hcovers
      exact hcovers.2 reply

/-- **No metadata update is lost.** In every interleaving, call by call and with any calls failing,
of metadata operations on `base`, in which each write finds the keys that its operation has read as
they were read, the dictionary of the base is the one that the operations' own changes make, one
write after the other. -/
theorem updates_kept {be : Backend} {base : String} {sr : SrMeta} {w : World} {img : Image}
    {ops : List MetaOp} {labels : List (Nat × Choice)} {s : Pool}
    (hbase : w.images.lookup base = some img) (hon : ∀ op ∈ ops, op.base?.getD base = base)
    (hrun : Run.run (step be base) (start be sr w ops img.metadata) labels = some s)
    (hcurrent :
      Run.Along (step be base) (Current be base) (start be sr w ops img.metadata) labels) :
    ∃ img', s.world.images.lookup base = some img' ∧
      ∀ key, img'.metadata.lookup key = s.serial key := by
  have hinit : Inv be base (start be sr w ops img.metadata) := by
    refine ⟨⟨img, hbase, fun _ => rfl⟩, fun t ht => ?_, fun hrest t ht => ?_⟩
    · obtain ⟨op, hop, rfl⟩ := List.mem_map.mp ht
      exact keeps_prog be sr (hon op hop)
    · obtain ⟨op, hop, rfl⟩ := List.mem_map.mp ht
      subst hrest
      exact covers_metaOp sr (hon op hop) ∅
  exact (Run.run_invariant (fun _ _ _ h hg hs => Inv.step h hg hs) hinit hcurrent hrun).same

instance (be : Backend) (base : String) (s : Pool) (label : Nat × Choice) :
    Decidable (Current be base s label) :=
  inferInstanceAs (Decidable (∀ _ ∈ _, ∀ _ ∈ _, ∀ _ ∈ _, ∀ _ ∈ _, _))

/-- Two calls of `Volume.set` on one disk, for different keys. -/
def twoSets (be : Backend) : Pool :=
  start be { srUuid := "sr", pool := "rbd" } { images := AList.singleton "vdi" { size := 65536 } }
    [.set "vdi" "a" "1", .set "vdi" "b" "2"] ∅

/-- All operations have finished, and the disk has these values under the two keys. -/
def finishedWith (a b : Option String) (s : Pool) : Bool :=
  (s.threads.all fun t => t.prog.finished) && (s.world.images.lookup "vdi").any fun img =>
    img.metadata.lookup "vdi.k.a" == a && img.metadata.lookup "vdi.k.b" == b

/-- Both operations read, and then both write. -/
def sideBySide : List (Nat × Choice) :=
  [(0, .ok), (1, .ok), (1, .ok), (0, .ok), (0, .ok), (1, .ok)]

/-- One operation after the other. -/
def oneByOne : List (Nat × Choice) :=
  [(0, .ok), (0, .ok), (0, .ok), (1, .ok), (1, .ok), (1, .ok)]

/-- The second operation reads and writes after the first one has read and before it writes. -/
def overlapping : List (Nat × Choice) :=
  [(0, .ok), (1, .ok), (1, .ok), (1, .ok), (0, .ok), (0, .ok)]

/-- The second operation writes the dictionary that it read before the first one wrote, but no key
that it read has changed since: both values stay, as when one operation runs after the other. -/
theorem updates_kept_side_by_side :
    ∃ s, Run.run (step .rest "vdi") (twoSets .rest) sideBySide = some s ∧
      finishedWith (some "1") (some "2") s = true ∧
      (∃ img, s.world.images.lookup "vdi" = some img ∧
        ∀ key, img.metadata.lookup key = s.serial key) ∧
      (Run.run (step .rest "vdi") (twoSets .rest) oneByOne).map (fun s' =>
          (s'.world.images.lookup "vdi").map fun img => img.metadata.entries) =
        some ((s.world.images.lookup "vdi").map fun img => img.metadata.entries) := by
  have hrun : (Run.checked (step .rest "vdi") (Current .rest "vdi") (twoSets .rest) sideBySide).any
      (fun s => finishedWith (some "1") (some "2") s && decide
        ((Run.run (step .rest "vdi") (twoSets .rest) oneByOne).map (fun s' =>
            (s'.world.images.lookup "vdi").map fun img => img.metadata.entries) =
          some ((s.world.images.lookup "vdi").map fun img => img.metadata.entries))) = true := by
    decide +kernel
  obtain ⟨s, hrun, hcurrent, hend⟩ := Run.exists_of_checked hrun
  simp only [Bool.and_eq_true, decide_eq_true_eq] at hend
  obtain ⟨hdone, hsame⟩ := hend
  have hbase : (twoSets .rest).world.images.lookup "vdi" = some { size := 65536 } := rfl
  have hon : ∀ op ∈ [MetaOp.set "vdi" "a" "1", .set "vdi" "b" "2"],
      op.base?.getD "vdi" = "vdi" := by
    simp only [List.forall_mem_cons, List.not_mem_nil, false_imp_iff, implies_true, and_true]
    exact ⟨rfl, rfl⟩
  exact ⟨s, hrun, hdone, updates_kept hbase hon hrun hcurrent, hsame⟩

/-- The first operation writes the dictionary that it read before the second one wrote, with a null
for the second one's key: that update is lost, although no call failed. -/
theorem update_dropped_by_replace :
    ∃ s, Run.run (step .rest "vdi") (twoSets .rest) overlapping = some s ∧
      finishedWith (some "1") none s = true ∧ s.serial "vdi.k.b" = some "2" := by
  have hrun : (Run.run (step .rest "vdi") (twoSets .rest) overlapping).any (fun s =>
      finishedWith (some "1") none s && s.serial "vdi.k.b" == some "2") = true := by
    decide +kernel
  simp only [Option.any_eq_true, Bool.and_eq_true, beq_iff_eq] at hrun
  obtain ⟨s, hrun, hdone, hserial⟩ := hrun
  exact ⟨s, hrun, hdone, hserial⟩

end XcpCephRbd.Volume.Updates
