import XcpCephRbd.Volume.Updates

/-!
# What a write of image-meta leaves

`image_meta_set` on REST asks the dashboard to set the keys of the new dictionary and to remove, by
a null, those that its own read shows besides; where that read fails with an `RbdBackendError` it
goes on as if there were none. On librbd it removes and sets key by key, and fails where its read
fails. The dashboard does not show the `conf_*` keys. `written_imageMetaSet` and `written_rmw` say
what a key can be after a write and what it is after one that returned.
-/

namespace XcpCephRbd.Volume.MetaWrite

open Prog
open Text (startsWith)
open Updates (Backend LocalBackend.imageMetaSet localEdits metadataEdit onLocal)
open Size (Keeps SameHead putOn effect_base)

/-! ## The backends and their environment -/

/-- A key of the image's configuration. -/
def isConf (key : String) : Bool := startsWith key "conf_"

/-- What `image_info` shows of the image-meta. -/
def shown : Backend → Dict → Dict
  | .rest, metadata => filterKeys metadata fun key => !isConf key
  | .librbd, metadata => metadata

/-- The report as the backend gives it. -/
def report (be : Backend) (info : Info) : Info := { info with metadata := shown be info.metadata }

/-- The answer to a call as the backend gives it. -/
def reportReply (be : Backend) : (c : Call) → Except Exc (Result c) → Except Exc (Result c)
  | .imageInfo _, .ok info => .ok (report be info)
  | .metaRead _, .ok info => .ok (report be info)
  | .listImages, .ok infos => .ok (infos.map (report be))
  | _, reply => reply

/-- What the calls of an operation are answered: `reread` is what `image_meta_set`'s own read fails
with, where it fails. -/
structure Env where
  answers : Nat → Call → Choice
  reread : Option Exc := none

/-- The environment's choice for call number `t`. -/
def Env.choice (env : Env) (t : Nat) : Call → Choice
  | .metaRead _ => match env.reread with
    | none => .ok
    | some error => .fail error
  | c => env.answers t c

/-- An `RbdBackendError` of `image_meta_set`'s own read. -/
def Env.missed (env : Env) : Bool :=
  match env.reread with
  | some (.backend _) => true
  | _ => false

/-- The answer to a call, with the images and the number of calls after it. -/
def answer (be : Backend) (env : Env) (s : World × Nat) (c : Call) :
    Option (Except Exc (Result c) × (World × Nat)) :=
  (handle (env.choice s.2 c) s.1 c).map fun (reply, after) =>
    (reportReply be c reply, (after, s.2 + 1))

/-- The backend's `image_meta_set`. -/
def imageMetaSet : Backend → String → Desired → Nat → Op Unit
  | .rest, image, metadata, size => RestBackend.imageMetaSet image metadata size
  | .librbd, image, metadata, _ => LocalBackend.imageMetaSet image metadata

/-- An operation with the metadata writes of the backend. -/
def onBackend {α : Type} : Backend → Op α → Op α
  | .rest, p => p
  | .librbd, p => onLocal (.ok ∅) p

/-- The keys that are left although the new dictionary does not have them. -/
def leaves (be : Backend) (env : Env) (key : String) : Bool :=
  match be with
  | .rest => isConf key || env.missed
  | .librbd => false

/-- What `image_meta_set` makes of a key. -/
def target (be : Backend) (env : Env) (current : Dict) (metadata : Desired) (key : String) :
    Option String :=
  match metadata.lookup key with
  | some value => value
  | none => if leaves be env key then current.lookup key else none

/-- The dictionary has no nulls. -/
def NoNull (metadata : Desired) : Prop := ∀ key, metadata.lookup key ≠ some none

section Backends

variable {be : Backend} {env : Env} {w w' : World} {t t' : Nat} {image : String} {img : Image}

/-- What is shown. -/
theorem lookup_shown (be : Backend) (metadata : Dict) (key : String) :
    (shown be metadata).lookup key =
      if be = .rest ∧ isConf key = true then none else metadata.lookup key := by
  cases be with
  | rest =>
      rw [shown, lookup_filterKeys]
      cases isConf key <;> simp
  | librbd => simp [shown]

/-- The read of an image. -/
theorem of_imageInfo {out : Except Exc Info} {s' : World × Nat}
    (h : (imageInfo image).exec (answer be env) (w, t) = some (out, s')) :
    s'.1 = w ∧ ∀ info, out = .ok info →
      ∃ img, w.images.lookup image = some img ∧ info = report be (img.info image) := by
  obtain ⟨⟨reply, after⟩, hhandle, heq⟩ := Option.map_eq_some_iff.mp (of_exec_perform h)
  obtain ⟨rfl, rfl⟩ := Prod.mk.inj heq
  rcases handle_cases hhandle with ⟨result, -, rfl, heffect⟩ | ⟨-, hsame, hreply⟩
  · obtain ⟨img, himg, heq⟩ := Option.map_eq_some_iff.mp heffect
    obtain ⟨rfl, rfl⟩ := Prod.mk.inj heq
    refine ⟨rfl, fun info hinfo => ⟨img, himg, ?_⟩⟩
    cases hinfo
    rfl
  · refine ⟨hsame, fun info hinfo => ?_⟩
    obtain ⟨error, -, rfl⟩ | hother | hother | ⟨_, _, _, _, _, _, hother⟩ |
      ⟨_, _, _, _, hother, -⟩ := hreply
    · cases hinfo
    all_goals cases hother

/-- A PUT: it fails and changes nothing, or it edits the image. -/
theorem of_putImage {body : PutBody} {out : Except Exc Unit} {s' : World × Nat}
    (h : (perform (.putImage image body) : Op Unit).exec (answer be env) (w, t) = some (out, s')) :
    (s'.1 = w ∧ ∃ error, out = .error error) ∨
      out = .ok () ∧ ∃ img, w.images.lookup image = some img ∧
        s'.1 = { w with images := w.images.insert image (img.put body) } := by
  obtain ⟨⟨reply, after⟩, hhandle, heq⟩ := Option.map_eq_some_iff.mp (of_exec_perform h)
  obtain ⟨rfl, rfl⟩ := Prod.mk.inj heq
  rcases handle_cases hhandle with ⟨result, -, rfl, heffect⟩ | ⟨-, hsame, hreply⟩
  · obtain ⟨after', hupdate, heq⟩ := Option.map_eq_some_iff.mp heffect
    obtain ⟨-, rfl⟩ := Prod.mk.inj heq
    obtain ⟨img, img', himg, hput, rfl⟩ := World.update_eq_some_iff.mp hupdate
    cases hput
    exact .inr ⟨rfl, img, himg, rfl⟩
  · obtain ⟨error, -, rfl⟩ | hother | hother | ⟨_, _, _, _, _, _, hother⟩ |
      ⟨_, _, _, _, hother, -⟩ := hreply
    · exact .inl ⟨hsame, error, rfl⟩
    all_goals cases hother

/-! ## One `image_meta_set` -/

/-- The image after some calls: each key is as it was or as it is wanted, and where the calls
returned it is as it is wanted. -/
def Written (image : String) (img : Image) (wanted : String → Option String)
    (out : Except Exc Unit) (w' : World) : Prop :=
  ∃ img', w'.images.lookup image = some img' ∧
    (∀ key, img'.metadata.lookup key = img.metadata.lookup key ∨
      img'.metadata.lookup key = wanted key) ∧
    (out = .ok () → ∀ key, img'.metadata.lookup key = wanted key)

/-- Calls that raised and changed nothing. -/
theorem written_of_same {wanted : String → Option String} {out : Except Exc Unit}
    (himg : w.images.lookup image = some img) (hsame : w' = w) (hout : out ≠ .ok ()) :
    Written image img wanted out w' := by
  subst hsame
  exact ⟨img, himg, fun key => .inl rfl, fun hok => absurd hok hout⟩

/-- The metadata after a PUT that sets some of it. -/
theorem lookup_put (img : Image) (size : Option Nat) (given : Desired) (key : String) :
    (img.put { size := size, metadata := some given }).metadata.lookup key =
      (given.lookup key).getD (img.metadata.lookup key) := by
  cases size <;> exact lookup_setMetadata _ _ _

/-- The metadata after one edit. -/
theorem lookup_edit (img : Image) (edit : String × Option String) (key : String) :
    (img.put { metadata := some (AList.singleton edit.1 edit.2) }).metadata.lookup key =
      if key = edit.1 then edit.2 else img.metadata.lookup key := by
  rw [lookup_put]
  show (List.dlookup key [(⟨edit.1, edit.2⟩ : (_ : String) × Option String)]).getD
    (img.metadata.lookup key) = _
  by_cases hkey : key = edit.1
  · subst hkey
    rw [List.dlookup_cons_eq, if_pos rfl, Option.getD_some]
  · have hnone : List.dlookup key [(⟨edit.1, edit.2⟩ : (_ : String) × Option String)] = none :=
      List.dlookup_cons_ne _ _ hkey
    rw [hnone, if_neg hkey, Option.getD_none]

/-- Single edits, one key after the other. -/
theorem written_edits {edits : List (String × Option String)}
    (hnodup : (edits.map Prod.fst).Nodup) {out : Except Exc Unit} {s' : World × Nat}
    (himg : w.images.lookup image = some img)
    (h : (edits.forM (metadataEdit image)).exec (answer be env) (w, t) = some (out, s')) :
    Written image img (fun key => (edits.lookup key).getD (img.metadata.lookup key)) out s'.1 := by
  induction edits generalizing w t img with
  | nil =>
      cases h
      exact ⟨img, himg, fun key => .inl rfl, fun _ key => rfl⟩
  | cons edit edits ih =>
      obtain ⟨hnew, hnodup⟩ := List.nodup_cons.mp hnodup
      rcases of_exec_bind h with ⟨_, ⟨w₁, t₁⟩, hfirst, hrest⟩ | ⟨error, hfirst, rfl⟩
      · obtain ⟨-, error, herror⟩ | ⟨-, img₀, himg₀, hw₁⟩ := of_putImage hfirst
        · cases herror
        · cases himg.symm.trans himg₀
          dsimp only at hw₁
          have himg₁ : w₁.images.lookup image =
              some (img.put { metadata := some (AList.singleton edit.1 edit.2) }) := by
            rw [hw₁]
            exact AList.lookup_insert _
          obtain ⟨img', himg', hkept, hdone⟩ := ih hnodup himg₁ hrest
          -- the rest has nothing under the key of the first edit
          have hwanted : ∀ key, (edits.lookup key).getD ((img.put
              { metadata := some (AList.singleton edit.1 edit.2) }).metadata.lookup key) =
              ((edit :: edits).lookup key).getD (img.metadata.lookup key) := by
            intro key
            rw [lookup_edit, List.lookup_cons]
            by_cases hkey : key = edit.1
            · have hnone : edits.lookup edit.1 = none := by
                rw [List.lookup_eq_none_iff]
                intro other hother
                rw [bne_iff_ne]
                intro heq
                exact hnew (List.mem_map.mpr ⟨other, hother, heq.symm⟩)
              simp [hkey, hnone]
            · have hbeq : (key == edit.1) = false := by simpa using hkey
              simp [hkey, hbeq]
          refine ⟨img', himg', fun key => ?_, fun hout key => ?_⟩
          · rcases hkept key with hsame | hset
            · rw [hsame, lookup_edit]
              by_cases hkey : key = edit.1
              · right
                show _ = ((edit :: edits).lookup key).getD _
                rw [if_pos hkey, hkey, List.lookup_cons_self, Option.getD_some]
              · left
                rw [if_neg hkey]
            · exact .inr (hset.trans (hwanted key))
          · exact (hdone hout key).trans (hwanted key)
      · obtain ⟨hsame, -⟩ | ⟨hok, -⟩ := of_putImage hfirst
        · exact written_of_same himg hsame nofun
        · cases hok

/-- What `image_meta_set`'s own read is answered. -/
theorem of_metaRead {reply : Except Exc Info} {s' : World × Nat}
    (himg : w.images.lookup image = some img)
    (h : answer be env (w, t) (.metaRead image) = some (reply, s')) :
    s'.1 = w ∧ match env.reread with
      | none => reply = .ok (report be (img.info image))
      | some error => reply = .error error := by
  rw [answer, Env.choice] at h
  cases hreread : env.reread with
  | none =>
      rw [hreread] at h
      simp only [handle, effect, himg, Option.map_some, Option.some.injEq, Prod.mk.injEq] at h
      exact ⟨by rw [← h.2], h.1.symm⟩
  | some error =>
      rw [hreread] at h
      simp only [handle, Option.map_some, Option.some.injEq, Prod.mk.injEq] at h
      exact ⟨by rw [← h.2], h.1.symm⟩

/-- `image_meta_set` on REST. -/
theorem written_rest {metadata : Desired} {size : Nat} {out : Except Exc Unit} {s' : World × Nat}
    (himg : w.images.lookup image = some img)
    (h : (RestBackend.imageMetaSet image metadata size).exec (answer .rest env) (w, t) =
      some (out, s')) :
    Written image img (target .rest env img.metadata metadata) out s'.1 := by
  -- the PUT, with the nulls for the keys of what was read
  have hput : ∀ {current : Dict} {w₁ t₁}, w₁ = w →
      (∀ key, key ∈ current ↔ leaves .rest env key = false ∧ key ∈ img.metadata) →
      (perform (.putImage image
        { size := some size, metadata := some (dropAbsent current metadata) }) : Op Unit).exec
          (answer .rest env) (w₁, t₁) = some (out, s') →
      Written image img (target .rest env img.metadata metadata) out s'.1 := by
    intro current w₁ t₁ hw₁ hcurrent hexec
    rw [hw₁] at hexec
    obtain ⟨hsame, error, rfl⟩ | ⟨-, img₀, himg₀, hs'⟩ := of_putImage hexec
    · exact written_of_same himg hsame nofun
    · cases himg.symm.trans himg₀
      have hall : ∀ key,
          (img.put ⟨some size, some (dropAbsent current metadata)⟩).metadata.lookup key =
            target .rest env img.metadata metadata key := by
        intro key
        rw [lookup_put, lookup_dropAbsent, target]
        cases hkey : metadata.lookup key with
        | some value =>
            have hmem : key ∈ metadata := AList.lookup_isSome.mp (Option.isSome_of_eq_some hkey)
            simp [hmem]
        | none =>
            have hmem : key ∉ metadata := AList.lookup_eq_none.mp hkey
            by_cases hleft : leaves .rest env key = true
            · have hnot : key ∉ current := fun hshown =>
                Bool.false_ne_true (((hcurrent key).mp hshown).1.symm.trans hleft)
              simp [hnot, hleft]
            · by_cases hin : key ∈ img.metadata
              · have hdrop : key ∈ current := (hcurrent key).mpr ⟨by simpa using hleft, hin⟩
                simp [hdrop, hmem, hleft]
              · have hnot : key ∉ current := fun hshown => hin ((hcurrent key).mp hshown).2
                simp [hnot, AList.lookup_eq_none.mpr hin]
      refine ⟨_, ?_, fun key => .inr (hall key), fun _ => hall⟩
      rw [hs']
      exact AList.lookup_insert _
  obtain ⟨⟨reply, w₁, t₁⟩, hreply, hrest⟩ := Option.bind_eq_some_iff.mp h
  obtain ⟨hsame, hmatch⟩ := of_metaRead himg hreply
  cases hreread : env.reread with
  | none =>
      rw [hreread] at hmatch
      subst hmatch
      refine hput hsame (fun key => ?_) hrest
      have hmissed : env.missed = false := by rw [Env.missed, hreread]
      rw [← AList.lookup_isSome, ← AList.lookup_isSome]
      show ((shown .rest img.metadata).lookup key).isSome = true ↔ _
      rw [lookup_shown, leaves, hmissed, Bool.or_false]
      cases isConf key <;> simp
  | some error =>
      rw [hreread] at hmatch
      subst hmatch
      cases error with
      | backend error =>
          refine hput hsame (fun key => ?_) hrest
          have hmissed : env.missed = true := by rw [Env.missed, hreread]
          simp [leaves, hmissed]
      | unimplemented | calledProcess | other =>
          cases hrest
          exact written_of_same himg hsame nofun

/-- The edits on librbd have the keys of the dictionary with its nulls, each once. -/
theorem nodup_localEdits (current : Dict) (given : Desired) :
    ((localEdits current given).map Prod.fst).Nodup := by
  rw [localEdits, List.map_map]
  exact given.nodupKeys

/-- The edits of a dictionary without nulls. -/
theorem lookup_localEdits (current : Dict) {metadata : Desired} (hnull : NoNull metadata)
    (key : String) : ((localEdits current (dropAbsent current metadata)).lookup key).getD
      (current.lookup key) = target .librbd env current metadata key := by
  have hlookup : (localEdits current (dropAbsent current metadata)).lookup key =
      ((dropAbsent current metadata).lookup key).map fun value =>
        if value.isNone ∧ key ∈ current then none else some (value.getD "") := by
    simp only [localEdits, AList.lookup]
    induction (dropAbsent current metadata).entries with
    | nil => rfl
    | cons entry rest ih =>
        obtain ⟨name, value⟩ := entry
        rw [List.map_cons, List.lookup_cons]
        by_cases hkey : key = name
        · subst hkey
          rw [List.dlookup_cons_eq]
          simp
        · have hbeq : (key == name) = false := by simpa using hkey
          rw [List.dlookup_cons_ne _ _ hkey]
          simp only [hbeq]
          exact ih
  rw [hlookup, lookup_dropAbsent, target]
  cases hvalue : metadata.lookup key with
  | some value =>
      have hmem : key ∈ metadata := AList.lookup_isSome.mp (Option.isSome_of_eq_some hvalue)
      cases value with
      | none => exact absurd hvalue (hnull key)
      | some value => simp [hmem]
  | none =>
      have hmem : key ∉ metadata := AList.lookup_eq_none.mp hvalue
      by_cases hcur : key ∈ current
      · simp [hmem, hcur, leaves]
      · simp [hcur, leaves, AList.lookup_eq_none.mpr hcur]

/-- `image_meta_set` on librbd. -/
theorem written_librbd {metadata : Desired} (hnull : NoNull metadata) {out : Except Exc Unit}
    {s' : World × Nat} (himg : w.images.lookup image = some img)
    (h : (LocalBackend.imageMetaSet image metadata).exec (answer .librbd env) (w, t) =
      some (out, s')) :
    Written image img (target .librbd env img.metadata metadata) out s'.1 := by
  obtain ⟨⟨reply, w₁, t₁⟩, hreply, hrest⟩ := Option.bind_eq_some_iff.mp h
  obtain ⟨hsame, hmatch⟩ := of_metaRead himg hreply
  cases hreread : env.reread with
  | none =>
      rw [hreread] at hmatch
      subst hmatch
      have hedits : ((localEdits img.metadata (dropAbsent img.metadata metadata)).forM
          (metadataEdit image)).exec (answer .librbd env) (w, t₁) = some (out, s') := by
        rw [Updates.localEdits_dropAbsent img.metadata (fun entry hentry => ?_)]
        · rw [← hsame]
          simp only [List.forM_eq_forM, List.forM_append, List.forM_map]
          exact hrest
        · rw [Option.isSome_iff_ne_none]
          intro hnone
          refine hnull entry.1 ?_
          rw [← hnone]
          exact AList.mem_lookup_iff.mpr hentry
      have hwanted : (fun key => ((localEdits img.metadata
          (dropAbsent img.metadata metadata)).lookup key).getD (img.metadata.lookup key)) =
          target .librbd env img.metadata metadata :=
        funext (lookup_localEdits img.metadata hnull)
      rw [← hwanted]
      exact written_edits (nodup_localEdits _ _) himg hedits
  | some error =>
      rw [hreread] at hmatch
      subst hmatch
      cases hrest
      exact written_of_same himg hsame nofun

/-- `image_meta_set` of a dictionary without nulls. -/
theorem written_imageMetaSet {metadata : Desired} {size : Nat} (hnull : NoNull metadata)
    {out : Except Exc Unit} {s' : World × Nat} (himg : w.images.lookup image = some img)
    (h : (imageMetaSet be image metadata size).exec (answer be env) (w, t) = some (out, s')) :
    Written image img (target be env img.metadata metadata) out s'.1 := by
  cases be with
  | rest => exact written_rest himg h
  | librbd => exact written_librbd hnull himg h

/-- Only an image that exists is written. -/
theorem mem_of_imageMetaSet {metadata : Desired} {size : Nat} {s' : World × Nat}
    (h : (imageMetaSet be image metadata size).exec (answer be env) (w, t) = some (.ok (), s')) :
    image ∈ w.images := by
  by_contra himage
  have hnone := AList.lookup_eq_none.mpr himage
  have hread : ∀ {reply : Except Exc Info} {s₁},
      answer be env (w, t) (.metaRead image) = some (reply, s₁) →
        s₁.1 = w ∧ ∃ error, reply = .error error := by
    intro reply s₁ hreply
    rw [answer, Env.choice] at hreply
    cases hreread : env.reread with
    | none =>
        rw [hreread] at hreply
        simp only [handle, effect, hnone, Option.map_none] at hreply
        cases hreply
    | some error =>
        rw [hreread] at hreply
        simp only [handle, Option.map_some, Option.some.injEq, Prod.mk.injEq] at hreply
        exact ⟨by rw [← hreply.2], error, hreply.1.symm⟩
  cases be with
  | rest =>
      obtain ⟨⟨reply, w₁, t₁⟩, hreply, hrest⟩ := Option.bind_eq_some_iff.mp h
      obtain ⟨hsame, error, rfl⟩ := hread hreply
      cases error with
      | backend error =>
          obtain ⟨-, _, hout⟩ | ⟨-, img, himg, -⟩ := of_putImage hrest
          · cases hout
          · dsimp only at hsame
            rw [hsame, hnone] at himg
            cases himg
      | unimplemented | calledProcess | other => cases hrest
  | librbd =>
      obtain ⟨⟨reply, w₁, t₁⟩, hreply, hrest⟩ := Option.bind_eq_some_iff.mp h
      obtain ⟨-, error, rfl⟩ := hread hreply
      cases hrest

/-- Every call succeeds that can. -/
def Env.Granted (env : Env) : Prop := env.reread = none ∧ ∀ t c, env.answers t c = .ok

/-- A call that can succeed does. -/
theorem answer_granted {c : Call} {result : Result c} (hgranted : env.Granted)
    (heffect : effect w c = some (result, w')) :
    answer be env (w, t) c = some (reportReply be c (.ok result), (w', t + 1)) := by
  have hchoice : env.choice t c = .ok := by
    cases c with
    | metaRead image => rw [Env.choice, hgranted.1]
    | _ => exact hgranted.2 t _
  rw [answer, hchoice, handle_ok, heffect]
  rfl

/-- A PUT on an image that exists. -/
theorem effect_putImage (himg : w.images.lookup image = some img) (body : PutBody) :
    effect w (.putImage image body) =
      some ((), { w with images := w.images.insert image (img.put body) }) := by
  rw [effect, World.update, himg]
  rfl

/-- Single edits of an image that exists. -/
theorem run_edits_granted (hgranted : env.Granted) (edits : List (String × Option String))
    (himage : image ∈ w.images) :
    ∃ s', (edits.forM (metadataEdit image)).exec (answer be env) (w, t) = some (.ok (), s') ∧
      image ∈ s'.1.images := by
  induction edits generalizing w t with
  | nil => exact ⟨_, rfl, himage⟩
  | cons edit edits ih =>
      obtain ⟨img, himg⟩ := Option.isSome_iff_exists.mp (AList.lookup_isSome.mpr himage)
      have hedit :
          (metadataEdit image edit).exec (answer be env) (w, t) = some (.ok (), _, t + 1) :=
        Prog.exec_perform (answer_granted hgranted (effect_putImage himg _))
      have himage₁ : image ∈ w.images.insert image
          (img.put { metadata := some (AList.singleton edit.1 edit.2) }) :=
        (AList.mem_insert _).mpr (.inl rfl)
      obtain ⟨s', hrest, hstays⟩ := ih (w := ⟨_, w.mapped, w.taps, w.jobs⟩) himage₁
      exact ⟨s', (exec_bind hedit).trans hrest, hstays⟩

/-- `image_meta_set` of an image that exists. -/
theorem run_imageMetaSet_granted (hgranted : env.Granted) (metadata : Desired) (size : Nat)
    (himg : w.images.lookup image = some img) :
    ∃ s', (imageMetaSet be image metadata size).exec (answer be env) (w, t) =
      some (.ok (), s') := by
  have hread : effect w (.metaRead image) = some (img.info image, w) := by
    rw [effect, himg]
    rfl
  have hinfo : (perform (.metaRead image) : Op Info).exec (answer be env) (w, t) =
      some (.ok (report be (img.info image)), (w, t + 1)) :=
    Prog.exec_perform (answer_granted hgranted hread)
  cases be with
  | rest =>
      have hcurrent : (exceptBackend (Info.metadata <$> perform (.metaRead image))
          fun _ => pure ∅ : Op Dict).exec (answer .rest env) (w, t) =
            some (.ok (report .rest (img.info image)).metadata, (w, t + 1)) :=
        exec_tryCatch ((exec_bind hinfo).trans rfl)
      exact ⟨_, (exec_bind hcurrent).trans
        (Prog.exec_perform (answer_granted hgranted (effect_putImage himg _)))⟩
  | librbd =>
      have himage : image ∈ w.images := AList.lookup_isSome.mp (Option.isSome_of_eq_some himg)
      have hedits : ∀ {w : World} {t : Nat} (edits : List (String × Option String)),
          image ∈ w.images → ∃ s', (edits.forM (metadataEdit image)).exec (answer .librbd env)
            (w, t) = some (.ok (), s') ∧ image ∈ s'.1.images :=
        fun edits himage => run_edits_granted hgranted edits himage
      obtain ⟨s₁, hremoved, himage₁⟩ := hedits
        (((shown .librbd img.metadata).keys.filter fun key => key ∉ metadata).map
          fun key => (key, none)) himage
      obtain ⟨s', hset, -⟩ := hedits
        (metadata.entries.map fun entry => (entry.1, some (entry.2.getD ""))) himage₁
      simp only [List.forM_eq_forM, List.forM_map] at hremoved hset
      exact ⟨s', (exec_bind hinfo).trans ((exec_bind hremoved).trans hset)⟩

/-! ## Read-modify-writes -/

/-- `_rmw` on a backend. -/
def rmwOn (be : Backend) (base : String) (mutate : Desired → Desired) : Op Unit := do
  let info ← imageInfo base
  imageMetaSet be base (mutate info.metadata.toDesired) info.size

/-- A read-modify-write: the keys are as they were or as the change of what is shown has them. -/
theorem written_rmw {base : String} {mutate : Desired → Desired}
    (hnull : ∀ m : Dict, NoNull (mutate m.toDesired)) {out : Except Exc Unit} {s' : World × Nat}
    (himg : w.images.lookup base = some img)
    (h : (rmwOn be base mutate).exec (answer be env) (w, t) = some (out, s')) :
    Written base img (target be env img.metadata (mutate (shown be img.metadata).toDesired)) out
      s'.1 := by
  rcases of_exec_bind h with ⟨info, ⟨w₁, t₁⟩, hread, hrest⟩ | ⟨error, hread, rfl⟩
  · obtain ⟨hsame, hinfo⟩ := of_imageInfo hread
    obtain ⟨img₀, himg₀, rfl⟩ := hinfo info rfl
    cases himg.symm.trans himg₀
    dsimp only at hsame
    subst hsame
    exact written_imageMetaSet (hnull _) himg hrest
  · exact written_of_same himg (of_imageInfo hread).1 nofun

/-- An image that does not exist is not written. -/
theorem rmw_missing {base : String} {mutate : Desired → Desired} {out : Except Exc Unit}
    {s' : World × Nat} (hbase : w.images.lookup base = none)
    (h : (rmwOn be base mutate).exec (answer be env) (w, t) = some (out, s')) :
    s'.1 = w ∧ out ≠ .ok () := by
  rcases of_exec_bind h with ⟨info, ⟨w₁, t₁⟩, hread, hrest⟩ | ⟨error, hread, rfl⟩
  · obtain ⟨img, himg, -⟩ := (of_imageInfo hread).2 info rfl
    cases hbase.symm.trans himg
  · exact ⟨(of_imageInfo hread).1, nofun⟩

/-- What follows an `image_meta_set`, on librbd. -/
theorem onLocal_imageMetaSet_finish {α : Type} (current : Except Exc Dict) (image : String)
    {metadata : Desired} (hnull : NoNull metadata) (size : Nat) (rest : Except Exc Unit → Op α) :
    onLocal current ((RestBackend.imageMetaSet image metadata size).finish rest) =
      (imageMetaSet .librbd image metadata size).finish fun out => onLocal (.ok ∅) (rest out) := by
  refine Updates.onLocal_imageMetaSet current image (fun entry hentry => ?_) size rest
  rw [Option.isSome_iff_ne_none]
  intro hnone
  refine hnull entry.1 ?_
  rw [← hnone]
  exact AList.mem_lookup_iff.mpr hentry

/-- What follows an `image_meta_set`, on the backend. -/
theorem onBackend_imageMetaSet_finish {α : Type} (be : Backend) (image : String)
    {metadata : Desired} (hnull : NoNull metadata) (size : Nat) (rest : Except Exc Unit → Op α) :
    onBackend be ((RestBackend.imageMetaSet image metadata size).finish rest) =
      (imageMetaSet be image metadata size).finish fun out => onBackend be (rest out) := by
  cases be with
  | rest => rfl
  | librbd => exact onLocal_imageMetaSet_finish (.ok ∅) image hnull size rest

/-- What follows a read-modify-write, on the backend. -/
theorem onBackend_rmw_finish {α : Type} (be : Backend) (base : String)
    {mutate : Desired → Desired} (hnull : ∀ m : Dict, NoNull (mutate m.toDesired))
    (rest : Except Exc Unit → Op α) :
    onBackend be ((rmw base mutate).finish rest) =
      (rmwOn be base mutate).finish fun out => onBackend be (rest out) := by
  cases be with
  | rest => rfl
  | librbd =>
      refine congrArg (Prog.call (Call.imageInfo base)) (funext fun reply => ?_)
      cases reply with
      | error error => rfl
      | ok info => exact onLocal_imageMetaSet_finish (.ok ∅) base (hnull _) info.size rest

/-- An operation that ends with an outcome, on the backend. -/
theorem onBackend_ofExcept (be : Backend) :
    (fun out : Except Exc Unit => onBackend be (MonadExcept.ofExcept out)) =
      MonadExcept.ofExcept := by
  funext out
  cases be <;> cases out <;> rfl

/-- An `image_meta_set`, on the backend. -/
theorem onBackend_imageMetaSet (be : Backend) (image : String) {metadata : Desired}
    (hnull : NoNull metadata) (size : Nat) :
    onBackend be (RestBackend.imageMetaSet image metadata size) =
      imageMetaSet be image metadata size := by
  have hfinish := onBackend_imageMetaSet_finish be image hnull size MonadExcept.ofExcept
  rwa [finish_ofExcept, onBackend_ofExcept, finish_ofExcept] at hfinish

/-- A read-modify-write, on the backend. -/
theorem onBackend_rmw (be : Backend) (base : String) {mutate : Desired → Desired}
    (hnull : ∀ m : Dict, NoNull (mutate m.toDesired)) :
    onBackend be (rmw base mutate) = rmwOn be base mutate := by
  have hfinish := onBackend_rmw_finish be base hnull MonadExcept.ofExcept
  rwa [finish_ofExcept, onBackend_ofExcept, finish_ofExcept] at hfinish

/-- The call writes no metadata, and neither removes `base` nor rolls it back. -/
def Quiet (base : String) : Call → Prop
  | .metaRead _ | .putImage _ _ => False
  | .remove image => image ≠ base
  | .snapRollback image _ => image ≠ base
  | _ => True

/-- Calls that write no metadata stand on either backend as they are. -/
theorem onBackend_quiet_bind {α β : Type} (base : String) {p : Op α}
    (hp : AllCalls (Quiet base) p) (f : α → Op β) :
    onBackend be (p >>= f) = p >>= fun value => onBackend be (f value) := by
  cases be with
  | rest => rfl
  | librbd =>
      induction p with
      | ret value => rfl
      | raise error => rfl
      | call c resume ih =>
          have hrest := fun reply => ih reply (hp.2 reply)
          cases c with
          | metaRead image => exact hp.1.elim
          | putImage image body => exact hp.1.elim
          | _ => exact congrArg (Prog.call _) (funext hrest)

/-- Such calls leave the metadata of `base`. -/
theorem metadata_of_quiet {α : Type} {base : String} {p : Op α} (hp : AllCalls (Quiet base) p)
    {out : Except Exc α} {s' : World × Nat} (himg : w.images.lookup base = some img)
    (h : p.exec (answer be env) (w, t) = some (out, s')) :
    ∃ img', s'.1.images.lookup base = some img' ∧ img'.metadata = img.metadata := by
  refine exec_invariant (I := fun s : World × Nat => ∃ img', s.1.images.lookup base = some img' ∧
    img'.metadata = img.metadata) (hp.mono fun c hc => ?_) h ⟨img, himg, rfl⟩
  intro s reply after ⟨img₁, himg₁, hmeta₁⟩ hanswer
  obtain ⟨⟨reply', w₂⟩, hhandle, heq⟩ := Option.map_eq_some_iff.mp hanswer
  obtain ⟨-, rfl⟩ := Prod.mk.inj heq
  rcases handle_cases hhandle with ⟨result, -, -, heffect⟩ | ⟨-, hsame, -⟩
  · have hkeeps : Keeps base c := by
      cases c with
      | remove image => exact hc
      | snapRollback image snap => exact hc
      | _ => trivial
    obtain ⟨img₂, himg₂, hput⟩ := effect_base himg₁ hkeeps heffect
    refine ⟨img₂, himg₂, ?_⟩
    have hnone : putOn base c = none := by
      cases c with
      | putImage image body => exact hc.elim
      | _ => rfl
    rw [hnone] at hput
    exact hput.2.trans hmeta₁
  · dsimp only at hsame ⊢
    exact ⟨img₁, hsame ▸ himg₁, hmeta₁⟩

end Backends

/-! ## Dictionaries without nulls -/

section NoNull

variable {m : Desired}

theorem noNull_toDesired (metadata : Dict) : NoNull metadata.toDesired := by
  intro key
  rw [Dict.lookup_toDesired]
  cases metadata.lookup key <;> simp

theorem NoNull.insert (h : NoNull m) (key value : String) : NoNull (m.insert key (some value)) := by
  intro other
  by_cases hother : other = key
  · subst hother
    rw [AList.lookup_insert]
    simp
  · rw [AList.lookup_insert_ne hother]
    exact h other

theorem NoNull.erase (h : NoNull m) (key : String) : NoNull (m.erase key) := by
  intro other
  by_cases hother : other = key
  · subst hother
    rw [AList.lookup_erase]
    simp
  · rw [AList.lookup_erase_ne hother]
    exact h other

theorem NoNull.filterKeys (h : NoNull m) (keep : String → Bool) : NoNull (filterKeys m keep) := by
  intro key
  rw [lookup_filterKeys]
  split
  · exact h key
  · simp

variable {be : Backend} {env : Env} {current : Dict} {key : String}

/-- A key that the change of what is shown hands back stays as it is. -/
theorem target_of_same (h : m.lookup key = (shown be current).toDesired.lookup key) :
    target be env current m key = current.lookup key := by
  rw [target, h, Dict.lookup_toDesired, lookup_shown]
  by_cases hhidden : be = .rest ∧ isConf key = true
  · obtain ⟨rfl, hconf⟩ := hhidden
    simp [hconf, leaves]
  · rw [if_neg hhidden]
    cases hkey : current.lookup key with
    | some value => rfl
    | none => simp

/-- A key that the change drops goes, unless it is left. -/
theorem target_of_none (h : m.lookup key = none) :
    target be env current m key = if leaves be env key then current.lookup key else none := by
  rw [target, h]

end NoNull

end XcpCephRbd.Volume.MetaWrite
