import XcpCephRbd.Gc.Companions

/-!
# Calls that create, remove and record companions

What an operation does call by call, where calls may fail. An operation that has created a companion
and not recorded it yet, or has removed one that is still recorded, cannot make up for a call that
fails then (`Harmful`). The rules say what each call of an operation and the steps made of them
(`_rmw`, `create_companion`, `remove_all_companions`) leave of companions and records.
-/

namespace XcpCephRbd.Gc.Companions

open Volume (Dict Desired Info SameCbt)
open Volume.Cbtlog (companionName kLive kEnabled kMode snapPrefix isTapdisk snapKey)
open Datapath (SrMeta splitKey)
open Function (update)
open Prog (AllCalls Safe Setting)

/-- The cluster during an operation; `tried` says that the removal of an image has failed since the
operation began. -/
structure Site where
  cluster : Cluster
  tried : Bool := false

/-- The images of the SR. -/
def Site.view (sr : Sr) (s : Site) : View := Companions.view sr s.cluster.graph

/-- The error is an `RbdBackendError`. -/
def isBackend : Volume.Exc → Bool
  | .backend _ => true
  | _ => false

/-- The error is a `CalledProcessError`. -/
def isCalled : Volume.Exc → Bool
  | .calledProcess _ => true
  | _ => false

/-- The failure of a call that an operation cannot make up for: the removal of a companion; a call
on the way from a companion's creation to its record, other than an unmap, a `tap-ctl list` that
exits with an error and a refused read inside `image_meta_set`; a call on the way from a companion's
removal to that of its record or of the base, other than the first attempt at removing the base. -/
def Harmful (v : View) (tried : Bool) (error : Volume.Exc) : OpCall → Prop
  | .call (.remove image) => (∃ base gen, isVolume base = true ∧ image = companionName base gen) ∨
      (Unbacked v ∧ (tried = true ∨ isBackend error = false))
  | .call (.imageInfo _) | .call (.putImage _ _) => Unbacked v ∨ Unrecorded v
  | .call (.metaRead _) => Unbacked v ∨ (Unrecorded v ∧ isBackend error = false)
  | .call (.map _) | .call (.cbtCreate _ _) | .call (.cbtSet _ _) | .call (.findDevice _)
  | .call (.tapPause _) | .call (.tapUnpause _ _) => Unrecorded v
  | .call (.tapFind _) => Unrecorded v ∧ isCalled error = false
  | .call (.snapRemove _ _) | .imageRename _ _ => Unbacked v
  | .call (.snapSetProtected _ _ _) => Unbacked v ∧ isBackend error = false
  | _ => False

/-- A new UUID is none under which a generation has been recorded. -/
def NewUuid (v : View) : OpChoice → OpCall → Prop
  | .fresh text, .call .uuid4 => ∀ base metadata, v base = some metadata → snapKey text ∉ metadata
  | _, _ => True

/-- The removal of an image has failed. -/
def removeFailed : (c : OpCall) → Except Volume.Exc c.Result → Bool
  | .call (.remove _), .error _ => true
  | _, _ => false

/-- What the environment may do: report not found only what does not exist, choose new UUIDs, and
let calls fail that the operation can do without. -/
def Allowed (sr : Sr) (choice : OpChoice) (s : Site) (c : OpCall) : Prop :=
  OpTruthful sr choice s.cluster c ∧ NewUuid (s.view sr) choice c ∧
    ∀ error, choice = .fail error → ¬Harmful (s.view sr) s.tried error c

/-- The answer to a call. -/
def siteHandle (shape : Shape) (sr : Sr) (choice : OpChoice) (s : Site) (c : OpCall) :
    Option (Except Volume.Exc c.Result × Site) :=
  (opHandle shape sr choice s.cluster c).map fun (reply, cluster) =>
    (reply, { cluster := cluster, tried := s.tried || removeFailed c reply })

/-- An operation that runs alone. -/
def stepping (shape : Shape) (sr : Sr) : Setting Volume.Exc OpCall OpCall.Result Site OpChoice where
  handle := siteHandle shape sr
  allowed := Allowed sr
  rely := fun _ _ => False
  asserted := fun _ _ => True

section Rules

variable {shape : Shape} {sr : Sr} {α : Type} {s : Site} {v : View} {base image : String}

/-- Where nothing moves, nothing has moved. -/
theorem eq_of_moves {before : Site}
    (h : Relation.ReflTransGen (fun _ _ : Site => False) s before) : before = s := by
  cases h with
  | refl => rfl
  | tail _ hmove => exact hmove.elim

/-- What a call leads to: it succeeds, or it fails in a way that is allowed. -/
theorem siteHandle_cases {choice : OpChoice} {c : OpCall} {reply : Except Volume.Exc c.Result}
    {after : Site} (hallowed : Allowed sr choice s c)
    (h : siteHandle shape sr choice s c = some (reply, after)) :
    (∃ result cluster, reply = .ok result ∧
      opHandle shape sr choice s.cluster c = some (.ok result, cluster) ∧
        after = { cluster := cluster, tried := s.tried }) ∨
      ∃ error, reply = .error error ∧ ¬Harmful (s.view sr) s.tried error c ∧
        OpTruthful sr (.fail error) s.cluster c ∧
          after = { s with tried := s.tried || removeFailed c (.error error) } := by
  obtain ⟨⟨reply', cluster⟩, hhandle, heq⟩ := Option.map_eq_some_iff.mp h
  cases heq
  cases reply with
  | ok result =>
      refine .inl ⟨result, cluster, rfl, hhandle, ?_⟩
      have hnot : removeFailed c (.ok result) = false := by
        unfold removeFailed
        split
        next heq => cases heq
        next => rfl
      rw [hnot, Bool.or_false]
  | error error =>
      obtain ⟨rfl, rfl⟩ := opHandle_error hhandle
      exact .inr ⟨error, rfl, hallowed.2.2 error rfl, hallowed.1, rfl⟩

/-- A call on its own: what it leads to where it succeeds and where it fails. -/
theorem safe_opCall {c : OpCall} {post : c.Result → Site → Prop} {exc : Volume.Exc → Site → Prop}
    (hok : ∀ choice result cluster, NewUuid (s.view sr) choice c →
      opHandle shape sr choice s.cluster c = some (.ok result, cluster) →
      post result { cluster := cluster, tried := s.tried })
    (hfail : ∀ error, ¬Harmful (s.view sr) s.tried error c →
      OpTruthful sr (.fail error) s.cluster c →
      exc error { s with tried := s.tried || removeFailed c (.error error) }) :
    Safe (stepping shape sr) post exc (perform c) s := by
  intro before hmoves
  cases eq_of_moves hmoves
  refine ⟨trivial, fun choice reply after hallowed hhandle => ?_⟩
  obtain ⟨result, cluster, rfl, hanswer, rfl⟩ | ⟨error, rfl, hnot, htrue, rfl⟩ :=
    siteHandle_cases hallowed hhandle
  · exact hok choice result cluster hallowed.2.1 hanswer
  · exact hfail error hnot htrue

/-- A call of a plain operation on its own. -/
theorem safe_call {c : Volume.Call} {post : Volume.Result c → Site → Prop}
    {exc : Volume.Exc → Site → Prop}
    (hok : ∀ choice result cluster, NewUuid (s.view sr) choice (.call c) →
      opHandle shape sr choice s.cluster (.call c) = some (.ok result, cluster) →
      post result { cluster := cluster, tried := s.tried })
    (hfail : ∀ error, ¬Harmful (s.view sr) s.tried error (.call c) →
      OpTruthful sr (.fail error) s.cluster (.call c) →
      exc error { s with tried := s.tried || removeFailed (.call c) (.error error) }) :
    Safe (plain (stepping shape sr)) post exc (Volume.perform c) s := by
  intro before hmoves
  cases eq_of_moves hmoves
  refine ⟨trivial, fun choice reply after hallowed hhandle => ?_⟩
  obtain ⟨result, cluster, rfl, hanswer, rfl⟩ | ⟨error, rfl, hnot, htrue, rfl⟩ :=
    siteHandle_cases hallowed hhandle
  · exact hok choice result cluster hallowed.2.1 hanswer
  · exact hfail error hnot htrue

/-- The calls that leave the metadata of all images as it is, and all images. -/
def neutral (sr : Sr) (c : OpCall) : Bool :=
  match reqOf sr c with
  | some r => snapReq r
  | none => true

/-- The view is the same, and no removal has failed in between. -/
def Same (sr : Sr) (s s' : Site) : Prop := s'.view sr = s.view sr ∧ s'.tried = s.tried

theorem Same.refl (sr : Sr) (s : Site) : Same sr s s := ⟨rfl, rfl⟩

theorem Same.trans {s' s'' : Site} (h : Same sr s s') (h' : Same sr s' s'') : Same sr s s'' :=
  ⟨h'.1.trans h.1, h'.2.trans h.2⟩

/-- What a neutral call leaves. -/
theorem view_neutral {choice : OpChoice} {c : OpCall} {reply : Except Volume.Exc c.Result}
    {cluster : Cluster} (hneutral : neutral sr c = true)
    (h : opHandle shape sr choice s.cluster c = some (reply, cluster)) :
    view sr cluster.graph = s.view sr := by
  obtain hgraph | ⟨r, hreq, happly⟩ := opHandle_graph h
  · rw [hgraph]
    rfl
  · simp only [neutral, hreq] at hneutral
    exact view_snap hneutral happly

/-- A neutral call is not a removal. -/
theorem removeFailed_neutral {c : OpCall} (hneutral : neutral sr c = true) (error : Volume.Exc) :
    removeFailed c (.error error) = false := by
  unfold removeFailed
  split
  next => cases hneutral
  next => rfl

/-- What a neutral call leads to. -/
theorem same_neutral {choice : OpChoice} {c : OpCall} {reply : Except Volume.Exc c.Result}
    {after : Site} (hneutral : neutral sr c = true) (hallowed : Allowed sr choice s c)
    (h : siteHandle shape sr choice s c = some (reply, after)) : Same sr s after := by
  obtain ⟨result, cluster, rfl, hanswer, rfl⟩ | ⟨error, rfl, -, -, rfl⟩ :=
    siteHandle_cases hallowed h
  · exact ⟨view_neutral hneutral hanswer, rfl⟩
  · rw [removeFailed_neutral hneutral, Bool.or_false]
    exact Same.refl sr s

/-- A neutral call of a plain operation. -/
theorem safe_neutral {c : Volume.Call} (hneutral : neutral sr (.call c) = true) :
    Safe (plain (stepping shape sr)) (fun _ s' => Same sr s s')
      (fun error s' => Same sr s s' ∧ ¬Harmful (s.view sr) s.tried error (.call c))
      (Volume.perform c) s := by
  refine safe_call (fun choice result cluster _ hanswer => ?_) fun error hnot _ => ?_
  · exact ⟨view_neutral hneutral hanswer, rfl⟩
  · rw [removeFailed_neutral hneutral, Bool.or_false]
    exact ⟨Same.refl sr s, hnot⟩

/-- An operation all of whose calls are neutral, whatever fails. -/
theorem safe_quiet {p : Op α} (hp : AllCalls (fun c => neutral sr c = true) p) :
    Safe (stepping shape sr) (fun _ s' => Same sr s s') (fun _ s' => Same sr s s') p s := by
  refine Prog.safe_keep hp (fun _ _ _ hmove => False.elim hmove) (fun _ _ _ _ => trivial)
    (fun s' choice c reply after hneutral hsame hallowed hhandle => ?_) (Same.refl sr s)
  exact hsame.trans (same_neutral hneutral hallowed hhandle)

/-- A plain operation all of whose calls are neutral, whatever fails. -/
theorem safe_still {p : Volume.Op α} (hp : AllCalls (fun c => neutral sr (.call c) = true) p) :
    Safe (plain (stepping shape sr)) (fun _ s' => Same sr s s') (fun _ s' => Same sr s s') p s := by
  refine Prog.safe_keep hp (fun _ _ _ hmove => False.elim hmove) (fun _ _ _ _ => trivial)
    (fun s' choice c reply after hneutral hsame hallowed hhandle => ?_) (Same.refl sr s)
  exact hsame.trans (same_neutral hneutral hallowed hhandle)

end Rules


/-! ## Reads and writes of the metadata -/

section Metadata

variable {shape : Shape} {sr : Sr} {α : Type} {s : Site} {v : View} {base image : String}

/-- What a report says of the metadata. -/
theorem metadata_of_info {choice : OpChoice} {cluster : Cluster} {info : Info}
    (h : opHandle shape sr choice s.cluster (.call (.imageInfo image)) = some (.ok info, cluster)) :
    s.view sr image = some info.metadata ∧ cluster = s.cluster := by
  obtain ⟨rfl, img, himg, rfl⟩ := opHandle_info h
  exact ⟨by simp [Site.view, view, himg, Graph.volumeInfo], rfl⟩

/-- What the read inside `image_meta_set` says of the metadata. -/
theorem metadata_of_metaRead {choice : OpChoice} {cluster : Cluster} {info : Info}
    (h : opHandle shape sr choice s.cluster (.call (.metaRead image)) = some (.ok info, cluster)) :
    s.view sr image = some info.metadata ∧ cluster = s.cluster := by
  have hinfo : opHandle shape sr choice s.cluster (.call (.imageInfo image)) =
      some (.ok info, cluster) := by
    cases choice with
    | ok => exact h
    | _ => cases h
  exact metadata_of_info hinfo

/-- `image_info`: it reports the metadata, or its failure comes where companions and records are in
step. -/
theorem safe_imageInfo :
    Safe (plain (stepping shape sr))
      (fun info s' => Same sr s s' ∧ s.view sr image = some info.metadata)
      (fun _ s' => Same sr s s' ∧ InStep (s.view sr)) (Volume.imageInfo image) s := by
  refine safe_call (fun choice result cluster _ hanswer => ?_) fun error hnot _ => ?_
  · obtain ⟨hview, rfl⟩ := metadata_of_info hanswer
    exact ⟨Same.refl sr s, hview⟩
  · exact ⟨⟨rfl, Bool.or_false _⟩, not_or.mp hnot⟩

/-- `_rmw`: the metadata is replaced by what was made of it; where the read inside `image_meta_set`
fails nothing is dropped. -/
theorem safe_rmw {mutate : Desired → Desired} {post : Unit → Site → Prop}
    {exc : Volume.Exc → Site → Prop}
    (hreplaced : ∀ metadata s', s.view sr base = some metadata →
      s'.view sr = update (s.view sr) base
        (some (Volume.replaced metadata (mutate metadata.toDesired))) → post () s')
    (hblind : ∀ metadata s', ¬Unbacked (s.view sr) → s.view sr base = some metadata →
      s'.view sr = update (s.view sr) base
        (some (Volume.Image.setMetadata metadata (mutate metadata.toDesired))) → post () s')
    (hexc : ∀ error s', InStep (s.view sr) → s'.view sr = s.view sr → exc error s') :
    Safe (plain (stepping shape sr)) post exc (Volume.rmw base mutate) s := by
  have hput : ∀ metadata s' current, s.view sr base = some metadata → Same sr s s' →
      (∀ s'', s''.view sr = update (s.view sr) base (some (Volume.Image.setMetadata metadata
        (Volume.dropAbsent current (mutate metadata.toDesired)))) → post () s'') →
      ∀ size, Safe (plain (stepping shape sr)) post exc (Volume.perform (.putImage base
        { size := some size,
          metadata := some (Volume.dropAbsent current (mutate metadata.toDesired)) })) s' := by
    intro metadata s' current hview hsame hpost size
    refine safe_call (fun choice result cluster _ hanswer => ?_) fun error hnot _ => ?_
    · obtain ⟨metadata', hmeta, hafter⟩ := view_put (opHandle_ok rfl hanswer)
      have hsite : Companions.view sr s'.cluster.graph = s.view sr := hsame.1
      rw [hsite] at hmeta hafter
      cases hview.symm.trans hmeta
      exact hpost _ hafter
    · refine hexc error _ ?_ hsame.1
      rw [← hsame.1]
      exact not_or.mp hnot
  refine Prog.safe_bind (safe_imageInfo.mono (fun info s' hinfo => ?_) fun error s' hfail => ?_)
  · obtain ⟨hsame, hview⟩ := hinfo
    refine Prog.safe_bind (safe_except ?_)
    refine Prog.safe_bind (safe_call (fun choice current cluster _ hanswer => ?_)
      fun error hnot _ => ?_)
    · obtain ⟨hcurrent, rfl⟩ := metadata_of_metaRead hanswer
      rw [hsame.1] at hcurrent
      have heq : info.metadata = current.metadata :=
        Option.some.inj (hview.symm.trans hcurrent)
      refine hput _ _ _ hview hsame (fun s'' hafter => hreplaced _ s'' hview ?_) _
      rw [hafter, ← heq]
      rfl
    · have hnotBacked : ¬Unbacked (s.view sr) := by
        rw [← hsame.1]
        exact (not_or.mp hnot).1
      cases error with
      | backend error =>
          have hstill : Same sr s { s' with tried := s'.tried || false } :=
            ⟨hsame.1, (Bool.or_false _).trans hsame.2⟩
          exact hput _ _ ∅ hview hstill
            (fun s'' hafter => hblind _ s'' hnotBacked hview hafter) _
      | unimplemented | calledProcess | other =>
          refine hexc _ _ ⟨hnotBacked, ?_⟩ hsame.1
          rw [← hsame.1]
          exact fun hunrecorded => (not_or.mp hnot).2 ⟨hunrecorded, rfl⟩
  · exact hexc error s' hfail.2 hfail.1.1

end Metadata

/-! ## Creating and removing companions -/

section Companions

variable {shape : Shape} {sr : Sr} {s : Site} {v : View} {base gen : String}

/-- A companion that was just created is not recorded. -/
theorem unrecorded_of_created (hgood : Good v) (hbase : isVolume base = true)
    (hnew : v (companionName base gen) = none) :
    Unrecorded (update v (companionName base gen) (some ∅)) := by
  refine ⟨base, gen, hbase, by simp, fun metadata hmeta hrec => ?_⟩
  rw [Function.update_of_ne (ne_companionName hbase base gen)] at hmeta
  have hsome := (hgood base hbase).backed metadata gen hmeta hrec
  simp [hnew] at hsome

/-- A new generation is not empty. -/
theorem gen_of_answer {choice : OpChoice} {cluster : Cluster} {gen : String}
    (h : opHandle shape sr choice s.cluster (.call .gen) = some (.ok gen, cluster)) :
    gen ≠ "" ∧ cluster = s.cluster := by
  cases choice with
  | fresh text =>
      simp only [opHandle, Option.ite_none_right_eq_some, Option.some.injEq, Prod.mk.injEq,
        Except.ok.injEq] at h
      obtain ⟨hgen, rfl, rfl⟩ := h
      refine ⟨?_, rfl⟩
      rintro rfl
      simp [Volume.isGen] at hgen
  | ok => simp [opHandle, opEffect] at h
  | _ => cases h

/-- A call that does not fail here. -/
theorem safe_certain {c : Volume.Call} (hneutral : neutral sr (.call c) = true)
    (hharm : ∀ error, Harmful (s.view sr) s.tried error (.call c)) :
    Safe (plain (stepping shape sr)) (fun _ s' => Same sr s s') (fun _ _ => False)
      (Volume.perform c) s :=
  (safe_neutral hneutral).mono (fun _ _ hsame => hsame) fun error _ hfail => hfail.2 (hharm error)

theorem safe_unmap (image : String) :
    Safe (plain (stepping shape sr)) (fun _ s' => Same sr s s') (fun _ _ => False)
      (Volume.Cbtlog.unmap image) s := by
  refine Prog.safe_tryCatch ((safe_still (s := s) (.perform rfl)).mono (fun _ _ h => h)
    fun _ s' hsame => ?_)
  exact hsame

/-- `create_companion`: a new companion, not recorded yet. -/
theorem safe_createCompanion (hgood : Good (s.view sr)) (hbase : isVolume base = true)
    (size : Nat) :
    Safe (plain (stepping shape sr))
      (fun gen s' => gen ≠ "" ∧ s.view sr (companionName base gen) = none ∧
        s'.view sr = update (s.view sr) (companionName base gen) (some ∅))
      (fun _ s' => s'.view sr = s.view sr) (Volume.Cbtlog.createCompanion base size) s := by
  refine Prog.safe_bind (safe_call (fun choice gen cluster _ hanswer => ?_) fun error hnot _ => ?_)
  · obtain ⟨hgen, rfl⟩ := gen_of_answer hanswer
    refine Prog.safe_bind (safe_call (fun choice result cluster _ hcreate => ?_) fun _ _ _ => rfl)
    obtain ⟨hnew, hafter⟩ := view_create (opHandle_ok rfl hcreate)
    have hunrecorded := unrecorded_of_created hgood hbase hnew
    -- from here on nothing that fails would be passed over
    have hcertain : ∀ (s' : Site) (c : Volume.Call), neutral sr (.call c) = true →
        s'.view sr = update (s.view sr) (companionName base gen) (some ∅) →
        (∀ error, Unrecorded (s'.view sr) → Harmful (s'.view sr) s'.tried error (.call c)) →
        Safe (plain (stepping shape sr)) (fun _ s'' => s''.view sr =
          update (s.view sr) (companionName base gen) (some ∅)) (fun _ _ => False)
          (Volume.perform c) s' := by
      intro s' c hneutral hview hharm
      refine (safe_certain hneutral fun error => hharm error (hview ▸ hunrecorded)).mono
        (fun _ _ hsame => hsame.1.trans hview) fun _ _ h => h
    refine Prog.safe_bind ((hcertain { cluster := cluster, tried := s.tried }
      (.map (companionName base gen)) rfl hafter fun _ h => h).mono (fun _ s₁ h₁ => ?_)
        fun _ _ h => h.elim)
    have hinit : Safe (plain (stepping shape sr)) (fun _ s' => s'.view sr =
        update (s.view sr) (companionName base gen) (some ∅)) (fun _ _ => False) (do
          Volume.perform (.cbtCreate (companionName base gen) (Volume.Cbtlog.numBlocks size))
          Volume.perform (.cbtSet (companionName base gen) size)) s₁ :=
      Prog.safe_bind ((hcertain s₁ (.cbtCreate _ _) rfl h₁ fun _ h => h).mono
        (fun _ s₂ h₂ => hcertain s₂ (.cbtSet _ _) rfl h₂ fun _ h => h) fun _ _ h => h)
    refine Prog.safe_bind (Prog.safe_bind (Prog.safe_tryCatch (hinit.mono (fun _ s₂ h₂ => ?_)
      fun _ _ h => h.elim)))
    refine Prog.safe_bind ((safe_unmap _).mono (fun _ s₃ hsame => ?_) fun _ _ h => h.elim)
    exact ⟨hgen, hnew, hsame.1.trans h₂⟩
  · exact rfl

/-- `remove_companion`. -/
theorem safe_removeCompanion (hbase : isVolume base = true) (hgen : gen ≠ "") :
    Safe (plain (stepping shape sr))
      (fun _ s' => s'.view sr = update (s.view sr) (companionName base gen) none) (fun _ _ => False)
      (Volume.Cbtlog.removeCompanion base gen) s := by
  rw [Volume.Cbtlog.removeCompanion, if_neg hgen]
  refine Prog.safe_bind ((safe_unmap _).mono (fun _ s' hsame => ?_) fun _ _ h => h)
  refine Prog.safe_tryCatch (safe_call (fun choice result cluster _ hremove => ?_)
    fun error hnot _ => absurd (.inl ⟨base, gen, hbase, rfl⟩) hnot)
  have hafter := view_remove (opHandle_ok rfl hremove)
  rw [← hsame.1]
  exact hafter

theorem without_refl {gone : String → Prop} (hnone : ∀ gen, ¬gone gen) :
    Without base gone v v :=
  ⟨fun gen hgone => absurd hgone (hnone gen), fun _ _ => rfl⟩

/-- One companion more is removed. -/
theorem Without.remove {gone gone' : String → Prop} {v v' v'' : View}
    (hafter : v' = update v (companionName base gen) none) (h : Without base gone v' v'')
    (hgone : ∀ g, gone' g ↔ g = gen ∨ gone g) : Without base gone' v v'' where
  removed g hg := by
    by_cases hmem : gone g
    · exact h.removed g hmem
    · obtain rfl | hmem' := (hgone g).mp hg
      · have hother : v'' (companionName base g) = v' (companionName base g) :=
          h.others _ fun g' hg' heq => hmem (Volume.Cbtlog.companionName_inj heq ▸ hg')
        rw [hother, hafter, Function.update_self]
      · exact absurd hmem' hmem
  others name hname := by
    rw [h.others name fun g hg => hname g ((hgone g).mpr (.inr hg)), hafter,
      Function.update_of_ne (hname gen ((hgone gen).mpr (.inl rfl)))]

/-- The generation is among the entries. -/
def Among (entries : List ((_ : String) × String)) (gen : String) : Prop :=
  gen ≠ "" ∧ ∃ entry ∈ entries, entry.2 = gen

/-- The companions of a list of entries are removed one after the other. -/
theorem safe_removeEach (hbase : isVolume base = true) (entries : List ((_ : String) × String)) :
    Safe (plain (stepping shape sr))
      (fun _ s' => Without base (Among entries) (s.view sr) (s'.view sr)) (fun _ _ => False)
      (entries.forM fun entry => Volume.Cbtlog.removeCompanion base entry.2) s := by
  induction entries generalizing s with
  | nil => exact without_refl fun gen hgone => by simp [Among] at hgone
  | cons entry entries ih =>
      have hcons : ∀ g, Among (entry :: entries) g ↔ (g ≠ "" ∧ g = entry.2) ∨ Among entries g := by
        intro g
        simp only [Among, List.mem_cons, exists_eq_or_imp, eq_comm (a := entry.2)]
        tauto
      by_cases hgen : entry.2 = ""
      · have hskip : Volume.Cbtlog.removeCompanion base entry.2 = .ret () := by
          rw [Volume.Cbtlog.removeCompanion, if_pos hgen]
          rfl
        have hsame : Among (entry :: entries) = Among entries := by
          funext g
          refine propext ((hcons g).trans ⟨fun h => ?_, .inr⟩)
          obtain ⟨hne, heq⟩ | hamong := h
          · exact absurd (heq.trans hgen) hne
          · exact hamong
        show Safe _ _ _ (Volume.Cbtlog.removeCompanion base entry.2 >>= fun _ =>
          entries.forM fun entry => Volume.Cbtlog.removeCompanion base entry.2) s
        rw [hsame, hskip]
        exact ih
      · refine Prog.safe_bind ((safe_removeCompanion hbase hgen).mono (fun _ s' hafter => ?_)
          fun _ _ h => h)
        refine ih.mono (fun _ s'' hwithout => hwithout.remove hafter fun g => ?_) fun _ _ h => h
        rw [hcons]
        refine or_congr_left ⟨fun h => h.2, fun h => ⟨h ▸ hgen, h⟩⟩

/-- `remove_all_companions`. -/
theorem safe_removeAllCompanions (hbase : isVolume base = true) (metadata : Dict) :
    Safe (plain (stepping shape sr))
      (fun _ s' => Without base (Recorded metadata) (s.view sr) (s'.view sr)) (fun _ _ => False)
      (Volume.Cbtlog.removeAllCompanions base metadata) s := by
  have hamong : Among (metadata.entries.filter fun entry =>
      entry.1 == kLive || Text.startsWith entry.1 snapPrefix) = Recorded metadata := by
    funext gen
    refine propext (and_congr_right fun _ => ⟨?_, ?_⟩)
    · rintro ⟨entry, hentry, rfl⟩
      obtain ⟨hmem, hkey⟩ := List.mem_filter.mp hentry
      exact ⟨entry.1, hkey, AList.mem_lookup_iff.mpr hmem⟩
    · rintro ⟨key, hkey, hlook⟩
      exact ⟨⟨key, gen⟩, List.mem_filter.mpr ⟨AList.mem_lookup_iff.mp hlook, hkey⟩, rfl⟩
  rw [← hamong]
  exact safe_removeEach hbase _

end Companions

end XcpCephRbd.Gc.Companions
