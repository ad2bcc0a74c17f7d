import XcpCephRbd.Gc.InStep

/-!
# The operations that create and remove companions

`enable_cbt`, `disable_cbt`, `snapshot` and `destroy`, one after the other, with calls that fail. As
long as no failure is one that the operation cannot make up for, companions and records are in step
after every operation (`companions_in_step`).
-/

namespace XcpCephRbd.Gc.Companions

open Volume (Dict Desired Info SameCbt)
open Volume.Cbtlog (companionName kLive kEnabled kMode snapPrefix isTapdisk snapKey)
open Datapath (SrMeta splitKey)
open Function (update)
open Prog (AllCalls Safe Setting)

/-! ## The operations -/

section Operations

variable {shape : Shape} {sr : Sr} {s : Site} {base gen : String} {metadata : Dict}

/-- The view is a good one. -/
def GoodSite (sr : Sr) (s : Site) : Prop := Good (s.view sr)

theorem GoodSite.same {s' : Site} (h : GoodSite sr s) (hview : s'.view sr = s.view sr) :
    GoodSite sr s' := by
  rw [GoodSite, hview]
  exact h

/-- The plain operation ends in a good view, whether it returns or raises. -/
abbrev EndsGood (shape : Shape) (sr : Sr) {α : Type} (p : Volume.Op α) (s : Site) : Prop :=
  Safe (plain (stepping shape sr)) (fun _ s' => GoodSite sr s') (fun _ s' => GoodSite sr s') p s

/-- A write that records a companion just created. -/
theorem safe_record {mutate : Desired → Desired} {v : View} (hgood : Good v)
    (hbase : isVolume base = true) (hv : v base = some metadata)
    (hnew : v (companionName base gen) = none)
    (hview : s.view sr = update v (companionName base gen) (some ∅))
    (hwritten : ∀ metadata', Left metadata (mutate metadata.toDesired) metadata' →
      ((∀ g, Recorded metadata' g ↔ Recorded metadata g ∨ g = gen) ∧ Distinct metadata') ∧
        isTapdisk metadata' = true) :
    Safe (plain (stepping shape sr)) (fun _ s' => GoodSite sr s') (fun _ _ => False)
      (Volume.rmw base mutate) s := by
  have hself : s.view sr base = some metadata := by
    rw [hview, Function.update_of_ne (ne_companionName hbase base gen), hv]
  have hpost : ∀ metadata₀ metadata' (s' : Site), s.view sr base = some metadata₀ →
      Left metadata₀ (mutate metadata₀.toDesired) metadata' →
      s'.view sr = update (s.view sr) base (some metadata') → GoodSite sr s' := by
    intro metadata₀ metadata' s' hv₀ hleft hafter
    cases hself.symm.trans hv₀
    obtain ⟨⟨hrecorded, hdistinct⟩, htapdisk⟩ := hwritten metadata' hleft
    rw [GoodSite, hafter, hview]
    exact hgood.record hbase hv hrecorded htapdisk hdistinct
  refine safe_rmw (fun metadata₀ s' hv₀ hafter => hpost _ _ s' hv₀ (.inl rfl) hafter)
    (fun metadata₀ s' _ hv₀ hafter => hpost _ _ s' hv₀ (.inr rfl) hafter) fun _ _ hstep _ => ?_
  exact hstep.2 (hview ▸ unrecorded_of_created hgood hbase hnew)

theorem neutral_injectRunning (base gen : String) :
    AllCalls (fun c => neutral sr (.call c) = true) (Volume.Cbtlog.injectRunning base gen) := by
  refine .bind (allCalls_tapRunning rfl rfl) fun running => ?_
  cases running with
  | none => trivial
  | some target => exact .bind (allCalls_relog rfl rfl rfl) fun _ => trivial

/-- The tapdisk route of `enable_cbt`. -/
theorem safe_enableTapdisk (hgood : GoodSite sr s) (hbase : isVolume base = true)
    (hv : s.view sr base = some metadata) (hoff : isTapdisk metadata = false) (size : Nat) :
    EndsGood shape sr (Volume.enableTapdisk base size) s := by
  have hnone : ∀ g, ¬Recorded metadata g := by
    intro g hrec
    have hon := (hgood base hbase).tapdisk metadata g hv hrec
    rw [hoff] at hon
    cases hon
  refine Prog.safe_bind ((safe_createCompanion hgood hbase size).mono (fun gen s₁ hcreated => ?_)
    fun _ s₁ hview => hgood.same hview)
  obtain ⟨hgen, hnew, hview⟩ := hcreated
  refine Prog.safe_bind ((safe_record hgood hbase hv hnew hview fun metadata' hleft => ?_).mono
    (fun _ s₂ hgood₂ => ?_) fun _ _ h => h.elim)
  · have hlook : ∀ key, metadata'.lookup key = if key = kLive then some gen
        else if key = kMode then some Volume.Cbtlog.modeTapdisk
        else if key = kEnabled then some "1" else metadata.lookup key := by
      intro key
      rw [lookup_left hleft]
      · simp only [lookup_assign, Volume.Dict.lookup_toDesired]
        split_ifs <;> first | rfl | cases metadata.lookup key <;> rfl
      · intro key hnone
        simp only [lookup_assign, Volume.Dict.lookup_toDesired] at hnone
        split_ifs at hnone
        exact Option.map_eq_none_iff.mp hnone
    refine ⟨recorded_enabled hnone hgen fun key hkey => ?_, ?_⟩
    · rw [hlook, if_neg (ne_of_recording hkey recording_kMode),
        if_neg (ne_of_recording hkey recording_kEnabled)]
    · have henabled : metadata'.lookup kEnabled = some "1" := hlook kEnabled
      have hmode : metadata'.lookup kMode = some Volume.Cbtlog.modeTapdisk := hlook kMode
      simp only [isTapdisk, Volume.Cbtlog.isEnabled, henabled, hmode]
      rfl
  · have hinject : AllCalls (fun c => neutral sr (.call c) = true) (do
        let _ ← Volume.Cbtlog.injectRunning base gen) :=
      .bind (neutral_injectRunning base gen) fun _ => trivial
    exact Prog.safe_tryCatch ((safe_still hinject).mono
      (fun _ s₃ hsame => hgood₂.same hsame.1) fun _ s₃ hsame => hgood₂.same hsame.1)

/-- A write of keys that are none of changed-block tracking. -/
theorem safe_other {mutate : Desired → Desired} (hgood : GoodSite sr s)
    (hbase : isVolume base = true)
    (hmutate : ∀ (m : Desired) key, Text.startsWith key "cbt." = true →
      (mutate m).lookup key = m.lookup key) :
    Safe (plain (stepping shape sr))
      (fun _ s' => GoodSite sr s' ∧ ∀ metadata, s.view sr base = some metadata →
        ∃ metadata', s'.view sr base = some metadata' ∧ SameCbt metadata metadata')
      (fun _ s' => s'.view sr = s.view sr) (Volume.rmw base mutate) s := by
  have hpost : ∀ metadata metadata' (s' : Site), s.view sr base = some metadata →
      SameCbt metadata metadata' → s'.view sr = update (s.view sr) base (some metadata') →
      GoodSite sr s' ∧ ∀ metadata, s.view sr base = some metadata →
        ∃ metadata', s'.view sr base = some metadata' ∧ SameCbt metadata metadata' := by
    intro metadata metadata' s' hv hsame hafter
    refine ⟨?_, fun metadata₀ hv₀ => ?_⟩
    · rw [GoodSite, hafter]
      exact hgood.sameCbt hbase hv hsame
    · cases hv.symm.trans hv₀
      exact ⟨metadata', by rw [hafter, Function.update_self], hsame⟩
  refine safe_rmw (fun metadata s' hv hafter => ?_) (fun metadata s' _ hv hafter => ?_)
    fun _ _ _ hview => hview
  · exact hpost _ _ s' hv (Volume.sameCbt_replaced mutate hmutate) hafter
  · refine hpost _ _ s' hv (fun key hkey => ?_) hafter
    rw [Volume.lookup_setMetadata, hmutate _ _ hkey, Volume.Dict.lookup_toDesired]
    cases metadata.lookup key <;> rfl

/-- The key under which CBT of a snapshot is marked is not one of the base's. -/
theorem lookup_cbtKey {key : String} (hkey : Text.startsWith key "cbt." = true) (snap : String) :
    key ≠ Volume.cbtKey (some snap) := by
  rw [Volume.cbtKey, String.append_assoc]
  exact Volume.ne_of_startsWith hkey

/-- `enable_cbt` of a volume on a tapdisk SR. -/
theorem safe_enableCbt (m : SrMeta) (hsr : Volume.isTapdiskSr m = true) (hgood : GoodSite sr s)
    {key : String} (hbase : isVolume (splitKey key).1 = true) :
    EndsGood shape sr (Volume.enableCbt m key) s := by
  obtain ⟨⟨base, snap⟩, hsplit⟩ : ∃ parts, splitKey key = parts := ⟨_, rfl⟩
  rw [hsplit] at hbase
  simp only [Volume.enableCbt, hsplit, hsr, Bool.and_true]
  cases snap with
  | none =>
      refine Prog.safe_bind (safe_imageInfo.mono (fun info s₁ hinfo => ?_)
        fun _ s₁ hfail => hgood.same hfail.1.1)
      obtain ⟨hsame, hv⟩ := hinfo
      have hgood₁ : GoodSite sr s₁ := hgood.same hsame.1
      cases hon : isTapdisk info.metadata with
      | true => exact hgood₁
      | false => exact safe_enableTapdisk hgood₁ hbase (hsame.1 ▸ hv) hon _
  | some snap =>
      refine Prog.safe_bind (safe_imageInfo.mono (fun info s₁ hinfo => ?_)
        fun _ s₁ hfail => hgood.same hfail.1.1)
      have hgood₁ : GoodSite sr s₁ := hgood.same hinfo.1.1
      split
      · refine (safe_other hgood₁ hbase fun d key hkey => ?_).mono (fun _ _ h => h.1)
          fun _ s₂ hview => hgood₁.same hview
        exact AList.lookup_insert_ne (lookup_cbtKey hkey snap)
      · exact hgood₁

/-- The write that clears the records of companions that have been removed. -/
theorem safe_clear {v : View} (hgood : Good v) (hbase : isVolume base = true)
    (hv : v base = some metadata) (hwithout : Without base (Recorded metadata) v (s.view sr)) :
    EndsGood shape sr
      (Volume.rmw base fun m => Volume.filterKeys m fun key => !Volume.isCbtlogKey key) s := by
  have hself : s.view sr base = some metadata := hwithout.base_eq.trans hv
  have hcleared : ∀ key, recording key = true → Volume.isCbtlogKey key = true := by
    intro key hkey
    simp only [recording, Bool.or_eq_true] at hkey
    simp only [Volume.isCbtlogKey, Bool.or_eq_true]
    exact hkey.imp (fun h => .inr h) id
  refine safe_rmw (fun metadata₀ s' hv₀ hafter => ?_) (fun metadata₀ s' hbacked hv₀ hafter => ?_)
    fun _ s' hstep hview => ?_
  · cases hself.symm.trans hv₀
    have hlook : ∀ key, recording key = true → (Volume.replaced metadata (Volume.filterKeys
        metadata.toDesired fun key => !Volume.isCbtlogKey key)).lookup key = none := by
      intro key hkey
      rw [Volume.lookup_replaced, Volume.lookup_filterKeys, hcleared key hkey]
      rfl
    rw [GoodSite, hafter]
    refine hgood.clear hbase hv hwithout (fun key gen hkey hgen => ?_) fun gen hrec => ?_
    · rw [hlook key hkey]
      exact ⟨fun h => (Option.some_ne_none _ h.symm).elim,
        fun h => absurd ⟨hgen, key, hkey, h.1⟩ h.2⟩
    · obtain ⟨-, key, hkey, h⟩ := hrec
      rw [hlook key hkey] at h
      cases h
  · cases hself.symm.trans hv₀
    have hgood' := hgood.of_not_unbacked hbase hwithout hbacked
    rw [GoodSite, hafter]
    refine hgood'.sameCbt hbase hself fun key _ => lookup_blind (fun key value hlook => ?_) key
    rw [Volume.lookup_filterKeys] at hlook
    split at hlook
    · rw [Volume.Dict.lookup_toDesired] at hlook
      obtain ⟨text, htext, rfl⟩ := Option.map_eq_some_iff.mp hlook
      exact htext.symm
    · cases hlook
  · exact GoodSite.same (hgood.of_not_unbacked hbase hwithout hstep.1) hview

/-- `disable_cbt` of a volume. -/
theorem safe_disableCbt (hgood : GoodSite sr s) {key : String}
    (hbase : isVolume (splitKey key).1 = true) : EndsGood shape sr (Volume.disableCbt key) s := by
  obtain ⟨⟨base, snap⟩, hsplit⟩ : ∃ parts, splitKey key = parts := ⟨_, rfl⟩
  rw [hsplit] at hbase
  simp only [Volume.disableCbt, hsplit]
  cases snap with
  | some snap =>
      refine (safe_other hgood hbase fun d key hkey => ?_).mono (fun _ _ h => h.1)
        fun _ s₂ hview => hgood.same hview
      exact AList.lookup_erase_ne (lookup_cbtKey hkey snap)
  | none =>
      refine Prog.safe_bind (safe_imageInfo.mono (fun info s₁ hinfo => ?_)
        fun _ s₁ hfail => hgood.same hfail.1.1)
      obtain ⟨hsame, hv⟩ := hinfo
      have hgood₁ : GoodSite sr s₁ := hgood.same hsame.1
      rw [← hsame.1] at hv
      cases hon : isTapdisk info.metadata with
      | true =>
          refine Prog.safe_bind ((safe_removeAllCompanions hbase info.metadata).mono
            (fun _ s₂ hwithout => ?_) fun _ _ h => h.elim)
          exact safe_clear hgood₁ hbase hv hwithout
      | false =>
          have hnone : ∀ g, ¬Recorded info.metadata g := by
            intro g hrec
            have hon' := (hgood₁ base hbase).tapdisk info.metadata g hv hrec
            rw [hon] at hon'
            cases hon'
          have hne : ∀ key, recording key = true → key ≠ Volume.cbtKey none :=
            fun key hkey => ne_of_recording hkey recording_kEnabled
          have hpost : ∀ metadata metadata' (s' : Site), s₁.view sr base = some metadata →
              (∀ key, recording key = true → metadata'.lookup key = metadata.lookup key) →
              s'.view sr = update (s₁.view sr) base (some metadata') → GoodSite sr s' := by
            intro metadata metadata' s' hv' hlook hafter
            cases hv.symm.trans hv'
            rw [GoodSite, hafter]
            exact hgood₁.rewrite hbase hv hlook fun g hrec => absurd hrec (hnone g)
          refine safe_rmw
            (fun metadata s' hv' hafter => hpost _ _ s' hv' (fun key hkey => ?_) hafter)
            (fun metadata s' _ hv' hafter => hpost _ _ s' hv' (fun key hkey => ?_) hafter)
            fun _ s' _ hview => hgood₁.same hview
          · rw [Volume.lookup_replaced,
              AList.lookup_erase_ne (hne key hkey),
              Volume.Dict.lookup_toDesired]
            cases metadata.lookup key <;> rfl
          · rw [Volume.lookup_setMetadata,
              AList.lookup_erase_ne (hne key hkey),
              Volume.Dict.lookup_toDesired]
            cases metadata.lookup key <;> rfl

/-- The removal of the companion sealed to a snapshot. -/
theorem safe_dropSealed (hgood : GoodSite sr s) (hbase : isVolume base = true) (snap : String) :
    EndsGood shape sr (Volume.dropSealed base snap) s := by
  refine safe_except_of (E := GoodSite sr) ?_ (fun _ _ h => h) fun _ _ h => h
  refine Prog.safe_bind (safe_imageInfo.mono (fun info s₁ hinfo => ?_)
    fun _ s₁ hfail => hgood.same hfail.1.1)
  obtain ⟨hsame, hv⟩ := hinfo
  have hgood₁ : GoodSite sr s₁ := hgood.same hsame.1
  rw [← hsame.1] at hv
  split
  next gen hsealed =>
    split
    next => exact hgood₁
    next hgen =>
      refine Prog.safe_bind ((safe_removeCompanion hbase hgen).mono (fun _ s₂ hafter => ?_)
        fun _ _ h => h.elim)
      have hwithout : Without base (· = gen) (s₁.view sr) (s₂.view sr) :=
        (without_refl fun _ h => h).remove hafter fun g => by simp
      have hself : s₂.view sr base = some info.metadata := hwithout.base_eq.trans hv
      have hrec : Recorded info.metadata gen :=
        ⟨hgen, snapKey snap, recording_snapKey snap, hsealed⟩
      have hunbacked : Unbacked (s₂.view sr) :=
        ⟨base, info.metadata, gen, hbase, hself, hrec, hwithout.removed gen rfl⟩
      refine safe_rmw (fun metadata s' hv' hwritten => ?_)
        (fun _ _ hbacked _ _ => absurd hunbacked hbacked)
        fun _ _ hstep _ => absurd hunbacked hstep.1
      cases hself.symm.trans hv'
      have hlook : ∀ key, (Volume.replaced info.metadata (AList.erase (snapKey snap)
          info.metadata.toDesired)).lookup key =
          if key = snapKey snap then none else info.metadata.lookup key := by
        intro key
        rw [Volume.lookup_replaced]
        split
        next heq => rw [heq, AList.lookup_erase]; rfl
        next hne =>
          rw [AList.lookup_erase_ne hne, Volume.Dict.lookup_toDesired]
          cases info.metadata.lookup key <;> rfl
      rw [GoodSite, hwritten]
      refine hgood₁.clear hbase hv hwithout (fun key g hkey hg => ?_) fun g hrec' => ?_
      · -- the generation is recorded under this key and no other
        have honly : info.metadata.lookup key = some gen → key = snapKey snap := fun h =>
          (hgood₁ base hbase).distinct info.metadata hv gen _ _ hgen hkey (recording_snapKey snap) h
            hsealed
        rw [hlook]
        split
        next heq =>
          subst heq
          refine ⟨(fun h => nomatch h), fun h => absurd ?_ h.2⟩
          exact Option.some.inj (h.1.symm.trans hsealed)
        next hne => exact ⟨fun h => ⟨h, fun heq => hne (honly (heq ▸ h))⟩, fun h => h.1⟩
      · have hmode : ∀ key, recording key = false → (Volume.replaced info.metadata
            (AList.erase (snapKey snap) info.metadata.toDesired)).lookup key =
              info.metadata.lookup key := fun key hkey => by
          rw [hlook, if_neg (ne_of_recording (recording_snapKey snap) hkey).symm]
        simp only [isTapdisk, Volume.Cbtlog.isEnabled, hmode kEnabled recording_kEnabled,
          hmode kMode recording_kMode]
        exact (hgood₁ base hbase).tapdisk info.metadata gen hv hrec
  next => exact hgood₁

/-- The removal of a snapshot makes neutral calls. -/
theorem neutral_releaseSnap (base snap : String) :
    AllCalls (fun c => neutral sr (.call c) = true) (Volume.releaseSnap base snap) := by
  refine .bind (allCalls_except (.bind (.perform rfl) fun info => ?_) fun _ => trivial) fun _ => ?_
  · split <;> trivial
  · split
    · exact .bind (.perform rfl) fun _ => .bind (.perform rfl) fun _ => .perform rfl
    · exact .bind (allCalls_except (.perform rfl) fun _ => trivial) fun _ => .perform rfl

/-- `destroy` of a snapshot. -/
theorem safe_destroySnap (hgood : GoodSite sr s) (hbase : isVolume base = true) (snap : String) :
    EndsGood shape sr (Volume.destroySnap base snap) s := by
  refine safe_except_of (E := GoodSite sr) ?_ (fun error s' h => ?_) fun _ _ h => h
  · refine Prog.safe_bind ((safe_still (neutral_releaseSnap base snap)).mono (fun _ s₁ hsame => ?_)
      fun _ s₁ hsame => hgood.same hsame.1)
    have hgood₁ : GoodSite sr s₁ := hgood.same hsame.1
    have hpurge : EndsGood shape sr (Volume.purgeSnapMeta base snap) s₁ := by
      refine safe_except_of (E := GoodSite sr) ?_ (fun _ _ h => h) fun _ _ h => h
      exact (safe_other hgood₁ hbase fun m key hkey => Volume.lookup_purged snap m hkey).mono
        (fun _ _ h => h.1) fun _ s₂ hview => hgood₁.same hview
    exact Prog.safe_bind (hpurge.mono (fun _ s₂ hgood₂ => safe_dropSealed hgood₂ hbase snap)
      fun _ _ h => h)
  · split <;> exact h

/-- The rotation's swap of the log, while the new companion is not recorded: nothing in it may
fail. -/
theorem safe_swapLog (hunrecorded : Unrecorded (s.view sr)) (oldGen : Option String)
    (newGen : String) :
    Safe (plain (stepping shape sr)) (fun _ s' => s'.view sr = s.view sr) (fun _ _ => False)
      (Volume.Cbtlog.swapLog base oldGen newGen) s := by
  have hcertain : ∀ (s' : Site) (c : Volume.Call), neutral sr (.call c) = true →
      s'.view sr = s.view sr →
      (∀ error, Unrecorded (s'.view sr) → Harmful (s'.view sr) s'.tried error (.call c)) →
      Safe (plain (stepping shape sr)) (fun _ s'' => s''.view sr = s.view sr) (fun _ _ => False)
        (Volume.perform c) s' := by
    intro s' c hneutral hview hharm
    refine (safe_certain hneutral fun error => hharm error (hview ▸ hunrecorded)).mono
      (fun _ _ hsame => hsame.1.trans hview) fun _ _ h => h
  have hrunning : Safe (plain (stepping shape sr)) (fun _ s' => s'.view sr = s.view sr)
      (fun _ _ => False) (Volume.Cbtlog.tapRunning base) s := by
    refine Prog.safe_bind ((hcertain s (.findDevice base) rfl rfl fun _ h => h).mono
      (fun mapped s₁ h₁ => ?_) fun _ _ h => h)
    split
    · refine Prog.safe_tryCatch ((safe_neutral rfl).mono (fun _ _ hsame => hsame.1.trans h₁)
        fun error _ hfail => ?_)
      have hview := hfail.1.1.trans h₁
      cases error with
      | calledProcess => exact hview
      | backend | unimplemented | other => exact hfail.2 ⟨h₁ ▸ hunrecorded, rfl⟩
    · exact h₁
  refine Prog.safe_bind (hrunning.mono (fun running s₁ h₁ => ?_) fun _ _ h => h)
  cases running with
  | none => exact h₁
  | some target =>
      refine Prog.safe_bind (Prog.safe_bind ((hcertain s₁ (.map _) rfl h₁ fun _ h => h).mono
        (fun _ s₂ h₂ => Prog.safe_bind ((hcertain s₂ (.tapPause _) rfl h₂ fun _ h => h).mono
          (fun _ s₃ h₃ => (hcertain s₃ (.tapUnpause _ _) rfl h₃ fun _ h => h).mono
            (fun _ s₄ h₄ => ?_) fun _ _ h => h) fun _ _ h => h)) fun _ _ h => h))
      cases oldGen with
      | none => exact h₄
      | some gen =>
          dsimp only
          split
          · exact h₄
          · exact (safe_unmap _).mono (fun _ s₅ hsame => hsame.1.trans h₄) fun _ _ h => h

/-- `snapshot`'s rotation: the metadata it works with is that of the base as far as changed-block
tracking goes, and the snapshot is a new one. -/
theorem safe_rotateLog (hgood : GoodSite sr s) (hbase : isVolume base = true) {current : Dict}
    {snap : String} (hv : isTapdisk metadata = true → s.view sr base = some current)
    (hsame : SameCbt metadata current) (hsnap : current.lookup (snapKey snap) = none) (size : Nat) :
    EndsGood shape sr (Volume.rotateLog base snap metadata size) s := by
  unfold Volume.rotateLog
  split
  next hon =>
    have hv := hv hon
    refine Prog.safe_tryCatch (Prog.safe_bind (Prog.safe_bind
      ((safe_createCompanion hgood hbase size).mono (fun gen s₁ hcreated => ?_)
        fun _ s₁ hview => hgood.same hview)))
    obtain ⟨hgen, hnew, hview⟩ := hcreated
    have hunrecorded := unrecorded_of_created hgood hbase hnew
    refine Prog.safe_bind ((safe_swapLog (hview ▸ hunrecorded) _ gen).mono (fun _ s₂ h₂ => ?_)
      fun _ _ h => h.elim)
    show Safe _ _ _ (Volume.rmw base fun m => Volume.updateWith m
      [(snapKey snap, Volume.Cbtlog.liveGen metadata), (kLive, some gen)]) s₂
    refine (safe_record hgood hbase hv hnew (h₂.trans hview) fun metadata' hleft => ?_).mono
      (fun _ _ h => h) fun _ _ h => h.elim
    have hlook : ∀ key, metadata'.lookup key = if key = kLive then some gen
        else if key = snapKey snap then current.lookup kLive else current.lookup key := by
      intro key
      have hlive : Volume.Cbtlog.liveGen metadata = current.lookup kLive := hsame.liveGen.symm
      rw [lookup_left hleft]
      · simp only [Volume.updateWith, List.foldl_cons, List.foldl_nil, lookup_assign,
          Volume.Dict.lookup_toDesired, hlive]
        split_ifs <;> first | rfl | cases current.lookup key <;> rfl
      · intro key hnone
        simp only [Volume.updateWith, List.foldl_cons, List.foldl_nil, lookup_assign,
          Volume.Dict.lookup_toDesired] at hnone
        split_ifs at hnone
        exact Option.map_eq_none_iff.mp hnone
    have hfresh : ¬Recorded current gen := fun hrec => by
      have hsome := (hgood base hbase).backed current gen hv hrec
      simp [hnew] at hsome
    refine ⟨recorded_rotated hfresh hgen hsnap ((hgood base hbase).distinct current hv)
      fun key _ => hlook key, ?_⟩
    have hmode : ∀ key, recording key = false → metadata'.lookup key = current.lookup key :=
      fun key hkey => by
        rw [hlook, if_neg (ne_of_recording recording_kLive hkey).symm,
          if_neg (ne_of_recording (recording_snapKey snap) hkey).symm]
    simp only [isTapdisk, Volume.Cbtlog.isEnabled, hmode kEnabled recording_kEnabled,
      hmode kMode recording_kMode]
    exact hsame.isTapdisk.trans hon
  next => exact hgood

/-- The creation of a snapshot makes neutral calls. -/
theorem neutral_takeSnap (base snap : String) :
    AllCalls (fun c => neutral sr (.call c) = true) (Volume.takeSnap base snap) :=
  allCalls_except (.bind (.perform rfl) fun _ => .perform rfl) fun _ =>
    .bind (allCalls_except (.bind (.perform rfl) fun _ => .perform rfl) fun _ => trivial)
      fun _ => trivial

/-- A new UUID is one under which nothing has been recorded. -/
theorem newUuid_of_answer {choice : OpChoice} {cluster : Cluster} {uuid : String}
    (hnew : NewUuid (s.view sr) choice (.call .uuid4))
    (h : opHandle shape sr choice s.cluster (.call .uuid4) = some (.ok uuid, cluster)) :
    (∀ base metadata, s.view sr base = some metadata → snapKey uuid ∉ metadata) ∧
      cluster = s.cluster := by
  cases choice with
  | fresh text =>
      simp only [opHandle, Option.ite_none_right_eq_some, Option.some.injEq, Prod.mk.injEq,
        Except.ok.injEq] at h
      obtain ⟨-, rfl, rfl⟩ := h
      exact ⟨hnew, rfl⟩
  | ok => simp [opHandle, opEffect] at h
  | _ => cases h

/-- `snapshot` of a volume. -/
theorem safe_snapshot (m : SrMeta) (hgood : GoodSite sr s) {key : String}
    (hbase : isVolume (splitKey key).1 = true) : EndsGood shape sr (Volume.snapshot m key) s := by
  obtain ⟨⟨base, existing⟩, hsplit⟩ : ∃ parts, splitKey key = parts := ⟨_, rfl⟩
  rw [hsplit] at hbase
  simp only [Volume.snapshot, hsplit]
  split
  · exact hgood
  refine Prog.safe_bind (safe_call (fun choice snap cluster hnew hanswer => ?_)
    fun _ _ _ => hgood.same rfl)
  obtain ⟨hnew, rfl⟩ := newUuid_of_answer hnew hanswer
  refine Prog.safe_bind ((safe_still (neutral_takeSnap base snap)).mono (fun _ s₁ hsame₁ => ?_)
    fun _ s₁ hsame => hgood.same hsame.1)
  have hgood₁ : GoodSite sr s₁ := hgood.same hsame₁.1
  -- what the read of the base gives: its metadata, or nothing
  have hread : Safe (plain (stepping shape sr)) (fun read s' => s'.view sr = s₁.view sr ∧
      (s₁.view sr base = some read.2 ∨ read.2 = ∅)) (fun _ s' => GoodSite sr s')
      (Volume.readBase base) s₁ := by
    refine safe_except_of (E := fun s' => s'.view sr = s₁.view sr) ?_
      (fun _ s' h => ⟨h, .inr rfl⟩) fun _ s' h => hgood₁.same h
    refine Prog.safe_bind (safe_imageInfo.mono (fun info s₂ hinfo => ?_)
      fun _ s₂ hfail => hfail.1.1)
    exact ⟨hinfo.1.1, .inl hinfo.2⟩
  refine Prog.safe_bind (hread.mono (fun read s₂ hread => ?_) fun _ _ h => h)
  obtain ⟨size, metadata⟩ := read
  obtain ⟨hview₂, hread⟩ := hread
  have hgood₂ : GoodSite sr s₂ := hgood₁.same hview₂
  have hviews : s₂.view sr = s.view sr := hview₂.trans hsame₁.1
  rw [← hview₂] at hread
  -- the names are seeded, and the base is as it was as far as changed-block tracking goes
  have hseed : Safe (plain (stepping shape sr)) (fun _ s' => GoodSite sr s' ∧
      ∀ metadata, s₂.view sr base = some metadata →
        ∃ metadata', s'.view sr base = some metadata' ∧ SameCbt metadata metadata')
      (fun _ s' => GoodSite sr s') (Volume.seedNames base snap metadata) s₂ := by
    have hstay : ∀ s' : Site, s'.view sr = s₂.view sr → GoodSite sr s' ∧
        ∀ metadata, s₂.view sr base = some metadata →
          ∃ metadata', s'.view sr base = some metadata' ∧ SameCbt metadata metadata' :=
      fun s' hview => ⟨hgood₂.same hview, fun metadata hv => ⟨metadata, hview ▸ hv, fun _ _ => rfl⟩⟩
    dsimp only [Volume.seedNames]
    split
    · refine safe_except_of (E := fun s' => s'.view sr = s₂.view sr) ?_
        (fun _ s' h => hstay s' h) fun _ s' h => hgood₂.same h
      exact safe_other hgood₂ hbase fun d key hkey => Volume.lookup_seeded d _ _ hkey
    · exact hstay s₂ rfl
  refine Prog.safe_bind (hseed.mono (fun _ s₃ hseeded => ?_) fun _ _ h => h)
  obtain ⟨hgood₃, hseeded⟩ := hseeded
  have hrotate : EndsGood shape sr (Volume.rotateLog base snap metadata size) s₃ := by
    obtain hv | rfl := hread
    · obtain ⟨metadata', hv', hsame⟩ := hseeded metadata hv
      refine safe_rotateLog hgood₃ hbase (fun _ => hv') hsame ?_ size
      rw [hsame _ (recording_cbt (recording_snapKey snap))]
      exact AList.lookup_eq_none.mpr (hnew base metadata (hviews ▸ hv))
    · exact safe_rotateLog hgood₃ hbase (fun hon => absurd hon (by decide)) (fun _ _ => rfl)
        (AList.lookup_eq_none.mpr (AList.notMem_empty _)) size
  exact Prog.safe_bind (hrotate.mono (fun _ _ h => h) fun _ _ h => h)

/-- A new UUID can always be had. -/
theorem safe_uuid4 : Safe (stepping shape sr) (fun _ s' => s' = s) (fun _ _ => False) uuid4 s := by
  intro before hmoves
  cases eq_of_moves hmoves
  refine ⟨trivial, fun choice reply after hallowed hhandle => ?_⟩
  obtain ⟨⟨reply', cluster⟩, hanswer, heq⟩ := Option.map_eq_some_iff.mp hhandle
  cases heq
  cases choice with
  | fresh text =>
      simp only [opHandle, Option.ite_none_right_eq_some, Option.some.injEq, Prod.mk.injEq]
        at hanswer
      obtain ⟨-, rfl, rfl⟩ := hanswer
      show ({ cluster := s.cluster, tried := s.tried || false } : Site) = s
      rw [Bool.or_false]
  | ok => simp [opHandle, opEffect] at hanswer
  | _ => cases hanswer

/-- The volume is about to go: without it the view would be good, and so it would be with it if no
record of it lacked its companion. -/
structure Leaving (sr : Sr) (base : String) (s : Site) : Prop where
  gone : Good (update (s.view sr) base none)
  backed : ¬Unbacked (s.view sr) → GoodSite sr s

theorem Leaving.same {s' : Site} (h : Leaving sr base s) (hview : s'.view sr = s.view sr) :
    Leaving sr base s' where
  gone := by
    rw [hview]
    exact h.gone
  backed hback := (h.backed (hview ▸ hback)).same hview

/-- A volume that is not there has gone. -/
theorem Leaving.absent (h : Leaving sr base s) (hnone : s.view sr base = none) : GoodSite sr s := by
  have hgone := h.gone
  rwa [← hnone, Function.update_eq_self] at hgone

/-- A volume goes once the companions of its records have. -/
theorem leaving_of_without {v : View} (hgood : Good v) (hbase : isVolume base = true)
    (hv : v base = some metadata) (hwithout : Without base (Recorded metadata) v (s.view sr)) :
    Leaving sr base s :=
  ⟨hgood.gone hbase hv hwithout, hgood.of_not_unbacked hbase hwithout⟩

/-- `_force_release` never raises. -/
theorem safe_forceRelease (image : String) :
    Safe (stepping shape sr) (fun _ s' => Same sr s s') (fun _ _ => False)
    (forceRelease image) s := by
  have hcalls : AllCalls (fun c => neutral sr c = true)
      (perform (.call (.findDevice image)) >>= fun mapped : Bool =>
        if mapped then perform (.call (.unmap image)) else pure ()) := by
    refine .bind (.perform rfl) fun mapped => ?_
    split
    · exact .perform rfl
    · trivial
  exact Prog.safe_tryCatch ((safe_quiet hcalls).mono (fun _ _ h => h) fun _ _ hsame => hsame)

/-- `_release_and_remove` of a volume that is about to go. -/
theorem safe_releaseAndRemove (hleaving : Leaving sr base s) :
    Safe (stepping shape sr) (fun _ s' => GoodSite sr s') (fun _ s' => GoodSite sr s')
      (releaseAndRemove base) s := by
  have hremoved : ∀ (s' : Site) choice result cluster, Leaving sr base s' →
      opHandle shape sr choice s'.cluster (.call (.remove base)) = some (.ok result, cluster) →
      GoodSite sr { cluster := cluster, tried := s'.tried } := by
    intro s' choice result cluster hleaving hanswer
    have hafter := view_remove (opHandle_ok rfl hanswer)
    show Good (view sr cluster.graph)
    rw [hafter]
    exact hleaving.gone
  refine Prog.safe_bind ((safe_forceRelease base).mono (fun _ s₁ hsame => ?_) fun _ _ h => h.elim)
  have hleaving₁ := hleaving.same hsame.1
  refine safe_catchBackend (safe_opCall (fun choice result cluster _ hanswer =>
    hremoved s₁ choice result cluster hleaving₁ hanswer) fun error hnot htrue => ?_)
  have hbacked : isBackend error = false → GoodSite sr s₁ := fun hother =>
    hleaving₁.backed fun hunbacked => hnot (.inr ⟨hunbacked, .inr hother⟩)
  cases error with
  | unimplemented | calledProcess | other => exact hbacked rfl
  | backend error =>
      show Safe _ _ _ (if error.notFound = true then _ else _) _
      split
      next hgone =>
        -- not found is said only of what does not exist
        have habsent : s₁.view sr base = none := by
          have hfound := htrue hgone
          simp only [opFound, reqOf, Option.map_some, Option.getD_some, Graph.found, Req.spec]
            at hfound
          exact view_eq_none_iff.mpr (of_decide_eq_false hfound)
        exact (hleaving₁.absent habsent).same rfl
      next =>
        -- the second attempt must not fail unless nothing was removed
        refine Prog.safe_bind ((safe_forceRelease base).mono (fun _ s₂ hsame₂ => ?_)
          fun _ _ h => h.elim)
        have hleaving₂ : Leaving sr base s₂ := hleaving₁.same hsame₂.1
        have htried : s₂.tried = true := by
          rw [hsame₂.2]
          exact Bool.or_true _
        refine safe_opCall (fun choice result cluster _ hanswer =>
          hremoved s₂ choice result cluster hleaving₂ hanswer) fun error hnot _ => ?_
        exact (hleaving₂.backed fun hunbacked => hnot (.inr ⟨hunbacked, .inl htried⟩)).same rfl

/-- The removal of the snapshots of a volume that is about to go. -/
theorem safe_removeSnaps (hleaving : Leaving sr base s) (snaps : List String) :
    Safe (stepping shape sr) (fun _ s' => Leaving sr base s') (fun _ s' => GoodSite sr s')
      (removeSnaps base snaps) s := by
  induction snaps generalizing s with
  | nil => exact hleaving
  | cons snap rest ih =>
      have hremove : Safe (plain (stepping shape sr)) (fun _ s' => Leaving sr base s')
          (fun _ s' => GoodSite sr s') (Volume.removeSnap base snap) s := by
        have hunprotect : Safe (plain (stepping shape sr)) (fun _ s' => Leaving sr base s')
            (fun _ s' => GoodSite sr s') (Volume.exceptBackend (Volume.perform
              (.snapSetProtected base snap false)) fun _ => pure ()) s := by
          refine safe_except ((safe_neutral rfl).mono (fun _ s' hsame => hleaving.same hsame.1)
            fun error s' hfail => ?_)
          have hother : isBackend error = false → GoodSite sr s' := fun hother =>
            (hleaving.same hfail.1.1).backed fun hunbacked =>
              hfail.2 ⟨hfail.1.1 ▸ hunbacked, hother⟩
          cases error with
          | backend error => exact hleaving.same hfail.1.1
          | unimplemented | calledProcess | other => exact hother rfl
        refine Prog.safe_bind (hunprotect.mono (fun _ s₁ hleaving₁ => ?_) fun _ _ h => h)
        refine (safe_neutral rfl).mono (fun _ s₂ hsame => hleaving₁.same hsame.1)
          fun error s₂ hfail => ?_
        exact (hleaving₁.same hfail.1.1).backed fun hunbacked => hfail.2 (hfail.1.1 ▸ hunbacked)
      exact Prog.safe_bind
        ((safe_lift hremove).mono (fun _ _ hleaving => ih hleaving) fun _ _ h => h)

/-- A volume that goes to the trash. -/
theorem safe_trashImage (hleaving : Leaving sr base s) :
    Safe (stepping shape sr) (fun _ s' => GoodSite sr s') (fun _ s' => GoodSite sr s')
      (trashImage base) s := by
  refine Prog.safe_bind (safe_uuid4.mono (fun uuid s' hsame => ?_) fun _ _ h => h.elim)
  subst hsame
  refine Prog.safe_bind (safe_opCall (fun choice result cluster _ hanswer => ?_)
    fun error hnot _ => (hleaving.backed hnot).same rfl)
  obtain ⟨metadata, -, hafter⟩ := view_rename (opHandle_ok rfl hanswer)
  have hgood : GoodSite sr { cluster := cluster, tried := s'.tried } := by
    show Good (view sr cluster.graph)
    rw [hafter]
    exact hleaving.gone.other (isVolume_trash uuid)
      (fun b gen => companionName_ne_trash b gen uuid) _
  exact (safe_quiet (.perform rfl)).mono (fun _ _ hsame => hgood.same hsame.1)
    fun _ _ hsame => hgood.same hsame.1

/-- `destroy` of a volume. -/
theorem safe_destroyBase (sxm : Bool) (hgood : GoodSite sr s) (hbase : isVolume base = true) :
    Safe (stepping shape sr) (fun _ s' => GoodSite sr s') (fun _ s' => GoodSite sr s')
      (destroyBase sxm base) s := by
  have hread : Safe (stepping shape sr) (fun read s' => s'.view sr = s.view sr ∧
      s.view sr base = read.map Info.metadata) (fun _ s' => GoodSite sr s')
        (infoOrGone base) s := by
    refine safe_catchBackend (Prog.safe_bind (safe_opCall
      (fun choice info cluster _ hanswer => ?_) fun error _ htrue => ?_))
    · obtain ⟨hview, rfl⟩ := metadata_of_info hanswer
      exact ⟨rfl, hview⟩
    · cases error with
      | unimplemented | calledProcess | other => exact hgood.same rfl
      | backend error =>
          show Safe _ _ _ (if error.notFound = true then _ else _) _
          split
          next hgone =>
            have hfound := htrue hgone
            simp only [opFound, decide_eq_false_iff_not] at hfound
            exact ⟨rfl, view_eq_none_iff.mpr hfound⟩
          next => exact hgood.same rfl
  refine Prog.safe_bind (hread.mono (fun read s₁ hread => ?_) fun _ _ h => h)
  obtain ⟨hview₁, hbaseView⟩ := hread
  have hgood₁ : GoodSite sr s₁ := hgood.same hview₁
  cases read with
  | none =>
      refine safe_releaseAndRemove ⟨?_, fun _ => hgood₁⟩
      rw [hview₁, ← show s.view sr base = none from hbaseView, Function.update_eq_self]
      exact hgood
  | some info =>
      have hv : s₁.view sr base = some info.metadata := (congrFun hview₁ base).trans hbaseView
      dsimp only
      split
      · exact hgood₁
      · have hdrop : Safe (stepping shape sr)
            (fun _ s' => Without base (Recorded info.metadata) (s₁.view sr) (s'.view sr))
            (fun _ _ => False) (dropCompanions base info.metadata) s₁ := by
          unfold dropCompanions
          split
          · exact safe_lift (safe_removeAllCompanions hbase info.metadata)
          next hoff =>
            exact without_refl fun gen hrec =>
              hoff ((hgood₁ base hbase).tapdisk info.metadata gen hv hrec)
        refine Prog.safe_bind (hdrop.mono (fun _ s₂ hwithout => ?_) fun _ _ h => h.elim)
        have hleaving := leaving_of_without hgood₁ hbase hv hwithout
        unfold disposeBase
        split
        · exact safe_trashImage hleaving
        · exact Prog.safe_bind ((safe_removeSnaps hleaving _).mono
            (fun _ _ hleaving => safe_releaseAndRemove hleaving) fun _ _ h => h)

/-- `destroy` of a volume or of a snapshot of one. -/
theorem safe_destroy (dbg : String) (hgood : GoodSite sr s) {key : String}
    (hbase : isVolume (splitKey key).1 = true) :
    Safe (stepping shape sr) (fun _ s' => GoodSite sr s') (fun _ s' => GoodSite sr s')
      (destroy dbg key) s := by
  obtain ⟨⟨base, snap⟩, hsplit⟩ : ∃ parts, splitKey key = parts := ⟨_, rfl⟩
  rw [hsplit] at hbase
  have hwhole : Safe (stepping shape sr) (fun _ s' => GoodSite sr s') (fun _ s' => GoodSite sr s')
      (catchBackend (destroyBase (fromSxm dbg) base) fun error =>
        if error.notFound then pure ()
        else throw (.other ("VDI destroy failed: " ++ error.message))) s := by
    refine safe_catch_of (safe_destroyBase (fromSxm dbg) hgood hbase) (fun error s' h => ?_)
      fun _ _ h => h
    split
    · exact h
    · exact h
  simp only [destroy, hsplit]
  cases snap with
  | none => exact hwhole
  | some snap =>
      dsimp only
      split
      · exact hwhole
      · exact safe_lift (safe_destroySnap hgood hbase snap)

end Operations

/-! ## Runs -/

/-- The operations that create and remove companions. -/
inductive Operation where
  | enableCbt (key : String)
  | disableCbt (key : String)
  | snapshot (key : String)
  | destroy (dbg key : String)
  deriving DecidableEq, Repr

/-- The key of the volume or the snapshot. -/
def Operation.key : Operation → String
  | .enableCbt key | .disableCbt key | .snapshot key | .destroy _ key => key

/-- What the operation does; the record that `snapshot` returns does not matter here. -/
def Operation.body (m : SrMeta) : Operation → Op Unit
  | .enableCbt key => lift (Volume.enableCbt m key)
  | .disableCbt key => lift (Volume.disableCbt key)
  | .snapshot key => do
      let _ ← lift (Volume.snapshot m key)
  | .destroy dbg key => Gc.destroy dbg key

/-- The operation that runs, and the cluster. -/
structure Plugin where
  op : Op Unit
  site : Site

/-- An operation on a volume begins, or a call of it is answered. -/
inductive Event where
  | begin (operation : Operation)
  | call (choice : OpChoice)

/-- Before the first operation. -/
def start (cluster : Cluster) : Plugin := { op := .ret (), site := { cluster := cluster } }

/-- The operations run one after the other. -/
def step (shape : Shape) (sr : Sr) (m : SrMeta) (s : Plugin) : Event → Option Plugin
  | .begin operation =>
      if s.op.finished && isVolume (splitKey operation.key).1 then
        some { op := operation.body m, site := { s.site with tried := false } }
      else none
  | .call choice => (s.op.next (siteHandle shape sr) choice s.site).map fun (op, site) =>
      { op := op, site := site }

/-- The environment keeps to what it may do. -/
def Harmless (sr : Sr) (s : Plugin) : Event → Prop
  | .begin _ => True
  | .call choice => ∀ c ∈ s.op.firstCall, Allowed sr choice s.site c

/-- Changed-block tracking is on nowhere. -/
def Untracked (v : View) : Prop := ∀ base, isVolume base = true →
  (∀ gen, v (companionName base gen) = none) ∧
    ∀ metadata key, v base = some metadata → recording key = true → metadata.lookup key = none

section Runs

variable {shape : Shape} {sr : Sr} {m : SrMeta} {s s' : Plugin}

/-- Where nothing is tracked there is nothing to be out of step. -/
theorem Untracked.good {v : View} (h : Untracked v) : Good v := by
  intro base hbase
  obtain ⟨hcompanions, hkeys⟩ := h base hbase
  have hnone : ∀ metadata gen, v base = some metadata → ¬Recorded metadata gen := by
    rintro metadata gen hv ⟨-, key, hkey, hlook⟩
    rw [hkeys metadata key hv hkey] at hlook
    cases hlook
  refine ⟨fun md gen hmd hrec => ?_, fun gen hsome => ?_, fun md gen hmd hrec => ?_,
    fun md hmd => ?_⟩
  · exact absurd hrec (hnone md gen hmd)
  · rw [hcompanions gen] at hsome
    cases hsome
  · exact absurd hrec (hnone md gen hmd)
  · intro gen key _ _ hkey _ hlook _
    rw [hkeys md key hmd hkey] at hlook
    cases hlook

/-- The rest of the operation ends in a good view. -/
def Sound (shape : Shape) (sr : Sr) (s : Plugin) : Prop :=
  Safe (stepping shape sr) (fun _ s' => GoodSite sr s') (fun _ s' => GoodSite sr s') s.op s.site

/-- Where an operation has ended the view is good. -/
theorem Sound.good (h : Sound shape sr s) (hdone : s.op.finished = true) : GoodSite sr s.site := by
  obtain ⟨op, site⟩ := s
  cases op with
  | ret value => exact h
  | raise error => exact h
  | call c resume => cases hdone

/-- Every operation that begins in a good view ends in one. -/
theorem safe_body (hsr : Volume.isTapdiskSr m = true) {site : Site} (hgood : GoodSite sr site)
    {operation : Operation} (hbase : isVolume (splitKey operation.key).1 = true) :
    Sound shape sr { op := operation.body m, site := site } := by
  cases operation with
  | enableCbt key => exact safe_lift (safe_enableCbt m hsr hgood hbase)
  | disableCbt key => exact safe_lift (safe_disableCbt hgood hbase)
  | snapshot key =>
      exact Prog.safe_bind ((safe_lift (safe_snapshot m hgood hbase)).mono (fun _ _ h => h)
        fun _ _ h => h)
  | destroy dbg key => exact safe_destroy dbg hgood hbase

/-- One step keeps the rest of the operation sound. -/
theorem Sound.step {event : Event} (hsr : Volume.isTapdiskSr m = true) (h : Sound shape sr s)
    (hguard : Harmless sr s event) (hstep : step shape sr m s event = some s') :
    Sound shape sr s' := by
  cases event with
  | begin operation =>
      simp only [Companions.step, Option.ite_none_right_eq_some, Bool.and_eq_true,
        Option.some.injEq] at hstep
      obtain ⟨⟨hdone, hbase⟩, rfl⟩ := hstep
      have hgood : GoodSite sr { s.site with tried := false } := (h.good hdone).same rfl
      exact safe_body hsr hgood hbase
  | call choice =>
      obtain ⟨⟨op, site⟩, hnext, rfl⟩ := Option.map_eq_some_iff.mp hstep
      exact Safe.next h (fun c hfirst => hguard c hfirst) hnext

/-- In every run of `enable_cbt`, `disable_cbt`, `snapshot` and `destroy` on a tapdisk SR where
nothing was tracked, and in which no call fails that the operation cannot do without: whenever no
operation runs, every recorded generation of an existing volume has its companion, and every
companion is recorded in the metadata of an existing volume. -/
theorem companions_in_step {cluster : Cluster} {events : List Event}
    (hsr : Volume.isTapdiskSr m = true) (hinit : Untracked (view sr cluster.graph))
    (hrun : Run.run (step shape sr m) (start cluster) events = some s)
    (hguard : Run.Along (step shape sr m) (Harmless sr) (start cluster) events)
    (hdone : s.op.finished = true) : InStep (view sr s.site.cluster.graph) := by
  have hstart : Sound shape sr (start cluster) := hinit.good
  have hfinal : Sound shape sr s :=
    Run.run_invariant (fun _ _ _ h hguard hstep => h.step hsr hguard hstep) hstart hguard hrun
  exact (hfinal.good hdone).inStep

end Runs

section Examples

/-- A call fails. -/
def Event.fails : Event → Bool
  | .call (.fail _) => true
  | _ => false

/-- A failure that never matters, and a UUID or a generation that no image has a record for. -/
def mildCall (cluster : Cluster) : OpChoice → OpCall → Bool
  | .fail (.backend error), .call (.unmap _) => !error.notFound
  | .fail _, _ => false
  | .fresh text, _ =>
      decide (∀ entry ∈ cluster.graph.images.entries, snapKey text ∉ entry.2.metadata)
  | _, _ => true

/-- The environment does nothing else. -/
def Mild (s : Plugin) : Event → Prop
  | .begin _ => True
  | .call choice => ∀ c ∈ s.op.firstCall, mildCall s.site.cluster choice c = true

instance (s : Plugin) (event : Event) : Decidable (Mild s event) :=
  match event with
  | .begin _ => isTrue trivial
  | .call _ => inferInstanceAs (Decidable (∀ _ ∈ _, _))

/-- That is harmless. -/
theorem Mild.harmless {sr : Sr} {s : Plugin} {event : Event} (h : Mild s event) :
    Harmless sr s event := by
  cases event with
  | begin operation => trivial
  | call choice =>
      intro c hfirst
      have hmild := h c hfirst
      cases choice with
      | fail error =>
          unfold mildCall at hmild
          split at hmild
          next error _ heq =>
            cases heq
            refine ⟨fun hnotFound => ?_, trivial, fun error heq hharm => hharm⟩
            rw [show error.notFound = true from hnotFound] at hmild
            cases hmild
          all_goals simp_all
      | fresh text =>
          refine ⟨nofun, ?_, nofun⟩
          have hnew : ∀ base metadata, s.site.view sr base = some metadata →
              snapKey text ∉ metadata := by
            intro base metadata hv
            obtain ⟨img, himg, rfl⟩ := Option.map_eq_some_iff.mp hv
            exact of_decide_eq_true hmild ⟨_, img⟩ (AList.mem_lookup_iff.mp himg)
          unfold NewUuid
          split
          next heq =>
            cases heq
            exact hnew
          next => trivial
      | _ => exact ⟨nofun, trivial, nofun⟩

/-- The name of a volume. -/
def diskName (digit : String) : String := "11111111-1111-1111-1111-11111111111" ++ digit

/-- A tapdisk SR. -/
def tapdiskSr : SrMeta := ⟨"sr", "rbd", none, some "tapdisk"⟩

/-- A volume that is not tracked. -/
def plainCluster : Cluster where
  graph := { images := AList.insert (⟨"rbd", "", diskName "1"⟩ : Spec) { id := 0, size := 65536 } ∅
             nextId := 1 }

/-- Tracking is switched on, with an unmap that fails, a snapshot is taken, and tracking is switched
off. -/
def trackedEvents : List Event :=
  [.begin (.enableCbt (diskName "1")), .call .ok, .call (.fresh "000000000001"), .call .ok,
    .call .ok, .call .ok, .call .ok,
    .call (.fail (.backend { message := "busy", notFound := false })), .call .ok, .call .ok,
    .call .ok, .call (.flag false),
    .begin (.snapshot (diskName "1")), .call (.fresh (diskName "2")), .call .ok, .call .ok,
    .call .ok, .call (.fresh "000000000002"), .call .ok, .call .ok, .call .ok, .call .ok, .call .ok,
    .call (.flag false), .call .ok, .call .ok, .call .ok,
    .begin (.disableCbt (diskName "1")), .call .ok, .call .ok, .call .ok, .call .ok, .call .ok,
    .call .ok, .call .ok, .call .ok]

/-- Nothing is tracked in the cluster. -/
theorem untracked_plainCluster : Untracked (view ⟨"rbd", ""⟩ plainCluster.graph) := by
  intro base hbase
  have hview : ∀ name, name ≠ diskName "1" → view ⟨"rbd", ""⟩ plainCluster.graph name = none := by
    intro name hname
    refine view_eq_none_iff.mpr fun hmem => hname ?_
    obtain hspec | hmem := (AList.mem_insert ∅).mp hmem
    · exact congrArg Spec.image hspec
    · exact absurd hmem (AList.notMem_empty _)
  refine ⟨fun gen => hview _ (ne_companionName (by decide) base gen).symm, ?_⟩
  intro metadata key hv hkey
  by_cases hname : base = diskName "1"
  · subst hname
    cases hv
    rfl
  · rw [hview base hname] at hv
    cases hv

/-- A run with all operations but `destroy` and with a call that fails. -/
theorem companions_in_step_tracked :
    ∃ s, Run.run (step .rest ⟨"rbd", ""⟩ tapdiskSr) (start plainCluster) trackedEvents = some s ∧
      s.op.finished = true ∧ trackedEvents.any Event.fails = true ∧
        InStep (view ⟨"rbd", ""⟩ s.site.cluster.graph) := by
  have hchecked : (Run.checked (step .rest ⟨"rbd", ""⟩ tapdiskSr) Mild (start plainCluster)
      trackedEvents).any (fun s => s.op.finished) = true := by
    decide +kernel
  obtain ⟨s, hrun, hmild, hdone⟩ := Run.exists_of_checked hchecked
  have hguard : Run.Along (step .rest ⟨"rbd", ""⟩ tapdiskSr) (Harmless ⟨"rbd", ""⟩)
      (start plainCluster) trackedEvents := hmild.mono fun _ _ h => h.harmless
  exact ⟨s, hrun, hdone, rfl,
    companions_in_step (by decide) untracked_plainCluster hrun hguard hdone⟩

/-- `enable_cbt` whose map of the new companion fails. -/
def orphanedEvents : List Event :=
  [.begin (.enableCbt (diskName "1")), .call .ok, .call (.fresh "000000000001"), .call .ok,
    .call (.fail (.other "map failed"))]

/-- One call fails, and a companion is left that no metadata records. -/
theorem companion_orphaned :
    ∃ s, Run.run (step .rest ⟨"rbd", ""⟩ tapdiskSr) (start plainCluster) orphanedEvents = some s ∧
      s.op.finished = true ∧ (orphanedEvents.filter Event.fails).length = 1 ∧
        ¬InStep (view ⟨"rbd", ""⟩ s.site.cluster.graph) := by
  have hchecked : (Run.checked (step .rest ⟨"rbd", ""⟩ tapdiskSr) (fun _ _ => True)
      (start plainCluster) orphanedEvents).any (fun s => s.op.finished &&
        decide ((view ⟨"rbd", ""⟩ s.site.cluster.graph (diskName "1")).map AList.entries = some [] ∧
          (view ⟨"rbd", ""⟩ s.site.cluster.graph
            (companionName (diskName "1") "000000000001")).isSome)) = true := by
    decide +kernel
  obtain ⟨s, hrun, -, htest⟩ := Run.exists_of_checked hchecked
  rw [Bool.and_eq_true, decide_eq_true_eq] at htest
  obtain ⟨hdone, hbase, hcompanion⟩ := htest
  refine ⟨s, hrun, hdone, rfl, fun hstep => hstep.2 ?_⟩
  refine ⟨diskName "1", "000000000001", by decide, hcompanion, fun metadata hv hrec => ?_⟩
  obtain ⟨-, key, -, hlook⟩ := hrec
  rw [hv, Option.map_some, Option.some.injEq] at hbase
  have hmem := AList.mem_lookup_iff.mp hlook
  rw [hbase] at hmem
  cases hmem

end Examples

end XcpCephRbd.Gc.Companions
