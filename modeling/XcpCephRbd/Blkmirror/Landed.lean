import XcpCephRbd.Blkmirror.History

/-!
# What the passes leave on the destination

A pass of the worker copies what changed between its baseline and a new snapshot. The destination
held the baseline when the pass began and nobody else writes to it, so after a pass that has lost
nothing it holds the new snapshot, and that becomes the baseline. `LandedInv` carries this through
the passes. The number in its name keeps a pass's snapshot apart from those of the passes before it,
so no snapshot that has been copied comes back with another content.
-/

namespace XcpCephRbd.Blkmirror

variable {g : Geometry}

/-! ## The names of the snapshots -/

theorem toList_passSnap (now iters : Nat) : (passSnap now iters).toList =
    snapPrefix.toList ++ (now.repr.toList ++ '-' :: iters.repr.toList) := by
  simp [passSnap]

theorem toList_finalSnap (now : Nat) : (finalSnap now).toList =
    snapPrefix.toList ++ ("final-".toList ++ now.repr.toList) := by
  simp [finalSnap]

/-- Two passes of the same snapshot name have the same number. -/
theorem passSnap_inj {now now' iters iters' : Nat} (h : passSnap now iters = passSnap now' iters') :
    iters = iters' := by
  have hlist := congrArg String.toList h
  rw [toList_passSnap, toList_passSnap] at hlist
  have hdash : ∀ n : Nat, '-' ∉ n.repr.toList := fun n => Text.not_mem_repr (by decide)
  have htail := (List.append_cons_inj_of_notMem (hdash now) (hdash iters)).mp
    (List.append_cancel_left hlist)
  exact Text.repr_inj (String.toList_inj.mp htail.2.2)

/-- The final snapshot is none of a pass. -/
theorem passSnap_ne_finalSnap (now now' iters : Nat) : passSnap now iters ≠ finalSnap now' := by
  intro h
  have hlist := congrArg String.toList h
  rw [toList_passSnap, toList_finalSnap] at hlist
  have htail := List.append_cancel_left hlist
  have hmem : 'f' ∈ now.repr.toList ++ '-' :: iters.repr.toList := by
    rw [htail]
    exact List.mem_append_left _ (by decide)
  rcases List.mem_append.mp hmem with hnow | hiters
  · exact Text.not_mem_repr (by decide) hnow
  · rcases List.mem_cons.mp hiters with hdash | hiters
    · exact absurd hdash (by decide)
    · exact Text.not_mem_repr (by decide) hiters

/-! ## The passes -/

/-- The number of passes that have been copied. -/
def WorkerPc.passes : WorkerPc → Nat
  | .reap _ l _ _ => l.iters + 1
  | pc => pc.locals.iters

/-- The destination holds the content of the snapshot, if that still exists; with no snapshot, that
of the image at its creation. -/
def OnDst (g : Geometry) (w : World) (snap : Option String) : Prop :=
  ∀ img, w.baselineObjects snap = some img → Holds g w.dst (g.read img)

/-- What the destination holds at a control point of the worker. -/
def WorkerPc.Level (be : ObjectDiff g) (w : World) : WorkerPc → Prop
  | .reap _ _ snap _ => OnDst g w (some snap)
  | .copy _ l snap pc =>
      (∃ now, snap = passSnap now l.iters) ∧ (pc = .diff → OnDst g w l.baseline) ∧
        (pc ≠ .diff → ∃ before after old, Holds g old (g.read before) ∧
          (be.imageDiff before after).all Diff.present = true ∧
          (∀ img, w.snapshot snap = some img → img = after) ∧
          (pc.failed = false → CopyInv be before after old w.dst pc))
  | .failRead _ | .failReplace _ _ | .exited _ _ | .killed _ => True
  | pc => OnDst g w pc.locals.baseline

/-- What has been copied: each snapshot of a pass with what the destination then held. -/
structure LandedInv (be : ObjectDiff g) (x : Watched) : Prop where
  named : ∀ e ∈ x.landed, ∃ now k, e.1 = passSnap now k ∧
    (x.sys.worker.ended = false → k < x.sys.worker.passes)
  content : ∀ e ∈ x.landed, ∀ img, x.sys.world.snapshot e.1 = some img →
    Holds g e.2 (g.read img)
  level : x.sys.worker.Level be x.sys.world

/-- What the destination holds is told by fewer snapshots. -/
theorem OnDst.mono {w w' : World} {snap : Option String} (h : OnDst g w snap)
    (hdst : w'.dst = w.dst)
    (hsnap : ∀ name img, snap = some name → w'.snapshot name = some img →
      w.snapshot name = some img) :
    OnDst g w' snap := by
  intro img himg
  rw [hdst]
  refine h img ?_
  cases snap with
  | none => exact himg
  | some name => exact hsnap name img rfl himg

/-- A worker that stays where it is keeps its level, where the destination stays and no snapshot is
added. -/
theorem WorkerPc.Level.mono {be : ObjectDiff g} {w w' : World} {pc : WorkerPc} (h : pc.Level be w)
    (hdst : w'.dst = w.dst)
    (hsnap : ∀ name img, w'.snapshot name = some img → w.snapshot name = some img) :
    pc.Level be w' := by
  cases pc with
  | failRead | failReplace | exited | killed => trivial
  | reap job l snap n => exact OnDst.mono h hdst fun name img _ => hsnap name img
  | copy job l snap pc =>
      obtain ⟨hname, hdiff, hcopy⟩ := h
      refine ⟨hname, fun hpc => (hdiff hpc).mono hdst fun name img _ => hsnap name img,
        fun hpc => ?_⟩
      obtain ⟨before, after, old, hold, hpresent, hto, hinv⟩ := hcopy hpc
      refine ⟨before, after, old, hold, hpresent, fun img himg => hto img (hsnap _ _ himg), ?_⟩
      rw [hdst]
      exact hinv
  | _ => exact OnDst.mono h hdst fun name img _ => hsnap name img

/-- A worker that has ended has no level to keep. -/
theorem WorkerPc.level_of_ended {be : ObjectDiff g} {w : World} {pc : WorkerPc}
    (h : pc.ended = true) : pc.Level be w := by
  cases pc <;> trivial

/-- A step in which the worker stays where it is, or ends, completes no pass. -/
theorem Watched.noteLanded_of_stay {x : Watched} {s' : Sys}
    (h : s'.worker = x.sys.worker ∨ s'.worker.ended = true) : x.noteLanded s' = x.landed := by
  unfold noteLanded
  split
  · rename_i hcopy hreap
    rcases h with hsame | hended
    · cases (hsame.symm.trans hreap).symm.trans hcopy
    · rw [hreap] at hended
      cases hended
  · rfl

/-- The worker stays where it is or ends, beside a change that adds no snapshot, and that leaves the
destination alone unless the worker has ended. -/
theorem LandedInv.stay {be : ObjectDiff g} {x x' : Watched} (h : LandedInv be x)
    (hlanded : x'.landed = x.noteLanded x'.sys)
    (hworker : x'.sys.worker.ended = true ∨
      x'.sys.worker = x.sys.worker ∧ x'.sys.world.dst = x.sys.world.dst)
    (hsnap : ∀ name img, x'.sys.world.snapshot name = some img →
      x.sys.world.snapshot name = some img) :
    LandedInv be x' := by
  have hkept : x'.landed = x.landed := by
    rw [hlanded]
    exact Watched.noteLanded_of_stay (hworker.symm.imp_left And.left)
  refine ⟨fun e he => ?_, fun e he img himg => ?_, ?_⟩
  · obtain ⟨now, k, hname, hlt⟩ := h.named e (hkept ▸ he)
    refine ⟨now, k, hname, fun hended => ?_⟩
    rcases hworker with hended' | ⟨hsame, -⟩
    · cases hended'.symm.trans hended
    · rw [hsame] at hended ⊢
      exact hlt hended
  · exact h.content e (hkept ▸ he) img (hsnap _ _ himg)
  · rcases hworker with hended | ⟨hsame, hdst⟩
    · exact WorkerPc.level_of_ended hended
    · rw [hsame]
      exact h.level.mono hdst hsnap

/-! ## The steps -/

/-- A step of the worker's copy that loses nothing. -/
def passesWhole (be : ObjectDiff g) (s : Sys) : Act → Bool
  | .worker r =>
      match s.worker with
      | .copy _ l snap pc => pc.whole be s.world l.baseline snap r
      | _ => true
  | _ => true

/-- The copy of a pass, before and after one step of it. -/
theorem LandedInv.copied {be : ObjectDiff g} {x : Watched} {job : Job} {l : Locals} {snap : String}
    {pc : CopyPc} {r : Reply} {w' : World} {next : CopyNext} (h : LandedInv be x)
    (hw : x.sys.worker = .copy job l snap pc) (hwhole : passesWhole be x.sys (.worker r) = true)
    (hcopy : copyStep be x.sys.world l.baseline snap pc r = (w', next)) (hnext : next ≠ .raised) :
    ∃ before after old, Holds g old (g.read before) ∧
      (be.imageDiff before after).all Diff.present = true ∧
      (∀ img, x.sys.world.snapshot snap = some img → img = after) ∧
      (∀ pc', next = .goto pc' → pc'.failed = false → CopyInv be before after old w'.dst pc') ∧
      ∀ n, next = .returned n → Holds g w'.dst (g.read after) := by
  have hlevel := h.level
  rw [hw] at hlevel
  obtain ⟨-, hdiff, hunderway⟩ := hlevel
  have hstepWhole : pc.whole be x.sys.world l.baseline snap r = true := by
    simpa [passesWhole, hw] using hwhole
  have hstart : ∃ before after old, Holds g old (g.read before) ∧
      (be.imageDiff before after).all Diff.present = true ∧
      (pc = .diff → x.sys.world.baselineObjects l.baseline = some before) ∧
      (∀ img, x.sys.world.snapshot snap = some img → img = after) ∧
      (pc.failed = false → CopyInv be before after old x.sys.world.dst pc) := by
    by_cases hpc : pc = .diff
    · subst hpc
      obtain ⟨before, after, hbefore, hafter, hpresent⟩ :=
        copyStep_diff_whole hstepWhole hcopy hnext
      refine ⟨before, after, x.sys.world.dst, hdiff rfl before hbefore, hpresent,
        fun _ => hbefore, ?_, ?_⟩
      · intro img himg
        exact Option.some.inj (himg.symm.trans hafter)
      · exact fun _ _ _ => rfl
    · obtain ⟨before, after, old, hold, hpresent, hto, hinv⟩ := hunderway hpc
      exact ⟨before, after, old, hold, hpresent, fun hd => absurd hd hpc, hto, hinv⟩
  obtain ⟨before, after, old, hold, hpresent, hfrom, hto, hinv⟩ := hstart
  obtain ⟨hgoto, hreturned⟩ := copyStep_whole hstepWhole hfrom hto hinv hcopy
  refine ⟨before, after, old, hold, hpresent, hto, hgoto, fun n hn pos hpos => ?_⟩
  rw [hreturned n hn pos hpos]
  exact deliver_of_holds hpresent hold pos hpos

/-- The worker moves on within its pass, beside a change that leaves the destination alone and adds
no snapshot. -/
theorem LandedInv.move {be : ObjectDiff g} {x x' : Watched} (h : LandedInv be x)
    (hlanded : x'.landed = x.landed) (hended : x.sys.worker.ended = false)
    (hpasses : x'.sys.worker.passes = x.sys.worker.passes)
    (hsnap : ∀ e ∈ x.landed, ∀ img, x'.sys.world.snapshot e.1 = some img →
      x.sys.world.snapshot e.1 = some img)
    (hlevel : x'.sys.worker.Level be x'.sys.world) : LandedInv be x' := by
  refine ⟨fun e he => ?_, fun e he img himg => ?_, hlevel⟩
  · obtain ⟨now, k, hname, hlt⟩ := h.named e (hlanded ▸ he)
    exact ⟨now, k, hname, fun _ => hpasses ▸ hlt hended⟩
  · exact h.content e (hlanded ▸ he) img (hsnap e (hlanded ▸ he) img himg)

/-- A step of the worker. `hbase` says that its baseline has been copied, so that the snapshot of a
new pass has another name. -/
theorem LandedInv.workerStep {be : ObjectDiff g} {x x' : Watched} {r : Reply} (h : LandedInv be x)
    (hbase : ∀ snap, x.sys.worker.locals.baseline = some snap → snap ∈ x.landed.map Prod.fst)
    (hwhole : passesWhole be x.sys (.worker r) = true)
    (hlanded : x'.landed = x.noteLanded x'.sys) (hstep : WorkerStep be r x.sys x'.sys) :
    LandedInv be x' := by
  have hlevel := h.level
  obtain ⟨s', landed', deltas'⟩ := x'
  dsimp only at hlanded hstep
  cases hstep with
  | readJob job hw | pass job l hw | statusRead job l n hw | statusReplace job l n seen hw =>
      rw [hw] at hlevel
      simp only [Watched.noteLanded, hw] at hlanded
      exact h.move hlanded (by rw [hw]; rfl) (by rw [hw]; rfl) (fun _ _ _ => id) hlevel
  | noJob | stopSeen | failReplace | failUnreported =>
      exact h.stay hlanded (.inl rfl) fun _ _ => id
  | createFailed job l hw | statusFailed job l n seen hw | failRead l hw =>
      simp only [Watched.noteLanded, hw] at hlanded
      exact h.move hlanded (by rw [hw]; rfl) (by rw [hw]; rfl) (fun _ _ _ => id) trivial
  | copyFailed job l snap pc maps dst hw =>
      simp only [Watched.noteLanded, hw] at hlanded
      exact h.move hlanded (by rw [hw]; rfl) (by rw [hw]; rfl) (fun _ _ _ => id) trivial
  | create job l w hw hcreate =>
      rw [hw] at hlevel
      simp only [Watched.noteLanded, hw] at hlanded
      -- the number of the pass is in the name, so none of the copied snapshots has it
      have hnew : ∀ e ∈ x.landed, e.1 ≠ passSnap r.now l.iters := by
        intro e he heq
        obtain ⟨now, k, hname, hlt⟩ := h.named e he
        have hk : k < l.iters := by simpa [hw, WorkerPc.ended, WorkerPc.passes, WorkerPc.locals]
          using hlt
        exact absurd (passSnap_inj (hname.symm.trans heq)) (by omega)
      have hsnap : ∀ name, name ≠ passSnap r.now l.iters → ∀ img, w.snapshot name = some img →
          x.sys.world.snapshot name = some img := by
        intro name hne img himg
        rwa [World.snapCreate_snapshot_ne hcreate hne] at himg
      obtain ⟨snaps, hframe⟩ := World.snapCreate_frame hcreate
      refine h.move hlanded (by rw [hw]; rfl) (by rw [hw]; rfl)
        (fun e he => hsnap e.1 (hnew e he)) ⟨⟨r.now, rfl⟩, fun _ => ?_, fun hne => absurd rfl hne⟩
      refine OnDst.mono hlevel (by rw [hframe]) fun name img hname => hsnap name ?_ img
      obtain ⟨e, he, rfl⟩ := List.mem_map.mp (hbase name (by rw [hw]; exact hname))
      exact hnew e he
  | copy job l snap pc pc' maps dst hw hcopy =>
      rw [hw] at hlevel
      simp only [Watched.noteLanded, hw] at hlanded
      obtain ⟨before, after, old, hold, hpresent, hto, hgoto, -⟩ :=
        h.copied hw hwhole hcopy (by simp)
      refine h.move hlanded (by rw [hw]; rfl) (by rw [hw]; rfl) (fun _ _ _ => id)
        ⟨hlevel.1, fun hdiff => absurd hdiff (World.copyStep_ne_diff hcopy), fun _ => ?_⟩
      exact ⟨before, after, old, hold, hpresent, hto, hgoto pc' rfl⟩
  | copied job l snap pc n maps dst hw hcopy =>
      rw [hw] at hlevel
      simp only [Watched.noteLanded, hw] at hlanded
      subst hlanded
      obtain ⟨before, after, old, -, -, hto, -, hreturned⟩ := h.copied hw hwhole hcopy (by simp)
      have hholds : ∀ img, x.sys.world.snapshot snap = some img → Holds g dst (g.read img) := by
        intro img himg
        rw [hto img himg]
        exact hreturned n rfl
      -- the new entry is this pass's own snapshot, whose number is below the next pass's
      refine ⟨fun e he => ?_, fun e he img himg => ?_, hholds⟩
      · rcases List.mem_cons.mp he with rfl | he
        · obtain ⟨now, hname⟩ := hlevel.1
          exact ⟨now, l.iters, hname, fun _ => Nat.lt_succ_self l.iters⟩
        · obtain ⟨now, k, hname, hlt⟩ := h.named e he
          have hk : k < l.iters := by simpa [hw, WorkerPc.ended, WorkerPc.passes, WorkerPc.locals]
            using hlt
          exact ⟨now, k, hname, fun _ => Nat.lt_succ_of_lt hk⟩
      · rcases List.mem_cons.mp he with rfl | he
        · exact hholds img himg
        · exact h.content e he img himg
  | firstPass job l snap n hw =>
      rw [hw] at hlevel
      simp only [Watched.noteLanded, hw] at hlanded
      exact h.move hlanded (by rw [hw]; rfl) (by rw [hw]; rfl) (fun _ _ _ => id) hlevel
  | reap job l snap old n hw =>
      rw [hw] at hlevel
      simp only [Watched.noteLanded, hw] at hlanded
      obtain ⟨snaps, hframe⟩ := World.snapRemove_frame x.sys.world old r
      refine h.move hlanded (by rw [hw]; rfl) (by rw [hw]; rfl)
        (fun _ _ _ => World.snapshot_of_snapRemove) ?_
      exact OnDst.mono hlevel (by rw [hframe]) fun _ _ _ => World.snapshot_of_snapRemove

/-- A step that is none of the worker's own. -/
theorem LandedInv.otherStep {be : ObjectDiff g} {dconf : Dconf} {x x' : Watched} {a : Act}
    (h : LandedInv be x) (hdelta : DeltaInv be x) (hord : Ordered x.sys) (hapart : Apart x.sys a)
    (ha : ∀ r, a ≠ .worker r) (hstep : x.step be dconf a = some x') : LandedInv be x' := by
  obtain ⟨hsys, hlanded, -⟩ := Watched.of_step hstep
  cases a with
  | worker r => exact absurd rfl (ha r)
  | guestWrite off data | guestDiscard off len =>
      simp only [Blkmirror.step, Option.ite_none_right_eq_some, Option.some.injEq] at hsys
      refine h.stay hlanded (.inr ?_) fun name img himg => ?_
      · rw [← hsys.2]
        exact ⟨rfl, rfl⟩
      · rw [← hsys.2] at himg
        exact himg
  | crash =>
      simp only [Blkmirror.step, Option.ite_none_right_eq_some, Option.some.injEq] at hsys
      refine h.stay hlanded (.inl ?_) fun name img himg => ?_
      · rw [← hsys.2, Sys.killWorker, if_pos hsys.1]
        rfl
      · rw [← hsys.2, Sys.killWorker_world] at himg
        exact himg
  | mirror r =>
      have hcases := mirrorStep_cases hsys
      obtain ⟨s', landed', deltas'⟩ := x'
      dsimp only at hcases hlanded
      cases hcases with
      | spawn hm =>
          have habsent := hord.absent (by rw [hm]; rfl)
          have hlevel := h.level
          rw [habsent] at hlevel
          simp only [Watched.noteLanded, habsent] at hlanded
          exact h.move hlanded (by rw [habsent]; rfl) (by rw [habsent]; rfl)
            (fun _ _ _ => id) hlevel
      | _ => exact h.stay hlanded (.inr ⟨rfl, rfl⟩) fun _ _ => id
  | detach i r =>
      have hcases := detachStep_cases hsys
      rcases hcases.copy_cases with ⟨b, w, hd, hcreate, hworld, hworker, -⟩ |
        ⟨b, final, pc, next, hd, -, hworker, hsnaps, -⟩ | ⟨-, -, -, -, hdst, hsnap, -⟩
      · -- the final snapshot is none that a pass has copied
        obtain ⟨hended, -⟩ := hapart (by rw [hd]; rfl)
        rw [← hworker] at hended
        have hkept : x'.landed = x.landed :=
          hlanded.trans (Watched.noteLanded_of_stay (.inr hended))
        refine ⟨fun e he => ?_, fun e he img himg => ?_, WorkerPc.level_of_ended hended⟩
        · obtain ⟨now, k, hname, -⟩ := h.named e (hkept ▸ he)
          exact ⟨now, k, hname, fun hrun => absurd (hended.symm.trans hrun) (by simp)⟩
        · obtain ⟨now, k, hname, -⟩ := h.named e (hkept ▸ he)
          rw [hworld, World.snapCreate_snapshot_ne hcreate
            (hname ▸ passSnap_ne_finalSnap now r.now k)] at himg
          exact h.content e (hkept ▸ he) img himg
      · have hended := (hdelta.alone i (by rw [hd]; rfl)).1
        refine h.stay hlanded (.inl (hworker ▸ hended)) fun name img himg => ?_
        rwa [World.snapshot, ← hsnaps]
      · refine h.stay hlanded ?_ hsnap
        rcases hcases.frame.2 with hsame | hkilled
        · exact .inr ⟨hsame, hdst⟩
        · exact .inl (by rw [hkilled]; rfl)

theorem LandedInv.init (be : ObjectDiff g) (src : Objects) (snaps : List (String × Objects)) :
    LandedInv be (Watched.init src snaps) where
  named := by simp [Watched.init]
  content := by simp [Watched.init]
  level := by
    intro img himg pos _
    cases himg
    rfl

end XcpCephRbd.Blkmirror
