import Mathlib.Data.List.TakeDrop
import Mathlib.Data.List.TakeWhile
import XcpCephRbd.Lib.Text
import XcpCephRbd.Lib.Url

/-!
# The target of a datapath URI

`_resolve` of `datapath.py`: a URI `rbd://<sr_uuid>/<key>[?dp=<mode>]` names an image, or a snapshot
as `<base>@<snap>`, and the serve mode is that of the query or else of the SR. The rest of the
device-config goes to krbd only and is left out.
-/

namespace XcpCephRbd.Datapath

/-- What `_resolve` reads of an SR's metadata. -/
structure SrMeta where
  srUuid : String
  pool : String
  dconfNamespace : Option String := none
  datapath : Option String := none
  deriving DecidableEq, Repr

/-- What a URI stands for. -/
structure Target where
  pool : String
  ns : String
  image : String
  snap : Option String
  mode : String
  deriving DecidableEq, Repr

/-- `value or default`, the empty string being false. -/
def orDefault (value : Option String) (default : String) : String :=
  match value with
  | some text => if text = "" then default else text
  | none => default

/-- `key.split("@", 1)`, with no snapshot where there is no `@`. -/
def splitKey (key : String) : String × Option String :=
  match key.toList.span (· != '@') with
  | (base, '@' :: snap) => (String.ofList base, some (String.ofList snap))
  | _ => (key, none)

/-- A name without `@` is the key of a base. -/
theorem splitKey_base {base : String} (hat : '@' ∉ base.toList) : splitKey base = (base, none) := by
  have hall : ∀ c ∈ base.toList, (c != '@') = true := fun c hc => by
    simp only [bne_iff_ne]
    rintro rfl
    exact hat hc
  have hspan : base.toList.span (· != '@') = (base.toList, []) := by
    rw [List.span_eq_takeWhile_dropWhile, Prod.mk.injEq, List.takeWhile_eq_self_iff,
      List.dropWhile_eq_nil_iff]
    exact ⟨hall, hall⟩
  rw [splitKey, hspan]

/-- A name without `@`, an `@` and any other name is the key of a snapshot. -/
theorem splitKey_at {base : String} (hat : '@' ∉ base.toList) (snap : String) :
    splitKey (base ++ "@" ++ snap) = (base, some snap) := by
  have hall : ∀ c ∈ base.toList, (c != '@') = true := fun c hc => by
    simp only [bne_iff_ne]
    rintro rfl
    exact hat hc
  have hlist : (base ++ "@" ++ snap).toList = base.toList ++ '@' :: snap.toList := by
    have hsign : "@".toList = ['@'] := rfl
    simp [hsign]
  have hspan :
      (base ++ "@" ++ snap).toList.span (· != '@') = (base.toList, '@' :: snap.toList) := by
    rw [hlist, List.span_eq_takeWhile_dropWhile, List.takeWhile_append_of_pos hall,
      List.dropWhile_append_of_pos hall]
    simp
  rw [splitKey, hspan]
  simp

/-- `_resolve(uri)`; `none` where `srmeta.read` raises. -/
def resolve (read : String → Option SrMeta) (uri : String) : Option Target :=
  let parts := Url.urlparse uri
  (read parts.netloc).map fun sr =>
    let (image, snap) := splitKey (Url.lstripSlash parts.path)
    { pool := sr.pool
      ns := orDefault sr.dconfNamespace sr.srUuid
      image := image
      snap := snap
      mode := Text.lower (((Url.parseQs parts.query).lookup "dp").getD
        (orDefault sr.datapath "blkback")) }

end XcpCephRbd.Datapath
