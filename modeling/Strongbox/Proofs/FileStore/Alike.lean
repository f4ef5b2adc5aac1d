import Strongbox.Proofs.Disk.Alike
import Strongbox.Proofs.FileStore.Replacing
import Strongbox.Proofs.FileStore.Saving
/-! Stores on disks that are alike: documents whose written forms are related are saved alike. -/
namespace Strongbox.FileStore

open Call (Agree)
open Disk (Alike)

variable {C : Nat → ByteArray → ByteArray → Prop} {disk disk' : Disk} {path : String}

theorem writePrivate_agree (h : Alike C disk disk') (hsound : disk.Sound)
    (hempty : ∀ serial, C serial .empty .empty) {bytes bytes' : ByteArray}
    (hbytes : ∀ serial, C serial bytes bytes')
    (hparts : ∀ serial n, C serial (bytes.extract 0 n) (bytes'.extract 0 n)) (path : String) :
    Agree Eq (Alike C) (writePrivate path bytes disk) (writePrivate path bytes' disk') :=
  Disk.openEmpty_append_agree h hsound hempty hbytes hparts path 0o600 fun handle _ _ hw =>
    Disk.sync_agree hw handle

theorem prepare_agree (h : Alike C disk disk') (path : String) :
    Agree Eq (Alike C) (prepare path disk) (prepare path disk') := by
  unfold prepare
  cases Path.parent? path with
  | none => exact .ok rfl h
  | some above => exact Disk.makeDirectoriesWithin_agree _ h above

/-- Contents that are written alike, whole or in part. -/
structure Written (C : Nat → ByteArray → ByteArray → Prop) (bytes bytes' : ByteArray) : Prop where
  empty : ∀ serial, C serial .empty .empty
  whole : ∀ serial, C serial bytes bytes'
  part : ∀ serial n, C serial (bytes.extract 0 n) (bytes'.extract 0 n)

theorem replace_agree (h : Alike C disk disk') (hsound : disk.Sound) {bytes bytes' : ByteArray}
    (hbytes : Written C bytes bytes') (path : String) :
    Agree Eq (Alike C) (replace path bytes disk) (replace path bytes' disk') := by
  have hwritten := writePrivate_agree h hsound hbytes.empty hbytes.whole hbytes.part (temporary path)
  refine hwritten.bind ?_
  intro _ _ w w' _ hw
  exact Disk.rename_agree hw (temporary path) path

theorem save_agree (h : Alike C disk disk') (hsound : disk.Sound) {d d' : StoreDocument}
    (hd : Written C d.render.toUTF8 d'.render.toUTF8) (path : String) :
    Agree Eq (Alike C) (save path d disk) (save path d' disk') := by
  have hprepare := prepare_agree h path
  have hevolves := prepare_evolves path disk
  rw [save_eq, save_eq]
  generalize prepare path disk = result at hprepare hevolves ⊢
  generalize prepare path disk' = result' at hprepare ⊢
  cases hprepare with
  | error e states => exact .error _ states
  | ok answers states =>
      have hreplace := replace_agree states (hevolves.sound hsound) hd path
      dsimp only
      generalize replace path d.render.toUTF8 _ = result at hreplace ⊢
      generalize replace path d'.render.toUTF8 _ = result' at hreplace ⊢
      cases hreplace with
      | ok answers states => exact .ok rfl states
      | error e states =>
          have hremove := Disk.removeFile_agree states (temporary path)
          dsimp only
          generalize Disk.removeFile (temporary path) _ = result at hremove ⊢
          generalize Disk.removeFile (temporary path) _ = result' at hremove ⊢
          cases hremove with
          | ok answers states => exact .error _ states
          | error e states => exact .error _ states

end Strongbox.FileStore
