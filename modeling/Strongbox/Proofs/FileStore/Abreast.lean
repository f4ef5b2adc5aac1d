import Strongbox.Proofs.Disk.Abreast
import Strongbox.Proofs.FileStore.Alike
import Strongbox.Proofs.FileStore.Atomicity
/-! A store in a file on disks that differ in what is open for a log. Where the file is not the log, the
same is read, written and answered on both. -/
namespace Strongbox.FileStore

open Call (Agree)
open Disk (Abreast ButFor Nowhere)

variable {handle? : Option Handle} {P : String → Prop} {disk disk' : Disk} {path : String}

theorem load_abreast (h : Abreast handle? P disk disk') (hpath : P path) :
    Agree Eq (Abreast handle? P) (load path disk) (load path disk') := by
  have hread := h.readText hpath
  unfold load
  generalize Disk.readText path disk = result at hread
  generalize Disk.readText path disk' = result' at hread
  cases hread with
  | error e states =>
      cases e with
      | notFound => exact .ok rfl states
      | _ => exact .error _ states
  | @ok text _ _ _ answers states =>
      cases answers
      dsimp only
      cases documentOf path text with
      | ok d => exact .ok rfl states
      | error e => exact .error e states

theorem get_abreast (h : Abreast handle? P disk disk') (hpath : P path) (key : NativeKey) :
    Agree Eq (Abreast handle? P) (get path key disk) (get path key disk') := by
  refine (load_abreast h hpath).bind ?_
  rintro d _ w w' rfl hw
  exact .ok rfl hw

theorem save_abreast (h : Abreast handle? P disk disk') (path : String) (d : StoreDocument) :
    Agree Eq (Abreast handle? Nowhere) (save path d disk) (save path d disk') := by
  have hwritten : Written (ButFor handle?) d.render.toUTF8 d.render.toUTF8 :=
    ⟨fun _ => .inr rfl, fun _ => .inr rfl, fun _ _ => .inr rfl⟩
  exact Disk.Alike.abreast (save_agree h.alike h.sound hwritten path)
    ((save_evolves h.sound path d).sound h.sound)

theorem put_abreast (h : Abreast handle? P disk disk') (hpath : P path) (key : NativeKey)
    (blob : String) : Agree Eq (Abreast handle? Nowhere) (put path key blob disk) (put path key blob disk') := by
  refine (load_abreast h hpath).bindInto (fun _ _ => Abreast.nowhere) ?_
  rintro d _ w w' rfl hw
  exact save_abreast hw path _

theorem delete_abreast (h : Abreast handle? P disk disk') (hpath : P path) (key : NativeKey) :
    Agree Eq (Abreast handle? Nowhere) (delete path key disk) (delete path key disk') := by
  refine (load_abreast h hpath).bindInto (fun _ _ => Abreast.nowhere) ?_
  rintro d _ w w' rfl hw
  cases (d.get? key.service key.key).isSome with
  | true =>
      refine (save_abreast hw path _).bind ?_
      rintro _ _ w w' - hw
      exact .ok rfl hw
  | false => exact .ok rfl hw.nowhere

end Strongbox.FileStore
