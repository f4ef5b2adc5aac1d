import Strongbox.Proofs.FileStore.Alike
import Strongbox.Proofs.FileStore.Atomicity
import Strongbox.Proofs.StoreDocument.Veil
/-! Store files that differ in what is masked. Two stores over such files answer alike, and leave files
that differ no more. -/
namespace Strongbox.FileStore

open Call (Agree)
open Disk (Alike Lasting)
open StoreDocument (Veiled VeiledAt)

/-- Contents that are the same, or two documents that differ in what is masked, with one text after
them. -/
inductive Masked : ByteArray → ByteArray → Prop
  | same (bytes : ByteArray) : Masked bytes bytes
  | stored {d d' : StoreDocument} (h : Veiled d d') (later : String) :
      Masked (d.render ++ later).toUTF8 (d'.render ++ later).toUTF8

/-- The same of documents that may have been cut off while they were written. -/
inductive Remains : ByteArray → ByteArray → Prop
  | same (bytes : ByteArray) : Remains bytes bytes
  | torn {d d' : StoreDocument} (h : Veiled d d') (n : Nat) (later : String) :
      Remains (d.render.toUTF8.extract 0 n ++ later.toUTF8)
        (d'.render.toUTF8.extract 0 n ++ later.toUTF8)

theorem toUTF8_append (s t : String) : (s ++ t).toUTF8 = s.toUTF8 ++ t.toUTF8 :=
  String.toByteArray_append

theorem extract_of_size_le {bytes : ByteArray} {n : Nat} (h : bytes.size ≤ n) :
    bytes.extract 0 n = bytes := by
  have hmax := ByteArray.extract_zero_max_size (a := bytes) (i := n)
  rwa [Nat.max_eq_left h] at hmax

theorem Masked.remains {bytes bytes' : ByteArray} (h : Masked bytes bytes') : Remains bytes bytes' := by
  cases h with
  | same => exact .same _
  | @stored d d' h later =>
      have htorn := Remains.torn h (max d.render.toUTF8.size d'.render.toUTF8.size) later
      rwa [extract_of_size_le (Nat.le_max_left ..), extract_of_size_le (Nat.le_max_right ..),
        ← toUTF8_append, ← toUTF8_append] at htorn

theorem lasting_masked : Lasting fun _ => Masked := by
  constructor
  · intro _ bytes
    exact .same bytes
  · intro _ bytes bytes' text h
    cases h with
    | same => exact .same _
    | stored h later =>
        have hstored := Masked.stored h (later ++ text)
        rwa [← String.append_assoc, ← String.append_assoc, toUTF8_append, toUTF8_append _ text]
          at hstored

theorem lasting_remains : Lasting fun _ => Remains := by
  constructor
  · intro _ bytes
    exact .same bytes
  · intro _ bytes bytes' text h
    cases h with
    | same => exact .same _
    | torn h n later =>
        have htorn := Remains.torn h n (later ++ text)
        rwa [toUTF8_append, ← ByteArray.append_assoc, ← ByteArray.append_assoc] at htorn

theorem written_of_veiled {d d' : StoreDocument} (h : Veiled d d') :
    Written (fun _ => Remains) d.render.toUTF8 d'.render.toUTF8 := by
  have hpart : ∀ n, Remains (d.render.toUTF8.extract 0 n) (d'.render.toUTF8.extract 0 n) := by
    intro n
    have htorn := Remains.torn h n ""
    rwa [show "".toUTF8 = .empty from rfl, ByteArray.append_empty, ByteArray.append_empty] at htorn
  constructor
  · intro _
    exact .same .empty
  · intro _
    have hstored := Masked.stored h ""
    rw [String.append_empty, String.append_empty] at hstored
    exact hstored.remains
  · intro _ n
    exact hpart n

/-- What begins as documents do. -/
def Braced (bytes : ByteArray) : Prop := ∃ later, bytes = "\x7b".toUTF8 ++ later

theorem braced_extract (text : ByteArray) (n : Nat) :
    Braced (("\x7b".toUTF8 ++ text).extract 0 (n + 1)) := by
  have hfirst : ("\x7b".toUTF8).extract 0 (n + 1) = "\x7b".toUTF8 := by
    apply extract_of_size_le
    show 1 ≤ n + 1
    omega
  exact ⟨_, by rw [ByteArray.extract_append, hfirst]⟩

/-- Nothing but documents differs. -/
theorem Remains.same_of_unbraced {bytes bytes' : ByteArray} (h : Remains bytes bytes')
    (hplain : ¬ Braced bytes) : bytes' = bytes := by
  cases h with
  | same => rfl
  | @torn d d' _ n later =>
      cases n with
      | zero => rw [ByteArray.extract_same, ByteArray.extract_same]
      | succ n =>
          obtain ⟨cs, hcs⟩ : ∃ cs, d.render = "\x7b" ++ String.ofList cs :=
            ⟨_, by rw [StoreDocument.render, StoreDocument.renderChars_eq]; exact String.ofList_cons⟩
          obtain ⟨text, htext⟩ := braced_extract (String.ofList cs).toUTF8 n
          rw [hcs, toUTF8_append, htext, ByteArray.append_assoc] at hplain
          exact absurd ⟨_, rfl⟩ hplain

/-! ### Reading -/

/-- Texts of contents that are masked. -/
inductive MaskedText : String → String → Prop
  | same (text : String) : MaskedText text text
  | stored {d d' : StoreDocument} (h : Veiled d d') (later : String) :
      MaskedText (d.render ++ later) (d'.render ++ later)

variable {disk disk' : Disk} {path : String}

theorem readText_agree (h : Alike (fun _ => Masked) disk disk') (path : String) :
    Agree MaskedText (Alike fun _ => Masked) (Disk.readText path disk) (Disk.readText path disk') := by
  refine (Disk.readBytes_agree h id (.same .empty) path).bind ?_
  intro bytes bytes' w w' hbytes hw
  cases hbytes with
  | same =>
      cases String.fromUTF8? bytes with
      | none => exact .error _ hw
      | some text => exact .ok (.same text) hw
  | stored h later =>
      rw [Text.fromUTF8?_toUTF8, Text.fromUTF8?_toUTF8]
      exact .ok (.stored h later) hw

/-- One text is read as one document; two documents that differ in what is masked are read as they are,
unless something stands after them. -/
theorem documentOf_masked {text text' : String} (h : MaskedText text text') (path : String) :
    (∃ e, documentOf path text = .error e ∧ documentOf path text' = .error e) ∨
      ∃ d d', documentOf path text = .ok d ∧ documentOf path text' = .ok d' ∧ Veiled d d' := by
  cases h with
  | same =>
      unfold documentOf
      cases StoreDocument.read? text with
      | none => exact .inl ⟨_, rfl, rfl⟩
      | some d =>
          dsimp only
          by_cases hnew : StoreDocument.currentVersion < d.version
          · rw [if_pos hnew]
            exact .inl ⟨_, rfl, rfl⟩
          · rw [if_neg hnew]
            exact .inr ⟨d, d, rfl, rfl, .refl (Nat.le_of_not_lt hnew)⟩
  | @stored d d' h later =>
      unfold documentOf
      rw [StoreDocument.read?_render_append h.readable, StoreDocument.read?_render_append h.readable']
      cases (Json.skipSpace later.toList).isEmpty with
      | true =>
          simp only [if_true, if_neg (Nat.not_lt.2 h.readable), if_neg (Nat.not_lt.2 h.readable')]
          exact .inr ⟨d, d', rfl, rfl, h⟩
      | false => exact .inl ⟨_, rfl, rfl⟩

theorem load_agree (h : Alike (fun _ => Masked) disk disk') (path : String) :
    Agree Veiled (Alike fun _ => Masked) (load path disk) (load path disk') := by
  have hread := readText_agree h path
  unfold load
  generalize Disk.readText path disk = result at hread
  generalize Disk.readText path disk' = result' at hread
  cases hread with
  | error e states =>
      cases e with
      | notFound => exact .ok (.refl (Nat.le_refl _)) states
      | _ => exact .error _ states
  | ok htext states =>
      dsimp only
      rcases documentOf_masked htext path with ⟨e, he, he'⟩ | ⟨d, d', hd, hd', hveiled⟩
      · rw [he, he']
        exact .error e states
      · rw [hd, hd']
        exact .ok hveiled states

theorem get_agree (h : Alike (fun _ => Masked) disk disk') (path : String) (key : NativeKey) :
    Agree (VeiledAt key) (Alike fun _ => Masked) (get path key disk) (get path key disk') := by
  refine (load_agree h path).bind ?_
  intro d d' w w' hveiled hw
  exact .ok (hveiled.blobs key) hw

/-! ### Changing -/

/-- Reading keeps disks sound. -/
theorem load_agree_sound (h : Alike (fun _ => Masked) disk disk') (hsound : disk.Sound) (path : String) :
    Agree Veiled (fun w w' => Alike (fun _ => Masked) w w' ∧ w.Sound) (load path disk)
      (load path disk') := by
  have hload := load_agree h path
  have hcases := load_cases path disk
  generalize load path disk = result at hload hcases
  generalize load path disk' = result' at hload
  cases hload with
  | ok answers states => exact .ok answers ⟨states, hsound.untouched hcases.1⟩
  | error e states => exact .error e ⟨states, hsound.untouched hcases.1⟩

theorem save_agree_of_veiled {d d' : StoreDocument} (hd : Veiled d d')
    (h : Alike (fun _ => Masked) disk disk') (hsound : disk.Sound) (path : String) :
    Agree Eq (Alike fun _ => Remains) (save path d disk) (save path d' disk') :=
  save_agree (h.mono Masked.remains) hsound (written_of_veiled hd) path

open Secret (SameFace) in
theorem put_agree (h : Alike (fun _ => Masked) disk disk') (hsound : disk.Sound) {key : NativeKey}
    {s s' : Secret} (face : SameFace s s') (hkind : s.kind.typeName = key.typeName) (path : String) :
    Agree Eq (Alike fun _ => Remains) (put path key s.encodeDocument disk)
      (put path key s'.encodeDocument disk') := by
  have hload := load_agree_sound h hsound path
  rw [put, put]
  refine hload.bindInto ?_ ?_
  · rintro w w' ⟨hw, -⟩
    exact hw.mono Masked.remains
  · rintro d d' w w' hveiled ⟨hw, hsound⟩
    exact save_agree_of_veiled (hveiled.insert face hkind) hw hsound path

theorem delete_agree (h : Alike (fun _ => Masked) disk disk') (hsound : disk.Sound) (path : String)
    (key : NativeKey) :
    Agree Eq (Alike fun _ => Remains) (delete path key disk) (delete path key disk') := by
  have hload := load_agree_sound h hsound path
  rw [delete]
  refine hload.bindInto ?_ ?_
  · rintro w w' ⟨hw, -⟩
    exact hw.mono Masked.remains
  · rintro d d' w w' hveiled ⟨hw, hsound⟩
    rw [(hveiled.blobs key).isSome_eq]
    cases (d.get? key.service key.key).isSome with
    | true =>
        refine (save_agree_of_veiled (hveiled.erase key) hw hsound path).bind ?_
        intro _ _ w w' _ hw
        exact .ok rfl hw
    | false => exact .ok rfl (hw.mono Masked.remains)

end Strongbox.FileStore
