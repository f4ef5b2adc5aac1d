import Strongbox.Proofs.FileStore.Veil
import Strongbox.Settings.Directory
/-! Settings over files that differ in what is masked. A store document is no settings file, whatever it
holds, so the settings that are loaded are the same. -/
namespace Strongbox

open Call (Agree)
open Disk (Alike)
open FileStore (Masked MaskedText)
open Text (openBrace)

namespace Toml

theorem readPath_brace (cs : List Char) : readPath (openBrace :: cs) = none := by
  have hblanks : skipBlanks (openBrace :: cs) = openBrace :: cs :=
    List.dropWhile_cons_of_neg (by decide)
  have hread : readName (openBrace :: cs) = none := by
    rw [readName]
    · simp only [readShort?, openBrace]
      rfl
    · intro rest h
      cases h
    · intro rest h
      cases h
  rw [readPath, depthLimit, readNames, hblanks, hread]
  rfl

/-- No document begins with a brace. -/
theorem Table.read?_brace {text : String} {cs : List Char} (h : text.toList = openBrace :: cs) :
    Table.read? text = none := by
  have hmark : dropMark (openBrace :: cs) = openBrace :: cs := rfl
  have hlines : skipLines false (openBrace :: cs) = some (openBrace :: cs) := by
    rw [skipLines, if_neg, if_neg, if_neg, if_neg]
    · decide
    · decide
    · decide
    · intro hend
      cases cs <;> cases hend
  have hstatement : Statement.read (openBrace :: cs) = none := by
    rw [Statement.read]
    · rw [readPath_brace]
      rfl
    · intro rest h
      cases h
    · intro rest h
      cases h
  rw [Table.read?, h]
  simp only [hmark, readStatements, hlines, hstatement, bind, Option.bind]

end Toml

theorem Disk.Sound.writeFile {disk : Disk} (hsound : disk.Sound) (path : String) (bytes : ByteArray) :
    (Call.after (Disk.writeFile path bytes disk)).Sound := by
  rw [Disk.writeFile]
  cases hopen : Disk.openEmpty path 0o644 disk with
  | error e disk₁ =>
      rw [Call.bind_of_error hopen]
      exact hsound.untouched (Disk.openEmpty_eq_error hopen)
  | ok handle disk₁ =>
      have hopened : disk₁.Sound := by
        rcases Disk.openEmpty_cases hsound hopen with ⟨-, huntouched⟩ | ⟨_, _, _, -, -, hchanged, -⟩
        · exact hsound.untouched huntouched
        · exact hchanged.evolves.sound hsound
      rw [Call.bind_of_ok hopen]
      obtain ⟨disk₂, huntouched, happend | ⟨e, part, happend⟩⟩ := Disk.append_cases handle bytes disk₁
      · rw [happend]
        exact (hopened.untouched huntouched).extend handle bytes
      · rw [happend]
        exact (hopened.untouched huntouched).extend handle part

namespace SettingsDirectory

variable {disk disk' : Disk}

theorem settingsOf_document (d : SettingsDirectory) (document : StoreDocument) (later : String) :
    d.settingsOf (document.render ++ later) = .error (.parse d.file) := by
  have hbrace : ∃ cs, (document.render ++ later).toList = openBrace :: cs := by
    rw [String.toList_append, StoreDocument.render, String.toList_ofList, StoreDocument.renderChars_eq]
    exact ⟨_, rfl⟩
  obtain ⟨cs, hcs⟩ := hbrace
  rw [settingsOf, Settings.read?, Toml.Table.read?_brace hcs]
  rfl

theorem settingsOf_masked (d : SettingsDirectory) {text text' : String} (h : MaskedText text text') :
    d.settingsOf text' = d.settingsOf text := by
  cases h with
  | same => rfl
  | stored h later => rw [settingsOf_document, settingsOf_document]

theorem load_agree (h : Alike (fun _ => Masked) disk disk') (d : SettingsDirectory) :
    (d.load disk').1 = (d.load disk).1 ∧
      Alike (fun _ => Masked) (d.load disk).2 (d.load disk').2 := by
  have hread := FileStore.readText_agree h d.file
  unfold load
  generalize Disk.readText d.file disk = result at hread
  generalize Disk.readText d.file disk' = result' at hread
  cases hread with
  | ok htext states =>
      dsimp only
      rw [d.settingsOf_masked htext]
      exact ⟨rfl, states⟩
  | error e states => cases e <;> exact ⟨rfl, states⟩

theorem load_untouched (d : SettingsDirectory) (disk : Disk) : disk.Untouched (d.load disk).2 := by
  have hread := Disk.readText_cases d.file disk
  unfold load
  cases hcall : Disk.readText d.file disk with
  | ok text disk₁ =>
      rw [hcall] at hread
      exact hread.1
  | error e disk₁ =>
      rw [hcall] at hread
      cases e <;> exact hread.1

theorem sound_save (d : SettingsDirectory) (hsound : disk.Sound) (s : Settings) :
    (d.save s disk).2.Sound := by
  unfold save
  cases s.validate with
  | error e => exact hsound
  | ok _ =>
      have hevolves := Disk.makeDirectories_evolves d.path disk
      dsimp only
      cases hmake : Disk.makeDirectories d.path disk with
      | error e disk₁ =>
          rw [hmake] at hevolves
          exact hevolves.sound hsound
      | ok _ disk₁ =>
          rw [hmake, Call.after_ok] at hevolves
          have hwritten := (hevolves.sound hsound).writeFile d.file s.render.toUTF8
          dsimp only
          cases hwrite : Disk.writeFile d.file s.render.toUTF8 disk₁ with
          | error e disk₂ =>
              rw [hwrite] at hwritten
              exact hwritten
          | ok _ disk₂ =>
              rw [hwrite] at hwritten
              exact hwritten

/-- The same settings are written, wherever they are written. -/
theorem save_agree {C : Nat → ByteArray → ByteArray → Prop} (h : Alike C disk disk')
    (hsound : disk.Sound) (hC : ∀ serial bytes, C serial bytes bytes) (d : SettingsDirectory)
    (s : Settings) :
    (d.save s disk').1 = (d.save s disk).1 ∧ Alike C (d.save s disk).2 (d.save s disk').2 := by
  unfold save
  cases s.validate with
  | error e => exact ⟨rfl, h⟩
  | ok _ =>
      have hmake : Agree Eq (Alike C) (Disk.makeDirectories d.path disk)
          (Disk.makeDirectories d.path disk') := Disk.makeDirectoriesWithin_agree _ h d.path
      have hevolves := Disk.makeDirectories_evolves d.path disk
      dsimp only
      generalize Disk.makeDirectories d.path disk = result at hmake hevolves
      generalize Disk.makeDirectories d.path disk' = result' at hmake
      cases hmake with
      | error e states => exact ⟨rfl, states⟩
      | ok answers states =>
          have hwrite := Disk.writeFile_agree states (hevolves.sound hsound) hC d.file s.render.toUTF8
          dsimp only
          generalize Disk.writeFile d.file s.render.toUTF8 _ = result at hwrite
          generalize Disk.writeFile d.file s.render.toUTF8 _ = result' at hwrite
          cases hwrite with
          | error e states => exact ⟨rfl, states⟩
          | ok answers states => exact ⟨rfl, states⟩

end SettingsDirectory
end Strongbox
