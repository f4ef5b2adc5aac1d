import Strongbox.Proofs.Disk.Missing
import Strongbox.Proofs.Settings.Directory
import Strongbox.Proofs.Settings.Veil
/-! Settings that stay while something else changes. They are loaded as before unless the change is at
their own name, or in the way of a path that found nothing. -/
namespace Strongbox.SettingsDirectory

variable {d : SettingsDirectory} {s : Settings} {disk disk' : Disk} {names : List String}

theorem load_of_sameContent (hquiet : disk.mishaps = []) (hquiet' : disk'.mishaps = [])
    (h : disk'.contentAt d.file = disk.contentAt d.file) : (d.load disk').1 = (d.load disk).1 := by
  have hread := Disk.readBytes_of_quiet hquiet d.file
  have hread' := Disk.readBytes_of_quiet hquiet' d.file
  rw [h] at hread'
  simp only [load, Disk.readText, bind, EStateM.bind, hread, hread']
  cases disk.contentAt d.file with
  | error e => cases e <;> rfl
  | ok bytes =>
      dsimp only
      cases String.fromUTF8? bytes <;> rfl

theorem load_quiet (hquiet : disk.mishaps = []) : (d.load disk).2 = disk :=
  (d.load_untouched disk).eq_of_quiet hquiet

/-- Settings that are loaded are those of the text that is found, or there is none. -/
theorem content_of_load (h : (d.load disk).1.value = .ok s) :
    (∃ text, disk.contentAt d.file = .ok text.toUTF8 ∧ d.settingsOf text = .ok s) ∨
      disk.contentAt d.file = .error .notFound ∧ s = .standard := by
  have hread := Disk.readText_cases d.file disk
  unfold load at h
  split at h
  · rename_i disk' hmissing
    cases h
    rw [hmissing] at hread
    obtain ⟨-, hnone | ⟨hne, -⟩⟩ := hread
    · exact .inr ⟨hnone, rfl⟩
    · exact absurd rfl hne
  · cases h
  · rename_i text disk' htext
    rw [htext] at hread
    exact .inl ⟨text, hread.2, h⟩

/-- What settings are loaded from: a file or a device, or nothing. -/
theorem status_of_load (h : (d.load disk).1.value = .ok s) :
    (∃ names node, disk.status d.file = .ok (names, node) ∧ node ≠ .directory) ∨
      disk.status d.file = .error .notFound ∧ s = .standard := by
  rcases content_of_load h with ⟨text, hcontent, -⟩ | ⟨hnone, hstandard⟩
  · exact .inl (Disk.status_of_contentAt hcontent)
  · exact .inr ⟨Disk.status_of_notFound hnone, hstandard⟩

/-- What is loaded from the same content is the same, if anything is. -/
theorem load_unique {s' : Settings} (hcontent : disk'.contentAt d.file = disk.contentAt d.file)
    (h : (d.load disk).1.value = .ok s) (h' : (d.load disk').1.value = .ok s') : s' = s := by
  rcases content_of_load h with ⟨text, htext, hs⟩ | ⟨hnone, rfl⟩
  · rcases content_of_load h' with ⟨text', htext', hs'⟩ | ⟨hnone', -⟩
    · rw [hcontent, htext] at htext'
      have hsame := congrArg String.fromUTF8? (Except.ok.inj htext')
      rw [Text.fromUTF8?_toUTF8, Text.fromUTF8?_toUTF8] at hsame
      cases hsame
      exact Except.ok.inj (hs'.symm.trans hs)
    · rw [hcontent, htext] at hnone'
      cases hnone'
  · rcases content_of_load h' with ⟨text', htext', -⟩ | ⟨-, rfl⟩
    · rw [hcontent, hnone] at htext'
      cases htext'
    · rfl

/-- Settings that bring their reader down are those of the text that is found. -/
theorem content_of_crash {reason : String} (h : (d.load disk).1.value = .error (.crash reason)) :
    ∃ text, disk.contentAt d.file = .ok text.toUTF8 ∧ d.settingsOf text = .error (.crash reason) := by
  have hread := Disk.readText_cases d.file disk
  unfold load at h
  split at h
  · cases h
  · cases h
  · rename_i text disk' htext
    rw [htext] at hread
    exact ⟨text, hread.2, h⟩

theorem load_ne_crash {reason : String} (hcontent : disk'.contentAt d.file = disk.contentAt d.file)
    (h : (d.load disk).1.value = .ok s) : (d.load disk').1.value ≠ .error (.crash reason) := by
  intro hcrash
  obtain ⟨text', htext', hs'⟩ := content_of_crash hcrash
  rw [hcontent] at htext'
  rcases content_of_load h with ⟨text, htext, hs⟩ | ⟨hnone, -⟩
  · have hsame := congrArg String.fromUTF8? (Except.ok.inj (htext.symm.trans htext'))
    rw [Text.fromUTF8?_toUTF8, Text.fromUTF8?_toUTF8] at hsame
    cases hsame
    cases hs.symm.trans hs'
  · cases hnone.symm.trans htext'

theorem not_load_document {document : StoreDocument} (hquiet : disk.mishaps = [])
    (hcontent : disk.contentAt d.file = .ok document.render.toUTF8) :
    (d.load disk).1.value ≠ .ok s := by
  have hread := Disk.readBytes_of_quiet hquiet d.file
  rw [hcontent] at hread
  have htext : Disk.readText d.file disk = .ok document.render disk := by
    rw [Disk.readText, Call.bind_of_ok hread, Text.fromUTF8?_toUTF8]
    rfl
  have hdocument := d.settingsOf_document document ""
  rw [String.append_empty] at hdocument
  rw [load_of_text htext, hdocument]
  intro h
  cases h

/-- A change at one name leaves the settings, if they are not there, and if nothing comes about where
they were looked for in vain. -/
theorem load_changedAt (hquiet : disk.mishaps = []) (h : (d.load disk).1.value = .ok s)
    (hchanged : Disk.ChangedAt names disk disk')
    (hother : disk.EntryAt d.file names → disk.find? names = none)
    (hnew : disk.find? names = none → s ≠ .standard) : (d.load disk').1.value = .ok s := by
  have hmishaps := hchanged.evolves.mishaps
  rw [hquiet, List.suffix_nil] at hmishaps
  have hstatus : disk'.status d.file = disk.status d.file := by
    rcases status_of_load h with ⟨names', node, hfound, hnode⟩ | ⟨hmissing, hstandard⟩
    · obtain ⟨hentry, hfind⟩ := Disk.entryAt_of_status hfound hnode
      refine hchanged.status hentry ?_
      rintro rfl
      rw [hother hentry] at hfind
      cases hfind
    · rw [hmissing]
      refine hchanged.evolves.keeps.status_missing ?_ hmissing
      intro names' hfree
      rwa [hchanged.others]
      rintro rfl
      exact hnew hfree hstandard
  have hcontent : disk'.contentAt d.file = disk.contentAt d.file := by
    rw [Disk.contentAt, hstatus, Disk.contentAt]
  rw [load_of_sameContent hquiet hmishaps hcontent]
  exact h

end Strongbox.SettingsDirectory
