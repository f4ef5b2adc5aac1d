import Strongbox.Proofs.Toml.Document
import Strongbox.Settings.Document
/-! Settings are read back from their written form, valid or not: a field that is left out is one that
is not set, and every name of a level is among those that a reader knows. -/
namespace Strongbox

namespace LogSettings

/-- What is written under the header of the log. -/
def writtenFields (l : LogSettings) : List (String × String) :=
  ("level", l.level.toText) ::
    (l.directives.toList.map ("filter", ·) ++ l.file.toList.map ("file", ·))

theorem names_written (l : LogSettings) :
    (l.writtenFields.map (·.1)).Sublist ["level", "filter", "file"] := by
  obtain ⟨level, directives, file⟩ := l
  cases directives <;> cases file <;> simp [writtenFields]

theorem readLevel_toText (level : Log.Level) : readLevel (.text level.toText) = some level := by
  cases level <;> rfl

theorem ofValue?_written (l : LogSettings) :
    ofValue? (.table .header (l.writtenFields.map Toml.toField)) = some l := by
  obtain ⟨level, directives, file⟩ := l
  cases directives <;> cases file <;>
    simp [writtenFields, ofValue?, Toml.toField, othersReadable, Toml.fieldsReadable, Toml.Table.get?,
      ofFields?, fieldOr, readLevel_toText, readOptional, Toml.Value.text?]

end LogSettings

namespace Settings

/-- What is written above the first header. -/
def writtenFields (s : Settings) : List (String × String) :=
  ("namespace", s.space) :: ("secure_option", s.security.toText) ::
    s.fallback.toList.map ("fallback_path", ·)

theorem names_written (s : Settings) :
    (s.writtenFields.map (·.1)).Sublist ["namespace", "secure_option", "fallback_path"] := by
  obtain ⟨space, security, fallback, logging⟩ := s
  cases fallback <;> simp [writtenFields]

theorem renderChars_eq (s : Settings) : s.renderChars =
    Toml.documentChars s.writtenFields "logging" s.logging.writtenFields := by
  have hline : ∀ f : String × String, fieldLine f.1 f.2 = Toml.fieldChars f := fun _ => rfl
  have hoptional : ∀ (name : String) (value : Option String), optionalLine name value =
      (value.toList.map (name, ·)).flatMap Toml.fieldChars := by
    intro name value
    cases value with
    | none => rfl
    | some value => simp [optionalLine, ← hline]
  have hheader : "\n[logging]\n".toList = '\n' :: Toml.headerChars "logging" := by decide
  simp [renderChars, Toml.documentChars, writtenFields, LogSettings.writtenFields, hoptional, ← hline,
    hheader]

theorem readSecurity_toText (level : SecurityLevel) :
    readSecurity (.text level.toText) = some level := by
  cases level <;> rfl

theorem ofTable?_written (s : Settings) :
    ofTable? ⟨.header, s.writtenFields.map Toml.toField ++
      [("logging", .table .header (s.logging.writtenFields.map Toml.toField))]⟩ = some s := by
  have hlogging := s.logging.ofValue?_written
  obtain ⟨space, security, fallback, logging⟩ := s
  cases fallback <;>
    simp_all [writtenFields, ofTable?, Toml.toField, othersReadable, Toml.fieldsReadable,
      Toml.Table.get?, fieldOr, readSecurity_toText, LogSettings.readOptional, Toml.Value.text?]

theorem read?_render (s : Settings) : read? s.render = some s := by
  have hbare : ∀ {fields : List (String × String)} {names : List String},
      (fields.map (·.1)).Sublist names → (∀ name ∈ names, Toml.isBare name = true) →
      ∀ f ∈ fields, Toml.isBare f.1 = true := by
    intro fields names hsub hnames f hf
    exact hnames _ (hsub.subset (List.mem_map_of_mem hf))
  have htop := hbare s.names_written (by decide)
  have hlog := hbare s.logging.names_written (by decide)
  have hfront : (s.writtenFields.map (·.1) ++ ["logging"]).Nodup := by
    refine (s.names_written.append_right ["logging"]).nodup ?_
    decide
  have hinner : (s.logging.writtenFields.map (·.1)).Nodup := by
    refine s.logging.names_written.nodup ?_
    decide
  have hheader : Toml.isBare "logging" = true := by decide
  rw [read?, render, renderChars_eq, Toml.read?_documentChars htop hheader hlog hfront hinner]
  exact s.ofTable?_written

end Settings
end Strongbox
