import Strongbox.Text.Utf8
/-! The bytes of a text are read as that text, and no others are. -/
namespace Strongbox.Text

theorem fromUTF8?_toUTF8 (s : String) : String.fromUTF8? s.toUTF8 = some s := by
  have hvalid : s.toUTF8.IsValidUTF8 := s.isValidUTF8
  rw [String.fromUTF8?, dif_pos hvalid]
  rfl

theorem toUTF8_of_fromUTF8? {bytes : ByteArray} {s : String} (h : String.fromUTF8? bytes = some s) :
    s.toUTF8 = bytes := by
  unfold String.fromUTF8? at h
  split at h
  · cases h
    rfl
  · cases h

theorem utf8Size_append (cs later : List Char) :
    utf8Size (cs ++ later) = utf8Size cs + utf8Size later := by
  have hfrom : ∀ (cs : List Char) (n : Nat),
      cs.foldl (fun n c => n + c.utf8Size) n = n + utf8Size cs := by
    intro cs
    induction cs with
    | nil => exact fun n => rfl
    | cons c cs ih =>
        intro n
        rw [utf8Size, List.foldl_cons, List.foldl_cons, ih, ih]
        omega
  rw [utf8Size, List.foldl_append, hfrom]
  rfl

end Strongbox.Text
