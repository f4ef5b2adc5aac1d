import Strongbox.Text.Blank
/-! Trimming changes only texts with white space at one of their ends. -/
namespace Strongbox.Text

theorem dropWhile_isSpace_of_none {cs : List Char} (h : ∀ c ∈ cs, isSpace c = false) :
    cs.dropWhile isSpace = cs := by
  cases cs with
  | nil => rfl
  | cons c cs => rw [List.dropWhile_cons_of_neg (by simp [h c])]

theorem trim_of_no_space {s : String} (h : ∀ c ∈ s.toList, isSpace c = false) : trim s = s := by
  have hstart : trimStartChars s.toList = s.toList := dropWhile_isSpace_of_none h
  have hend : trimEndChars s.toList = s.toList := by
    rw [trimEndChars, dropWhile_isSpace_of_none fun c hc => h c (List.mem_reverse.1 hc),
      List.reverse_reverse]
  rw [trim, hstart, hend, String.ofList_toList]

end Strongbox.Text
