import Strongbox.Proofs.Disk.Growth
/-! A path that leads to a name in a directory goes through that directory, so the path of the directory
leads there too. -/
namespace Strongbox.Disk

variable {d : Disk} {path above name : String} {place : List String}

/-- The start of a path that is fit to be looked up is fit too, and is a directory if its names can all
be walked. -/
theorem isDirectoryAt_of_walk {rest : String} {s : Spot} (hspot : d.spot (path ++ rest) = .ok s)
    (hne : path ≠ "") (hwalk : d.walk (d.start path) (Path.route path).names = .ok place) :
    d.isDirectoryAt path = true := by
  have hfit : d.spot path = d.spotOn (Path.route path) := by
    unfold spot at hspot
    split at hspot
    · cases hspot
    split at hspot
    · cases hspot
    split at hspot
    · cases hspot
    rename_i hnul _ hlong
    have hnul' : ¬ path.toList.contains (Char.ofNat 0) = true := by
      intro hmem
      refine hnul ?_
      rw [List.contains_iff_mem] at hmem ⊢
      rw [String.toList_append]
      exact List.mem_append_left _ hmem
    have hlong' : ¬ pathLimit < path.utf8ByteSize := by
      rw [String.utf8ByteSize_append] at hlong
      omega
    rw [spot, if_neg hnul', if_neg hne, if_neg hlong']
  unfold spotOn at hfit
  rw [← Disk.start] at hfit
  cases hlast : (Path.route path).names.getLast? with
  | none =>
      rw [hlast] at hfit
      exact isDirectoryAt_place hfit
  | some last =>
      obtain ⟨before, hnames⟩ := List.getLast?_eq_some_iff.1 hlast
      have honward : d.Onward path (Path.route path).names [] place :=
        ⟨(List.append_nil _).symm, hwalk, List.not_mem_nil⟩
      obtain ⟨next, hbefore, henter⟩ := honward.last_walked hnames
      rw [hlast, hnames, List.dropLast_concat] at hfit
      dsimp only at hfit
      rw [hbefore] at hfit
      simp only [bind, Except.bind] at hfit
      by_cases hdots : last = "." ∨ last = ".."
      · rw [if_pos hdots, henter] at hfit
        exact isDirectoryAt_place hfit
      · rw [if_neg hdots] at hfit
        exact isDirectoryAt_entry hfit (enter_name (not_or.1 hdots).1 (not_or.1 hdots).2 henter).2

theorem isDirectoryAt_above {slash : Bool} (habove : Path.Above above path)
    (hspot : d.spot path = .ok (.entry place name slash)) : d.isDirectoryAt above = true := by
  obtain ⟨before, hnames, hwalk, -⟩ := spot_eq_entry hspot
  obtain ⟨between, last, after, habove', -⟩ := habove.names
  -- The path of the directory stops before the last name of the path.
  have hbefore : (Path.route above).names ++ (between ++ last :: after).dropLast = before := by
    rw [← List.dropLast_append_of_ne_nil (by simp), ← List.append_assoc, ← habove', hnames,
      List.dropLast_concat]
  have hstart : d.start above = d.start path := by
    rw [start, start, habove.fromRoot]
  rw [← hbefore] at hwalk
  obtain ⟨next, hwalked, -⟩ := walk_append_eq_ok hwalk
  obtain ⟨rest, rfl⟩ := habove.starts
  exact isDirectoryAt_of_walk hspot habove.nonempty (hstart ▸ hwalked)

end Strongbox.Disk
