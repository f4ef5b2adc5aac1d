import Strongbox.Path
/-! Paths that belong together: the names on a path are those on the path of its directory and one
more, but for names that lead nowhere, and what is appended to a path lands in its last name. -/
namespace Strongbox.Path

theorem pieces_eq_splitOn (cs : List Char) : pieces cs = cs.splitOn '/' := by
  induction cs with
  | nil => rfl
  | cons c cs ih =>
      rw [pieces, List.splitOn_cons_eq_if_modifyHead, ih]
      by_cases hc : c = '/'
      · simp [hc]
      · obtain ⟨piece, later, hpieces⟩ := List.exists_cons_of_ne_nil (List.splitOn_ne_nil '/' cs)
        simp [hc, hpieces]

theorem toList_names (path : String) : (names path).map String.toList = path.toList.splitOn '/' := by
  simp [names, pieces_eq_splitOn]

theorem names_ne_nil (path : String) : names path ≠ [] := by
  simp [names, pieces_eq_splitOn, List.splitOn_ne_nil]

/-- A path is its names with slashes between them. -/
theorem intercalate_names (path : String) : "/".intercalate (names path) = path := by
  refine String.toList_injective ?_
  rw [String.toList_intercalate, toList_names]
  exact List.intercalate_splitOn '/'

theorem names_intercalate {l : List String} (hl : l ≠ []) (hslash : ∀ s ∈ l, '/' ∉ s.toList) :
    names ("/".intercalate l) = l := by
  have hpieces : pieces ("/".intercalate l).toList = l.map String.toList := by
    rw [pieces_eq_splitOn, String.toList_intercalate]
    refine List.splitOn_intercalate '/' ?_ (by simpa using hl)
    simpa using hslash
  rw [names, hpieces, List.map_map]
  simp

theorem slash_not_mem_piece {cs piece : List Char} (h : piece ∈ pieces cs) : '/' ∉ piece := by
  induction cs generalizing piece with
  | nil =>
      rw [pieces, List.mem_singleton] at h
      simp [h]
  | cons c cs ih =>
      rw [pieces] at h
      by_cases hc : c = '/'
      · rw [if_pos hc] at h
        rcases List.mem_cons.1 h with rfl | h
        · simp
        · exact ih h
      · rw [if_neg hc] at h
        split at h
        · rename_i first later hpieces
          rcases List.mem_cons.1 h with rfl | h
          · have hfirst : '/' ∉ first := ih (hpieces ▸ List.mem_cons_self)
            simp [hfirst, Ne.symm hc]
          · exact ih (hpieces ▸ List.mem_cons_of_mem _ h)
        · rw [List.mem_singleton] at h
          simp [h, Ne.symm hc]

theorem slash_not_mem_names {path s : String} (h : s ∈ names path) : '/' ∉ s.toList := by
  obtain ⟨piece, hpiece, rfl⟩ := List.mem_map.1 h
  simpa using slash_not_mem_piece hpiece

theorem isAbsolute_append {path : String} (h : path ≠ "") (suffix : String) :
    isAbsolute (path ++ suffix) = isAbsolute path := by
  obtain ⟨c, cs, hcs⟩ := List.exists_cons_of_ne_nil (mt String.toList_eq_nil_iff.1 h)
  rw [Bool.eq_iff_iff, isAbsolute, isAbsolute, String.startsWith_string_iff,
    String.startsWith_string_iff, String.toList_append, hcs]
  simp [show "/".toList = ['/'] from rfl]

/-- The path of a directory goes up to one name before the last. Only names for the place where they
stand may come between and after. -/
structure Above (above path : String) : Prop where
  nonempty : above ≠ ""
  starts : ∃ rest, path = above ++ rest
  names : ∃ between last after, (route path).names =
    (route above).names ++ between ++ last :: after ∧
      last ≠ "." ∧ (∀ name ∈ between, name = ".") ∧ ∀ name ∈ after, name = "."

theorem Above.fromRoot {above path : String} (h : Above above path) :
    (route path).fromRoot = (route above).fromRoot := by
  obtain ⟨rest, rfl⟩ := h.starts
  exact isAbsolute_append h.nonempty rest

/-- What is left of idle names where empty ones do not count. -/
theorem eq_dot_of_idle {l : List String} (h : ∀ name ∈ l, isIdle name = true) :
    ∀ name ∈ l.filter (· != ""), name = "." := by
  intro name hname
  obtain ⟨hmem, hne⟩ := List.mem_filter.1 hname
  have hidle := h name hmem
  simp only [isIdle, Bool.or_eq_true, beq_iff_eq] at hidle
  exact hidle.resolve_left (by simpa using hne)

theorem isIdle_of_mem_takeWhile {l : List String} : ∀ name ∈ (l.takeWhile isIdle).reverse,
    isIdle name = true := by
  intro name hname
  exact List.all_eq_true.1 List.all_takeWhile name (List.mem_reverse.1 hname)

/-- The names of a path about its last name that leads elsewhere. -/
theorem eq_append_of_dropWhile {later above : List String} {last : String}
    (h : later.reverse.dropWhile isIdle = last :: above) :
    later = (above.dropWhile isIdle).reverse ++ (above.takeWhile isIdle).reverse ++
      last :: (later.reverse.takeWhile isIdle).reverse ∧ isIdle last = false := by
  constructor
  · have hlater := List.takeWhile_append_dropWhile (p := isIdle) (l := later.reverse)
    have habove := List.takeWhile_append_dropWhile (p := isIdle) (l := above)
    rw [h] at hlater
    have hreverse := congrArg List.reverse hlater
    rw [List.reverse_reverse, List.reverse_append, List.reverse_cons] at hreverse
    rw [← List.reverse_append, habove]
    simpa using hreverse.symm
  · have hhead := List.head?_dropWhile_not (p := isIdle) (l := later.reverse)
    rw [h] at hhead
    simpa using hhead

theorem filter_append_cons {before after : List String} {last : String} (h : isIdle last = false) :
    (before ++ last :: after).filter (· != "") =
      before.filter (· != "") ++ last :: after.filter (· != "") := by
  have hlast : (last != "") = true := by
    simp only [isIdle, Bool.or_eq_false_iff] at h
    rw [bne, h.1]
    rfl
  rw [List.filter_append, List.filter_cons, if_pos hlast]

theorem above_of_parent? {path above : String} (h : parent? path = some above) :
    above = "" ∨ Above above path := by
  unfold parent? at h
  split at h
  · rename_i hnames
    exact absurd hnames (names_ne_nil path)
  · rename_i first later hnames
    split at h
    · rename_i last before hlast
      obtain ⟨hlater, hidle⟩ := eq_append_of_dropWhile hlast
      generalize hkept : (before.dropWhile isIdle).reverse = kept at h hlater
      have hbetween := eq_dot_of_idle (isIdle_of_mem_takeWhile (l := before))
      have hafter := eq_dot_of_idle (isIdle_of_mem_takeWhile (l := later.reverse))
      have hdot : last ≠ "." := by
        rintro rfl
        exact absurd hidle (by decide)
      generalize (before.takeWhile isIdle).reverse = between at hlater hbetween
      generalize (later.reverse.takeWhile isIdle).reverse = after at hlater hafter
      have hpath : path = "/".intercalate (first :: kept) ++ "/" ++
          "/".intercalate (between ++ last :: after) := by
        rw [← String.intercalate_append_of_ne_nil (by simp) (by simp), ← intercalate_names path,
          hnames, hlater]
        simp
      have hroute : (route path).names = (first :: kept).filter (· != "") ++
          between.filter (· != "") ++ last :: after.filter (· != "") := by
        simp only [route]
        rw [hnames, hlater, ← List.cons_append, ← List.cons_append, filter_append_cons hidle,
          List.filter_append]
      by_cases hroot : (kept.isEmpty && first == "") = true
      · -- The directory is the root, whose path is not the empty text before the first slash.
        simp only [hroot, if_true, Option.some.injEq] at h
        simp only [Bool.and_eq_true, List.isEmpty_iff, beq_iff_eq] at hroot
        obtain ⟨rfl, rfl⟩ := hroot
        subst h
        refine .inr ⟨by decide, ⟨"/".intercalate (between ++ last :: after), ?_⟩, _, last, _, ?_,
          hdot, hbetween, hafter⟩
        · rw [String.intercalate_singleton, String.empty_append] at hpath
          exact hpath
        · rw [hroute]
          rfl
      · simp only [hroot, Bool.false_eq_true, if_false, Option.some.injEq] at h
        by_cases hempty : above = ""
        · exact .inl hempty
        · have habove : names above = first :: kept := by
            rw [← h]
            refine names_intercalate (by simp) fun s hs => @slash_not_mem_names path s ?_
            rw [hnames, hlater, ← List.cons_append, ← List.cons_append]
            exact List.mem_append_left _ (List.mem_append_left _ hs)
          refine .inr ⟨hempty, ⟨"/" ++ "/".intercalate (between ++ last :: after), ?_⟩, _, last, _, ?_,
            hdot, hbetween, hafter⟩
          · rw [h, String.append_assoc] at hpath
            exact hpath
          · rw [hroute]
            simp only [route]
            rw [habove]
    · split at h
      · cases h
      · cases h
        exact .inl rfl

theorem intercalate_append_last (before : List String) (last suffix : String) :
    "/".intercalate (before ++ [last]) ++ suffix = "/".intercalate (before ++ [last ++ suffix]) := by
  by_cases h : before = []
  · subst h
    rw [List.nil_append, List.nil_append, String.intercalate_singleton, String.intercalate_singleton]
  · rw [String.intercalate_append_of_ne_nil h (by simp), String.intercalate_append_of_ne_nil h (by simp),
      String.intercalate_singleton, String.intercalate_singleton, String.append_assoc]

theorem names_append {path suffix last : String} {before : List String}
    (hnames : names path = before ++ [last]) (hslash : '/' ∉ suffix.toList) :
    names (path ++ suffix) = before ++ [last ++ suffix] := by
  have hpath := intercalate_names path
  rw [hnames] at hpath
  rw [← hpath, intercalate_append_last]
  refine names_intercalate (by simp) fun s hs => ?_
  rcases List.mem_append.1 hs with hs | hs
  · exact slash_not_mem_names (hnames ▸ List.mem_append_left _ hs)
  · rw [List.mem_singleton.1 hs, String.toList_append, List.mem_append, not_or]
    exact ⟨slash_not_mem_names (hnames ▸ List.mem_append_right _ (List.mem_singleton_self last)), hslash⟩

/-- What is appended to a path lands in its last name, or makes one after a slash. -/
theorem route_append {suffix : String} (hslash : '/' ∉ suffix.toList) (hne : suffix ≠ "")
    (path : String) : ∃ before last, (route (path ++ suffix)).names = before ++ [last ++ suffix] ∧
      (route path).names = before ++ if last = "" then [] else [last] := by
  obtain ⟨before, last, hnames⟩ : ∃ before last, names path = before ++ [last] :=
    ⟨_, _, (List.dropLast_concat_getLast (names_ne_nil path)).symm⟩
  refine ⟨before.filter (· != ""), last, ?_, ?_⟩
  · have hlast : (last ++ suffix != "") = true := by
      simp [hne]
    simp only [route]
    rw [names_append hnames hslash, List.filter_append, List.filter_cons, if_pos hlast]
    rfl
  · simp only [route]
    rw [hnames, List.filter_append]
    by_cases hlast : last = "" <;> simp [hlast]

end Strongbox.Path
