import Strongbox.Proofs.Json.Literal
/-! The lines of an object: where each begins, the name on it, and what stands after its value. -/
namespace Strongbox.Json

open Text (openBrace closeBrace)

theorem skipSpace_cons_space {c : Char} (h : isSpace c = true) (cs : List Char) :
    skipSpace (c :: cs) = skipSpace cs :=
  List.dropWhile_cons_of_pos h

theorem skipSpace_cons {c : Char} (h : isSpace c = false) (cs : List Char) :
    skipSpace (c :: cs) = c :: cs :=
  List.dropWhile_cons_of_neg (by simp [h])

theorem skipSpace_indent (depth : Nat) (cs : List Char) :
    skipSpace (indent depth ++ cs) = skipSpace cs := by
  unfold indent
  induction 2 * depth with
  | zero => rfl
  | succ n ih => rw [List.replicate_succ, List.cons_append, skipSpace_cons_space rfl, ih]

/-- A line end and the indentation of the next line. -/
theorem skipSpace_line (depth : Nat) (cs : List Char) :
    skipSpace ('\n' :: (indent depth ++ cs)) = skipSpace cs := by
  rw [skipSpace_cons_space rfl, skipSpace_indent]

theorem readName_quote {cs : List Char} (name : String) (rest : List Char)
    (h : skipSpace cs = quote name ++ ':' :: rest) : readName cs = some (name.toList, rest) := by
  have hquote : quote name ++ ':' :: rest =
      '"' :: (name.toList.flatMap escapeChar ++ '"' :: ':' :: rest) := by
    simp [quote]
  rw [readName, h, hquote]
  simp only [readText_escaped]
  rw [skipSpace_cons (by decide)]
  rfl

theorem follow?_comma (rest : List Char) : follow? (',' :: rest) = some (.more rest) := by
  rw [follow?, skipSpace_cons (by decide)]
  rfl

theorem follow?_close (depth : Nat) (rest : List Char) :
    follow? ('\n' :: (indent depth ++ closeBrace :: rest)) = some (.done rest) := by
  rw [follow?, skipSpace_line, skipSpace_cons (by decide)]
  rfl

/-- One line of an object: its field, and the comma or nothing after it. -/
def fieldLine (depth : Nat) (name : String) (value : List Char) : List Char :=
  indent depth ++ quote name ++ ':' :: ' ' :: value

theorem fieldLines_singleton (depth : Nat) (name : String) (value : List Char) :
    fieldLines depth [(name, value)] = fieldLine depth name value ++ ['\n'] := by
  simp [fieldLines, fieldLine]

theorem fieldLines_cons (depth : Nat) (name : String) (value : List Char)
    (p : String × List Char) (rest : List (String × List Char)) :
    fieldLines depth ((name, value) :: p :: rest) =
      fieldLine depth name value ++ ',' :: '\n' :: fieldLines depth (p :: rest) := by
  simp [fieldLines, fieldLine]

theorem readName_fieldLine (depth : Nat) (name : String) (value rest : List Char) :
    readName ('\n' :: (fieldLine depth name value ++ rest)) =
      some (name.toList, ' ' :: (value ++ rest)) := by
  refine readName_quote name _ ?_
  have hquote : ∃ cs, quote name ++ ':' :: ' ' :: value ++ rest = '"' :: cs := ⟨_, rfl⟩
  obtain ⟨cs, hcs⟩ := hquote
  rw [fieldLine, List.append_assoc, List.append_assoc, skipSpace_line, ← List.append_assoc]
  simp only [List.append_assoc, List.cons_append] at hcs ⊢
  rw [hcs, skipSpace_cons (by decide)]

/-- A field begins with the quote of its name. -/
theorem skipSpace_fieldLines (depth : Nat) (p : String × List Char)
    (later : List (String × List Char)) (rest : List Char) :
    ∃ cs, skipSpace ('\n' :: (fieldLines depth (p :: later) ++ rest)) = '"' :: cs := by
  have hquote : ∀ tail, ∃ cs, skipSpace ('\n' :: (fieldLine depth p.1 p.2 ++ tail)) = '"' :: cs := by
    intro tail
    refine ⟨p.1.toList.flatMap escapeChar ++ '"' :: ':' :: ' ' :: (p.2 ++ tail), ?_⟩
    simp only [fieldLine, quote, List.append_assoc, List.cons_append, List.nil_append]
    rw [skipSpace_line, skipSpace_cons (by decide)]
  cases later with
  | nil =>
      rw [fieldLines_singleton, List.append_assoc]
      exact hquote _
  | cons q later =>
      rw [fieldLines_cons, List.append_assoc]
      exact hquote _

theorem length_le_fieldLines (depth : Nat) (fields : List (String × List Char)) :
    fields.length ≤ (fieldLines depth fields).length := by
  induction fields with
  | nil => exact Nat.zero_le _
  | cons p rest ih =>
      obtain ⟨name, value⟩ := p
      cases rest with
      | nil =>
          rw [fieldLines_singleton]
          simp only [List.length_append, List.length_cons]
          omega
      | cons q rest =>
          rw [fieldLines_cons]
          simp only [List.length_append, List.length_cons] at ih ⊢
          omega

end Strongbox.Json
