import Strongbox.Proofs.Json.Object
import Strongbox.Proofs.SortedMap
import Strongbox.StoreDocument
/-! A document reads back from the text written for it. Statements about a reader of values hold of
every reader that undoes its writer, so that they serve objects inside objects as well. -/
namespace Strongbox.StoreDocument

open Json
open Text (openBrace closeBrace)

variable {α : Type} {write : α → List Char} {value : List Char → Option (α × List Char)}

/-- A reader that takes back what a writer puts after the colon and the space of a field. -/
def Undoes (value : List Char → Option (α × List Char)) (write : α → List Char) : Prop :=
  ∀ a rest, value (' ' :: (write a ++ rest)) = some (a, rest)

theorem readFields_fieldLines (h : Undoes value write) (depth inner : Nat) (rest : List Char)
    {fields : List (String × α)} (hne : fields ≠ []) {fuel : Nat} (hfuel : fields.length ≤ fuel)
    (m : SortedMap α) :
    readFields value fuel m
        ('\n' :: (fieldLines inner (fields.map fun p => (p.1, write p.2)) ++
          (indent depth ++ closeBrace :: rest))) =
      some (fields.foldl (fun n p => n.insert p.1 p.2) m, rest) := by
  induction fields generalizing fuel m with
  | nil => exact absurd rfl hne
  | cons p later ih =>
      obtain ⟨name, a⟩ := p
      obtain ⟨fuel, rfl⟩ : ∃ n, fuel = n + 1 := ⟨fuel - 1, by simp at hfuel; omega⟩
      cases later with
      | nil =>
          simp only [List.map_cons, List.map_nil, fieldLines_singleton, List.append_assoc,
            List.singleton_append, readFields, readName_fieldLine, bind, Option.bind, h a,
            follow?_close, String.ofList_toList]
          rfl
      | cons q later =>
          have hlater : (q :: later).length ≤ fuel := by simpa using hfuel
          have hrest := ih (by simp) hlater (m.insert name a)
          simp only [List.map_cons, fieldLines_cons, List.append_assoc, List.cons_append, readFields,
            readName_fieldLine, bind, Option.bind, h a, follow?_comma, String.ofList_toList]
            at hrest ⊢
          exact hrest

theorem readObject_empty (rest : List Char) :
    readObject value (' ' :: openBrace :: closeBrace :: rest) = some (.empty, rest) := by
  rw [readObject, skipSpace_cons_space rfl, skipSpace_cons (by decide)]
  simp only [if_true]
  rw [skipSpace_cons (by decide)]
  simp only [if_true]

/-- What begins with a name after the opening brace is read as fields. -/
theorem readObject_fields {body cs : List Char} (h : skipSpace body = '"' :: cs) :
    readObject value (' ' :: openBrace :: body) = readFields value body.length .empty body := by
  rw [readObject, skipSpace_cons_space rfl, skipSpace_cons (by decide)]
  simp only [if_true, h]
  rw [if_neg (by decide)]

theorem readObject_objectAt (h : Undoes value write) (depth : Nat) :
    Undoes (readObject value) fun m : SortedMap α =>
      objectAt depth (m.toList.map fun p => (p.1, write p.2)) := by
  intro m rest
  dsimp only
  by_cases hm : m.toList = []
  · have hempty : m = .empty := SortedMap.ext hm
    rw [hm]
    exact hempty ▸ readObject_empty rest
  · have hbody : objectAt depth (m.toList.map fun p => (p.1, write p.2)) ++ rest =
        openBrace :: '\n' :: (fieldLines (depth + 1) (m.toList.map fun p => (p.1, write p.2)) ++
          (indent depth ++ closeBrace :: rest)) := by
      simp [objectAt, hm]
    have hname : ∃ cs, skipSpace ('\n' :: (fieldLines (depth + 1)
        (m.toList.map fun p => (p.1, write p.2)) ++ (indent depth ++ closeBrace :: rest))) =
          '"' :: cs := by
      obtain ⟨p, later, hp⟩ := List.exists_cons_of_ne_nil hm
      rw [hp, List.map_cons]
      exact skipSpace_fieldLines _ _ _ _
    obtain ⟨cs, hcs⟩ := hname
    have hlen := length_le_fieldLines (depth + 1) (m.toList.map fun p => (p.1, write p.2))
    rw [hbody, readObject_fields hcs, readFields_fieldLines h depth (depth + 1) rest hm,
      SortedMap.foldl_insert_empty]
    simp only [List.length_cons, List.length_append, List.length_map] at hlen ⊢
    omega

theorem readBlob_quote : Undoes readBlob quote := by
  intro blob rest
  have hquote : quote blob ++ rest = '"' :: (blob.toList.flatMap escapeChar ++ '"' :: rest) := by
    simp [quote]
  rw [readBlob, skipSpace_cons_space rfl, hquote, skipSpace_cons (by decide)]
  simp only [readText_escaped, Option.map_some, String.ofList_toList]

/-- The entries of a document as they are written. -/
def entriesChars (entries : SortedMap (SortedMap String)) : List Char :=
  objectAt 1 (entries.toList.map fun p => (p.1, renderEntries p.2))

theorem readEntries_entriesChars : Undoes readEntries entriesChars :=
  readObject_objectAt (readObject_objectAt readBlob_quote 2) 1

/-- Versions that are read have one digit, and so no leading zero. -/
theorem readVersion_toDigits {version : Nat} (h : version ≤ currentVersion) (rest : List Char) :
    readVersion (' ' :: (Nat.toDigits 10 version ++ ',' :: rest)) = some (version, ',' :: rest) := by
  have hv : version = 0 ∨ version = 1 := by
    unfold currentVersion at h
    omega
  rcases hv with rfl | rfl
  · rfl
  · rfl

theorem readDocumentFields_version {name cs cs₁ cs₂ cs₃ : List Char} {version fuel : Nat}
    (hname : readName cs = some (name, cs₁)) (hversion : name = "version".toList)
    (hvalue : readVersion cs₁ = some (version, cs₂)) (hfollow : follow? cs₂ = some (.more cs₃)) :
    readDocumentFields (fuel + 1) none none cs = readDocumentFields fuel (some version) none cs₃ := by
  rw [readDocumentFields, hname]
  simp only [bind, Option.bind]
  rw [if_pos hversion]
  simp only [Option.isSome_none, Bool.false_eq_true, if_false, hvalue, Option.map_some, hfollow]

theorem readDocumentFields_entries {name cs cs₁ cs₂ cs₃ : List Char} {version : Option Nat}
    {entries : SortedMap (SortedMap String)} {fuel : Nat}
    (hname : readName cs = some (name, cs₁)) (hentries : name = "entries".toList)
    (hvalue : readEntries cs₁ = some (entries, cs₂)) (hfollow : follow? cs₂ = some (.done cs₃)) :
    readDocumentFields (fuel + 1) version none cs = some (version, some entries, cs₃) := by
  have hversion : name ≠ "version".toList := by
    rw [hentries]
    decide
  rw [readDocumentFields, hname]
  simp only [bind, Option.bind]
  rw [if_neg hversion, if_pos hentries]
  simp only [Option.isSome_none, Bool.false_eq_true, if_false, hvalue, Option.map_some, hfollow]
  rfl

theorem renderChars_eq (d : StoreDocument) : d.renderChars = openBrace :: '\n' ::
    (fieldLine 1 "version" (Nat.toDigits 10 d.version) ++ ',' :: '\n' ::
      (fieldLine 1 "entries" (entriesChars d.entries) ++ '\n' :: (indent 0 ++ [closeBrace]))) := by
  simp [renderChars, objectAt, fieldLines_cons, fieldLines_singleton, entriesChars]

theorem readObjectForm_lines {d : StoreDocument} (h : d.version ≤ currentVersion) (rest : List Char) :
    readObjectForm ('\n' :: (fieldLine 1 "version" (Nat.toDigits 10 d.version) ++ ',' :: '\n' ::
      (fieldLine 1 "entries" (entriesChars d.entries) ++ '\n' :: (indent 0 ++ closeBrace :: rest)))) =
      some (d, rest) := by
  have hlen : 2 ≤ ('\n' :: (fieldLine 1 "version" (Nat.toDigits 10 d.version) ++ ',' :: '\n' ::
      (fieldLine 1 "entries" (entriesChars d.entries) ++ '\n' ::
        (indent 0 ++ closeBrace :: rest)))).length := by
    simp only [List.length_cons, List.length_append]
    omega
  obtain ⟨fuel, hfuel⟩ := Nat.exists_eq_add_of_le' hlen
  rw [readObjectForm, hfuel,
    readDocumentFields_version (readName_fieldLine _ _ _ _) rfl (readVersion_toDigits h _)
      (follow?_comma _),
    readDocumentFields_entries (readName_fieldLine _ _ _ _) rfl (readEntries_entriesChars d.entries _)
      (follow?_close _ _)]
  rfl

/-- A document is read off the front of a text, whatever follows it. -/
theorem readForm_renderChars {d : StoreDocument} (h : d.version ≤ currentVersion) (rest : List Char) :
    readForm (d.renderChars ++ rest) = some (d, rest) := by
  have hchars : d.renderChars ++ rest = openBrace :: '\n' ::
      (fieldLine 1 "version" (Nat.toDigits 10 d.version) ++ ',' :: '\n' ::
        (fieldLine 1 "entries" (entriesChars d.entries) ++ '\n' :: (indent 0 ++ closeBrace :: rest))) := by
    rw [renderChars_eq]
    simp only [List.cons_append, List.append_assoc, List.nil_append]
  rw [hchars, readForm, skipSpace_cons (by decide)]
  simp only [if_true]
  rw [if_neg (by decide), readObjectForm_lines h]

/-- Only blanks may follow a document. -/
theorem read?_render_append {d : StoreDocument} (h : d.version ≤ currentVersion) (later : String) :
    read? (d.render ++ later) = if (skipSpace later.toList).isEmpty then some d else none := by
  rw [read?, render, String.toList_append, String.toList_ofList, readChars, readForm_renderChars h]
  simp only [bind, Option.bind]
  split <;> rfl

/-- What is written for a document of a version that is read is that document. -/
theorem read?_render {d : StoreDocument} (h : d.version ≤ currentVersion) :
    read? d.render = some d := by
  have hread := read?_render_append h ""
  rwa [String.append_empty] at hread

end Strongbox.StoreDocument
