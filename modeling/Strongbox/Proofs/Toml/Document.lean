import Strongbox.Proofs.Toml.Text
import Strongbox.Toml.Document
/-! What a reader makes of a document whose lines are fields with bare names and texts as values, under
headers with bare names: it finds those fields, each under its header. -/
namespace Strongbox.Toml

open Text (openBrace)

/-! ### Names -/

/-- A name that is written without quotes. -/
def isBare (name : String) : Bool := !name.toList.isEmpty && name.toList.all isNameChar

theorem isNameChar_cases {c : Char} (h : isNameChar c = true) :
    c ≠ '"' ∧ c ≠ '\'' ∧ c ≠ '[' ∧ c ≠ '#' ∧ isBlank c = false ∧
      ∀ later, atLineEnd c later = false := by
  have hne : ∀ d, isNameChar d = false → c ≠ d := by
    rintro d hd rfl
    rw [h] at hd
    cases hd
  refine ⟨hne _ (by decide), hne _ (by decide), hne _ (by decide), hne _ (by decide), ?_, ?_⟩
  · simp [isBlank, hne ' ' (by decide), hne '\t' (by decide)]
  · intro later
    simp [atLineEnd, hne '\n' (by decide), hne '\r' (by decide)]

theorem isBare_iff {name : String} :
    isBare name = true ↔ name.toList ≠ [] ∧ ∀ c ∈ name.toList, isNameChar c = true := by
  simp [isBare]

theorem cons_of_isBare {name : String} (h : isBare name = true) :
    ∃ c cs, name.toList = c :: cs ∧ isNameChar c = true := by
  obtain ⟨hne, hchars⟩ := isBare_iff.1 h
  obtain ⟨c, cs, hname⟩ := List.exists_cons_of_ne_nil hne
  exact ⟨c, cs, hname, hchars c (hname ▸ List.mem_cons_self)⟩

theorem readShort?_of_isNameChar {c : Char} (h : isNameChar c = true) (cs : List Char) :
    readShort? (c :: cs) = none := by
  obtain ⟨hdouble, hsingle, -⟩ := isNameChar_cases h
  unfold readShort?
  split
  · rename_i heq
    exact absurd (List.cons.inj heq).1 hdouble
  · rename_i heq
    exact absurd (List.cons.inj heq).1 hsingle
  · rfl

theorem readName_bare {name : String} {c : Char} (h : isBare name = true) (hstop : isNameChar c = false)
    (later : List Char) :
    readName (skipBlanks (name.toList ++ c :: later)) = some (name, c :: later) := by
  obtain ⟨d, ds, hname, hd⟩ := cons_of_isBare h
  obtain ⟨hdouble, hsingle, -, -, hblank, -⟩ := isNameChar_cases hd
  have hskip : skipBlanks (name.toList ++ c :: later) = name.toList ++ c :: later := by
    rw [hname, List.cons_append, skipBlanks, List.dropWhile_cons_of_neg (by simp [hblank])]
  have hshort : readShort? (name.toList ++ c :: later) = none := by
    rw [hname, List.cons_append]
    exact readShort?_of_isNameChar hd _
  have htake : (name.toList ++ c :: later).takeWhile isNameChar = name.toList := by
    rw [List.takeWhile_append_of_pos (isBare_iff.1 h).2, List.takeWhile_cons_of_neg (by simp [hstop]),
      List.append_nil]
  have hdrop : (name.toList ++ c :: later).dropWhile isNameChar = c :: later := by
    rw [List.dropWhile_append_of_pos (isBare_iff.1 h).2, List.dropWhile_cons_of_neg (by simp [hstop])]
  rw [hskip]
  unfold readName
  split
  · rename_i heq
    rw [hname] at heq
    exact absurd (List.cons.inj heq).1 hdouble
  · rename_i heq
    rw [hname] at heq
    exact absurd (List.cons.inj heq).1 hsingle
  · rw [hshort]
    dsimp only
    rw [htake, hdrop, if_neg (by simpa using (isBare_iff.1 h).1), String.ofList_toList]

/-- A bare name is a path of its own, whatever comes behind it, blanks apart, if only no dot does. -/
theorem readPath_bare {name : String} {c : Char} (h : isBare name = true) (hstop : isNameChar c = false)
    (later : List Char) (hdot : (skipBlanks (c :: later)).head? ≠ some '.') :
    readPath (name.toList ++ c :: later) = some (⟨[], name⟩, skipBlanks (c :: later)) := by
  rw [readPath, depthLimit, readNames, readName_bare h hstop]
  simp only [Option.bind_eq_bind, Option.bind_some]
  split
  · rename_i heq
    rw [heq] at hdot
    exact absurd rfl hdot
  · rfl

/-! ### Lines -/

theorem skipLines_line (cs : List Char) : skipLines false ('\n' :: cs) = skipLines false cs := by
  have hline : atLineEnd '\n' cs = true := rfl
  rw [skipLines, if_pos hline]

theorem skipLines_bare {name : String} (h : isBare name = true) (cs : List Char) :
    skipLines false (name.toList ++ cs) = some (name.toList ++ cs) := by
  obtain ⟨c, ds, hname, hc⟩ := cons_of_isBare h
  obtain ⟨-, -, -, hmark, hblank, hline⟩ := isNameChar_cases hc
  rw [hname, List.cons_append, skipLines, if_neg (by simp [hline]), if_neg Bool.false_ne_true,
    if_neg (by simp [hblank]), if_neg hmark]

/-- A field with a text as its value. -/
def fieldOf (f : String × String) : Statement := .field ⟨[], f.1⟩ (.text f.2)

def fieldChars (f : String × String) : List Char :=
  f.1.toList ++ ' ' :: '=' :: ' ' :: writeText f.2.toList ++ ['\n']

theorem head?_writeText (cs : List Char) : ∃ quote later,
    writeText cs = quote :: later ∧ (quote = '"' ∨ quote = '\'') := by
  cases hform : Form.of cs with
  | basic => exact ⟨'"', escapeText false 0 0 cs ++ ['"'], by simp [writeText, hform], .inl rfl⟩
  | literal => exact ⟨'\'', cs ++ ['\''], by simp [writeText, hform], .inr rfl⟩
  | longBasic => exact ⟨'"', _, by simp only [writeText, hform, opening]; rfl, .inl rfl⟩
  | longLiteral => exact ⟨'\'', _, by simp only [writeText, hform, opening]; rfl, .inr rfl⟩

theorem readValue_writeText (fuel depth : Nat) (s : String) (later : List Char) :
    readValue (fuel + 1) depth (skipBlanks (' ' :: (writeText s.toList ++ '\n' :: later))) =
      some (.text s, '\n' :: later) := by
  have hread : readText? (writeText s.toList ++ '\n' :: later) = some (s.toList, '\n' :: later) :=
    readText?_writeText s.toList (by simp) (by simp)
  obtain ⟨quote, text, hwritten, hquote⟩ := head?_writeText s.toList
  rw [hwritten] at hread ⊢
  have hskip : skipBlanks (' ' :: (quote :: text ++ '\n' :: later)) =
      quote :: text ++ '\n' :: later := by
    rcases hquote with rfl | rfl <;> rfl
  have hbrackets : quote ≠ '[' ∧ quote ≠ openBrace := by
    rcases hquote with rfl | rfl <;> exact ⟨by decide, by decide⟩
  rw [hskip]
  rw [List.cons_append] at hread ⊢
  rw [readValue.eq_def]
  dsimp only
  rw [if_neg hbrackets.1, if_neg hbrackets.2, if_pos hquote, hread, Option.map_some,
    String.ofList_toList]

theorem read_fieldChars {f : String × String} (h : isBare f.1 = true) (later : List Char) :
    Statement.read (fieldChars f ++ later) = some (fieldOf f, '\n' :: later) := by
  obtain ⟨name, s⟩ := f
  obtain ⟨c, cs, hname, hc⟩ := cons_of_isBare h
  obtain ⟨-, -, hbracket, -⟩ := isNameChar_cases hc
  have hchars : fieldChars (name, s) ++ later =
      name.toList ++ ' ' :: ('=' :: ' ' :: (writeText s.toList ++ '\n' :: later)) := by
    simp [fieldChars]
  have hspace : isNameChar ' ' = false := by decide
  have hpath := readPath_bare h hspace ('=' :: ' ' :: (writeText s.toList ++ '\n' :: later))
    (by simp [skipBlanks, isBlank])
  rw [hchars]
  unfold Statement.read
  split
  · rename_i heq
    rw [hname] at heq
    exact absurd (List.cons.inj heq).1 hbracket
  · rename_i heq
    rw [hname] at heq
    exact absurd (List.cons.inj heq).1 hbracket
  · rw [hpath]
    have hskip : skipBlanks (' ' :: '=' :: ' ' :: (writeText s.toList ++ '\n' :: later)) =
        '=' :: ' ' :: (writeText s.toList ++ '\n' :: later) := rfl
    simp only [Option.bind_eq_bind, Option.bind_some, hskip]
    rw [readValue_writeText]
    rfl

theorem skipLine_line (cs : List Char) : skipLine ('\n' :: cs) = some cs := rfl

def headerChars (name : String) : List Char := '[' :: name.toList ++ [']', '\n']

theorem read_headerChars {name : String} (h : isBare name = true) (later : List Char) :
    Statement.read (headerChars name ++ later) = some (.header ⟨[], name⟩, '\n' :: later) := by
  obtain ⟨c, cs, hname, hc⟩ := cons_of_isBare h
  obtain ⟨-, -, hbracket, -⟩ := isNameChar_cases hc
  have hchars : headerChars name ++ later = '[' :: (name.toList ++ ']' :: '\n' :: later) := by
    simp [headerChars]
  have hclose : isNameChar ']' = false := by decide
  have hpath := readPath_bare h hclose ('\n' :: later) (by simp [skipBlanks, isBlank])
  have hskip : skipBlanks (']' :: '\n' :: later) = ']' :: '\n' :: later := rfl
  rw [hskip] at hpath
  rw [hchars]
  unfold Statement.read
  split
  · rename_i heq
    rw [hname] at heq
    exact absurd (List.cons.inj (List.cons.inj heq).2).1 hbracket
  · rename_i heq
    rw [← (List.cons.inj heq).2, readHeader, hpath]
    rfl
  · rename_i hother
    exact absurd rfl (hother _)

theorem readStatements_cons {fuel : Nat} {cs later : List Char} {s : Statement}
    (hskip : skipLines false cs = some cs) (hread : Statement.read cs = some (s, '\n' :: later)) :
    readStatements (fuel + 1) cs = (readStatements fuel later).map (s :: ·) := by
  rw [readStatements, hskip]
  simp only [Option.bind_eq_bind, Option.bind_some]
  split
  · cases hread
  · rw [hread]
    simp only [Option.bind_some, skipLine_line]
    cases readStatements fuel later <;> rfl

theorem readStatements_fields (fuel : Nat) {fields : List (String × String)}
    (h : ∀ f ∈ fields, isBare f.1 = true) (later : List Char) :
    readStatements (fields.length + fuel) (fields.flatMap fieldChars ++ later) =
      (readStatements fuel later).map (fields.map fieldOf ++ ·) := by
  induction fields with
  | nil => simp
  | cons f fields ih =>
      obtain ⟨hf, hfields⟩ := List.forall_mem_cons.1 h
      have hfuel : (f :: fields).length + fuel = fields.length + fuel + 1 := by
        rw [List.length_cons]
        omega
      have hskip : skipLines false (fieldChars f ++ (fields.flatMap fieldChars ++ later)) =
          some (fieldChars f ++ (fields.flatMap fieldChars ++ later)) := by
        rw [fieldChars, List.append_assoc, List.append_assoc]
        exact skipLines_bare hf _
      rw [hfuel, List.flatMap_cons, List.append_assoc,
        readStatements_cons hskip (read_fieldChars hf _), ih hfields]
      cases readStatements fuel later <;> rfl

theorem readStatements_header (fuel : Nat) {name : String} (h : isBare name = true) (later : List Char) :
    readStatements (fuel + 1) ('\n' :: (headerChars name ++ later)) =
      (readStatements fuel later).map (.header ⟨[], name⟩ :: ·) := by
  have hskip : skipLines false (headerChars name ++ later) = some (headerChars name ++ later) := rfl
  have hline : readStatements (fuel + 1) ('\n' :: (headerChars name ++ later)) =
      readStatements (fuel + 1) (headerChars name ++ later) := by
    rw [readStatements, readStatements, skipLines_line]
  rw [hline, readStatements_cons hskip (read_headerChars h later)]

/-! ### Tables -/

def toField (f : String × String) : String × Value := (f.1, .text f.2)

namespace Table

theorem get?_eq_none {t : Table} {name : String} (h : name ∉ t.fields.map (·.1)) :
    t.get? name = none := by
  rw [get?, Option.map_eq_none_iff, List.find?_eq_none]
  intro f hf heq
  exact h (List.mem_map.2 ⟨f, hf, beq_iff_eq.1 heq⟩)

theorem get?_last {origin : Origin} {front : List (String × Value)} {name : String} (v : Value)
    (h : name ∉ front.map (·.1)) : get? ⟨origin, front ++ [(name, v)]⟩ name = some v := by
  have hnone : front.find? (·.1 == name) = none := by
    rw [List.find?_eq_none]
    intro f hf heq
    exact h (List.mem_map.2 ⟨f, hf, beq_iff_eq.1 heq⟩)
  simp [get?, List.find?_append, hnone]

theorem put_new {t : Table} {name : String} (v : Value) (h : name ∉ t.fields.map (·.1)) :
    t.put name v = ⟨t.origin, t.fields ++ [(name, v)]⟩ := by
  have hany : t.fields.any (·.1 == name) = false := by
    rw [List.any_eq_false]
    intro f hf heq
    exact h (List.mem_map.2 ⟨f, hf, beq_iff_eq.1 heq⟩)
  rw [put, if_neg (by simp [hany])]

theorem put_last {origin : Origin} {front : List (String × Value)} {name : String} (v v' : Value)
    (h : name ∉ front.map (·.1)) :
    put ⟨origin, front ++ [(name, v)]⟩ name v' = ⟨origin, front ++ [(name, v')]⟩ := by
  have hfront : front.map (fun f => if f.1 = name then (name, v') else f) = front := by
    refine (List.map_congr_left fun f hf => ?_).trans (List.map_id front)
    exact if_neg fun heq => h (List.mem_map.2 ⟨f, hf, heq⟩)
  simp [put, hfront]

theorem addField_new {t : Table} {name : String} (v : Value) (h : name ∉ t.fields.map (·.1)) :
    t.addField [] name v = some ⟨t.origin, t.fields ++ [(name, v)]⟩ := by
  simp only [addField, within, setField, get?_eq_none h, put_new v h, List.isEmpty_nil, Bool.not_true,
    Bool.false_and, Bool.false_eq_true, if_false]

end Table

/-- Fields are added one after the other, wherever they go, if the place takes each new name. -/
theorem foldlM_fields (draft : List (String × Value) → Draft)
    (hadd : ∀ done f, f.1 ∉ done.map (·.1) →
      (draft done).add (fieldOf f) = some (draft (done ++ [toField f])))
    {done : List (String × Value)} (fields : List (String × String))
    (h : (done.map (·.1) ++ fields.map (·.1)).Nodup) :
    (fields.map fieldOf).foldlM Draft.add (draft done) =
      some (draft (done ++ fields.map toField)) := by
  induction fields generalizing done with
  | nil => simp
  | cons f fields ih =>
      have hnew : f.1 ∉ done.map (·.1) := by
        intro hmem
        exact (List.nodup_append.1 h).2.2 _ hmem _ List.mem_cons_self rfl
      have hrest : ((done ++ [toField f]).map (·.1) ++ fields.map (·.1)).Nodup := by
        simpa [toField] using h
      rw [List.map_cons, List.foldlM_cons, hadd done f hnew, Option.bind_eq_bind, Option.bind_some,
        ih hrest]
      simp

theorem add_root {origin : Origin} (done : List (String × Value)) (f : String × String)
    (h : f.1 ∉ done.map (·.1)) :
    Draft.add ⟨⟨origin, done⟩, []⟩ (fieldOf f) = some ⟨⟨origin, done ++ [toField f]⟩, []⟩ := by
  simp only [Draft.add, fieldOf, Table.within, Table.addField_new (t := ⟨origin, done⟩) _ h]
  rfl

theorem add_under {origin : Origin} {front : List (String × Value)} {name : String}
    (hname : name ∉ front.map (·.1)) (done : List (String × Value)) (f : String × String)
    (h : f.1 ∉ done.map (·.1)) :
    Draft.add ⟨⟨origin, front ++ [(name, .table .header done)]⟩, [name]⟩ (fieldOf f) =
      some ⟨⟨origin, front ++ [(name, .table .header (done ++ [toField f]))]⟩, [name]⟩ := by
  have hpass : Table.mayPass .passed .header = true := rfl
  simp only [Draft.add, fieldOf, Table.within, Table.get?_last _ hname, if_pos hpass,
    Table.addField_new (t := ⟨.header, done⟩) _ h, Option.map_some, Table.toValue,
    Table.put_last _ _ hname]
  rfl

theorem add_header {origin : Origin} {front : List (String × Value)} {name : String}
    (h : name ∉ front.map (·.1)) :
    Draft.add ⟨⟨origin, front⟩, []⟩ (.header ⟨[], name⟩) =
      some ⟨⟨origin, front ++ [(name, .table .header [])]⟩, [name]⟩ := by
  simp only [Draft.add, Table.openTable, Table.within, Table.get?_eq_none (t := ⟨origin, front⟩) h,
    Table.put_new (t := ⟨origin, front⟩) _ h, Option.map_some, List.nil_append]

/-! ### Documents -/

/-- Fields, and then more of them under a header, after a line that is left free. -/
def documentChars (top : List (String × String)) (name : String) (under : List (String × String)) :
    List Char :=
  top.flatMap fieldChars ++ '\n' :: (headerChars name ++ under.flatMap fieldChars)

theorem length_le_flatMap (fields : List (String × String)) :
    fields.length ≤ (fields.flatMap fieldChars).length := by
  induction fields with
  | nil => simp
  | cons f fields ih =>
      have hpos : 0 < (fieldChars f).length := by
        simp only [fieldChars, List.length_append, List.length_singleton]
        omega
      rw [List.flatMap_cons, List.length_append, List.length_cons]
      omega

variable {top under : List (String × String)} {name : String}

theorem dropMark_documentChars (h : ∀ f ∈ top, isBare f.1 = true) :
    dropMark (documentChars top name under) = documentChars top name under := by
  have hmark : (documentChars top name under).head? ≠ some '\uFEFF' := by
    cases top with
    | nil => simp [documentChars]
    | cons f top =>
        obtain ⟨c, cs, hname, hc⟩ := cons_of_isBare (h f List.mem_cons_self)
        intro hhead
        simp only [documentChars, List.flatMap_cons, fieldChars, hname, List.cons_append,
          List.head?_cons, Option.some.injEq] at hhead
        rw [hhead] at hc
        exact absurd hc (by decide)
  unfold dropMark
  split
  · rename_i heq
    rw [heq] at hmark
    exact absurd rfl hmark
  · rfl

theorem readStatements_documentChars (htop : ∀ f ∈ top, isBare f.1 = true) (hname : isBare name = true)
    (hunder : ∀ f ∈ under, isBare f.1 = true) :
    readStatements ((documentChars top name under).length + 1) (documentChars top name under) =
      some (top.map fieldOf ++ .header ⟨[], name⟩ :: under.map fieldOf) := by
  obtain ⟨fuel, hfuel⟩ : ∃ fuel, (documentChars top name under).length + 1 =
      top.length + (under.length + (fuel + 1) + 1) := by
    have htop := length_le_flatMap top
    have hunder := length_le_flatMap under
    refine ⟨(documentChars top name under).length - top.length - under.length - 1, ?_⟩
    simp only [documentChars, List.length_append, List.length_cons]
    omega
  have hend := readStatements_fields (fuel + 1) hunder []
  rw [List.append_nil] at hend
  rw [hfuel, documentChars, readStatements_fields _ htop, readStatements_header _ hname, hend]
  simp [readStatements, skipLines]

/-- The table that a document describes has its fields, and those of the header in one of them. -/
theorem read?_documentChars (htop : ∀ f ∈ top, isBare f.1 = true) (hname : isBare name = true)
    (hunder : ∀ f ∈ under, isBare f.1 = true) (hfront : (top.map (·.1) ++ [name]).Nodup)
    (hinner : (under.map (·.1)).Nodup) :
    Table.read? (String.ofList (documentChars top name under)) =
      some ⟨.header, top.map toField ++ [(name, .table .header (under.map toField))]⟩ := by
  have hnames : (top.map toField).map (·.1) = top.map (·.1) := by
    simp [toField, Function.comp_def]
  obtain ⟨hnodup, -, happart⟩ := List.nodup_append.1 hfront
  have hnew : name ∉ (top.map toField).map (·.1) := by
    rw [hnames]
    intro hmem
    exact happart _ hmem _ (List.mem_singleton_self name) rfl
  have hroot : (top.map fieldOf).foldlM Draft.add ⟨⟨.header, []⟩, []⟩ = some _ :=
    foldlM_fields (fun done => ⟨⟨.header, done⟩, []⟩) add_root top (by simpa using hnodup)
  have hheader : (under.map fieldOf).foldlM Draft.add
      ⟨⟨.header, top.map toField ++ [(name, .table .header [])]⟩, [name]⟩ = some _ :=
    foldlM_fields (fun done => ⟨⟨.header, top.map toField ++ [(name, .table .header done)]⟩, [name]⟩)
      (add_under hnew) under (by simpa using hinner)
  simp only [Table.read?, String.toList_ofList, dropMark_documentChars htop,
    readStatements_documentChars htop hname hunder, Option.bind_eq_bind, Option.bind_some]
  rw [Table.ofStatements?, List.foldlM_append, Table.document, hroot]
  simp only [List.nil_append, Option.bind_eq_bind, Option.bind_some, List.foldlM_cons,
    add_header hnew]
  rw [hheader]
  rfl

end Strongbox.Toml
