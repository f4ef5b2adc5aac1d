import Strongbox.Proofs.Text.Lowercase
import Strongbox.Secret.TokenType
/-! Names of token types. A type is found by its friendly name and by its symbol, in any case. A look-up
folds the one by lower case and the other up to ASCII case only, and still each name has at most one type:
the only character beyond ASCII that could tell the two apart is the Kelvin sign, and the only symbol with
a k is a friendly name, too. -/
namespace Strongbox.TokenType

section

variable (isFinal : List Char → List Char → Bool)

/-- What is the friendly name or the symbol of a type but for case. -/
def Named (name : String) (t : TokenType) : Prop :=
  Text.lowercaseBy isFinal name = Text.lowercaseBy isFinal t.friendlyName ∨
    Text.lowercaseBy isFinal name = Text.lowercaseBy isFinal t.symbol

/-- The first half of a look-up. -/
def byFriendlyName? (name : String) : Option TokenType :=
  all.find? fun t => Text.lowercaseBy isFinal t.friendlyName == Text.lowercaseBy isFinal name

end

/-- The second half of a look-up. -/
def bySymbol? (name : String) : Option TokenType :=
  all.find? fun t => Text.eqIgnoreAsciiCase t.symbol name

/-- How the halves of a look-up go together: the second has a say where the first finds nothing, never finds
another type, and takes the symbols that only it knows for what they are in lower case. -/
structure Agreement (isFinal : List Char → List Char → Bool) (name : String) : Prop where
  halves : lookUp? name = (byFriendlyName? isFinal name).or (bySymbol? name)
  same : ∀ t u, byFriendlyName? isFinal name = some t → bySymbol? name = some u → t = u
  alike : ∀ t : TokenType, t.symbol ≠ t.friendlyName → (Text.eqIgnoreAsciiCase t.symbol name = true ↔
    Text.lowercaseBy isFinal name = Text.lowercaseBy isFinal t.symbol)

/-- Why a text that names no type is refused. -/
def refusal (name : String) : String :=
  if Text.isBlank name then "the token type name is empty"
  else s!"unexpected token type '{name}' encountered"

variable {isFinal : List Char → List Char → Bool} {name : String} {t u : TokenType}

/-! ### The table of names -/

theorem mem_all (t : TokenType) : t ∈ all := by
  cases t <;> decide

def names (t : TokenType) : List String := [t.friendlyName, t.symbol]

theorem friendlyName_mem : t.friendlyName ∈ t.names := List.mem_cons_self

theorem symbol_mem : t.symbol ∈ t.names := List.mem_cons_of_mem _ List.mem_cons_self

theorem isAscii_names : ∀ t ∈ all, ∀ a ∈ t.names, Text.IsAscii a.toList := by decide +kernel

theorem names_apart : ∀ t ∈ all, ∀ u ∈ all, ∀ a ∈ t.names, ∀ b ∈ u.names,
    Text.plain a = Text.plain b → t = u := by decide +kernel

theorem names_visible : ∀ t ∈ all, ∀ a ∈ t.names, (Text.plain a).all Text.isSpace = false := by
  decide +kernel

/-- One symbol has a k, and that is a friendly name. -/
theorem symbols_without_k : ∀ t ∈ all, t.symbol = t.friendlyName ∨ 'k' ∉ Text.plain t.symbol := by
  decide +kernel

theorem lowercaseBy_eq_name_iff {a : String} (ha : a ∈ t.names) :
    Text.lowercaseBy isFinal name = Text.lowercaseBy isFinal a ↔ Text.plain name = Text.plain a :=
  Text.lowercaseBy_eq_ascii_iff (isAscii_names t (mem_all t) a ha)

/-! ### Names that are compared character by character -/

/-- What `Named` comes to when the rule for sigma is gone. -/
def HasName (name : String) (t : TokenType) : Prop := ∃ a ∈ t.names, Text.plain name = Text.plain a

theorem named_iff : Named isFinal name t ↔ HasName name t := by
  simp [Named, HasName, lowercaseBy_eq_name_iff friendlyName_mem, lowercaseBy_eq_name_iff symbol_mem, names]

theorem named_lowercaseBy : Named isFinal (Text.lowercaseBy isFinal name) t ↔ Named isFinal name t := by
  rw [Named, Named, Text.lowercaseBy_lowercaseBy]

theorem HasName.unique (ht : HasName name t) (hu : HasName name u) : t = u := by
  obtain ⟨a, ha, hfold⟩ := ht
  obtain ⟨b, hb, hfold'⟩ := hu
  exact names_apart t (mem_all t) u (mem_all u) a ha b hb (hfold.symm.trans hfold')

/-- White space has no case, so a blank text would be the name itself. -/
theorem HasName.visible (h : HasName name t) : Text.isBlank name = false := by
  obtain ⟨a, ha, hfold⟩ := h
  by_contra hblank
  have hspaces : ∀ c ∈ name.toList, Text.isSpace c = true := by simpa [Text.isBlank] using hblank
  have hkept : Text.plain name = name.toList := by
    refine (List.map_congr_left fun c hc => ?_).trans (List.map_id _)
    exact Text.plainChar_of_isSpace (hspaces c hc)
  have hvisible := names_visible t (mem_all t) a ha
  rw [← hfold, hkept, List.all_eq_true.2 hspaces] at hvisible
  cases hvisible

/-! ### Look-ups -/

/-- A search among all types finds what only one of them is. -/
theorem find?_eq_some_iff {p : TokenType → Bool} (hp : ∀ t u, p t = true → p u = true → t = u) :
    all.find? p = some t ↔ p t = true := by
  constructor
  · exact List.find?_some
  · intro ht
    obtain ⟨u, hu⟩ := Option.isSome_iff_exists.1 (List.find?_isSome.2 ⟨t, mem_all t, ht⟩)
    rw [hu, hp t u ht (List.find?_some hu)]

theorem byFriendlyName?_eq_some_iff :
    byFriendlyName? isFinal name = some t ↔ Text.plain name = Text.plain t.friendlyName := by
  have hiff : ∀ t : TokenType,
      (Text.lowercaseBy isFinal t.friendlyName == Text.lowercaseBy isFinal name) = true ↔
        Text.plain name = Text.plain t.friendlyName :=
    fun t => (beq_iff_eq.trans eq_comm).trans (lowercaseBy_eq_name_iff friendlyName_mem)
  rw [byFriendlyName?, find?_eq_some_iff, hiff]
  intro t u ht hu
  exact HasName.unique ⟨_, friendlyName_mem, (hiff t).1 ht⟩ ⟨_, friendlyName_mem, (hiff u).1 hu⟩

theorem eqIgnoreAsciiCase_symbol_iff : Text.eqIgnoreAsciiCase t.symbol name = true ↔
    Text.plain name = Text.plain t.symbol ∧ Text.kelvin ∉ name.toList :=
  Text.eqIgnoreAsciiCase_iff (isAscii_names t (mem_all t) _ symbol_mem)

theorem hasName_of_symbol (h : Text.eqIgnoreAsciiCase t.symbol name = true) : HasName name t :=
  ⟨_, symbol_mem, (eqIgnoreAsciiCase_symbol_iff.1 h).1⟩

theorem bySymbol?_eq_some_iff :
    bySymbol? name = some t ↔ Text.eqIgnoreAsciiCase t.symbol name = true :=
  find?_eq_some_iff fun _ _ ht hu => (hasName_of_symbol ht).unique (hasName_of_symbol hu)

/-- No text with a Kelvin sign is a symbol without a k. -/
theorem eqIgnoreAsciiCase_symbol_of_ne (hother : t.symbol ≠ t.friendlyName) :
    Text.eqIgnoreAsciiCase t.symbol name = true ↔ Text.plain name = Text.plain t.symbol := by
  rw [eqIgnoreAsciiCase_symbol_iff, and_iff_left_iff_imp]
  intro hfold hkelvin
  have hk : 'k' ∈ Text.plain name := List.mem_map.2 ⟨Text.kelvin, hkelvin, by decide⟩
  rw [hfold] at hk
  exact (symbols_without_k t (mem_all t)).resolve_left hother hk

theorem lookUp?_eq_or (isFinal : List Char → List Char → Bool) (name : String) :
    lookUp? name = (byFriendlyName? isFinal name).or (bySymbol? name) := by
  have hrule : byFriendlyName? isFinal name = byFriendlyName? (fun _ _ => false) name := by
    ext t
    rw [byFriendlyName?_eq_some_iff, byFriendlyName?_eq_some_iff]
  rw [hrule]
  unfold lookUp? byFriendlyName?
  simp only [Text.lowercaseBy_never]
  cases all.find? fun t => Text.lowercase t.friendlyName == Text.lowercase name <;> rfl

theorem agreement (isFinal : List Char → List Char → Bool) (name : String) : Agreement isFinal name where
  halves := lookUp?_eq_or isFinal name
  same _ _ ht hu := HasName.unique ⟨_, friendlyName_mem, byFriendlyName?_eq_some_iff.1 ht⟩
    (hasName_of_symbol (bySymbol?_eq_some_iff.1 hu))
  alike _ hother := (eqIgnoreAsciiCase_symbol_of_ne hother).trans (lowercaseBy_eq_name_iff symbol_mem).symm

theorem lookUp?_eq_some_iff : lookUp? name = some t ↔ HasName name t := by
  rw [lookUp?_eq_or (fun _ _ => false), Option.or_eq_some_iff, byFriendlyName?_eq_some_iff,
    bySymbol?_eq_some_iff]
  constructor
  · rintro (hfold | ⟨-, hsymbol⟩)
    · exact ⟨_, friendlyName_mem, hfold⟩
    · exact hasName_of_symbol hsymbol
  · intro h
    cases hfirst : byFriendlyName? (fun _ _ => false) name with
    | some u =>
        have hfold := byFriendlyName?_eq_some_iff.1 hfirst
        have heq : u = t := HasName.unique ⟨_, friendlyName_mem, hfold⟩ h
        exact .inl (heq ▸ hfold)
    | none =>
        -- The name is a symbol and no friendly name, so it is a symbol that ASCII case is enough for.
        have hother : Text.plain name ≠ Text.plain t.friendlyName := by
          intro hfold
          rw [byFriendlyName?_eq_some_iff.2 hfold] at hfirst
          cases hfirst
        have hsymbol : Text.plain name = Text.plain t.symbol := by simpa [HasName, names, hother] using h
        have hne : t.symbol ≠ t.friendlyName := fun heq => hother (heq ▸ hsymbol)
        exact .inr ⟨rfl, (eqIgnoreAsciiCase_symbol_of_ne hne).2 hsymbol⟩

theorem ofFriendlyName_eq_ok_iff : ofFriendlyName name = .ok t ↔ HasName name t := by
  rw [← lookUp?_eq_some_iff]
  constructor
  · intro h
    unfold ofFriendlyName at h
    split at h
    · cases h
    · split at h
      · cases h
        assumption
      · cases h
  · intro h
    have hvisible := (lookUp?_eq_some_iff.1 h).visible
    rw [ofFriendlyName, if_neg (by simp [hvisible]), h]

theorem ofFriendlyName_of_not_hasName (h : ∀ t, ¬ HasName name t) :
    ofFriendlyName name = .error (.validation (refusal name)) := by
  have hnone : lookUp? name = none :=
    Option.eq_none_iff_forall_ne_some.2 fun t ht => h t (lookUp?_eq_some_iff.1 ht)
  unfold ofFriendlyName refusal
  rw [hnone]
  split <;> rfl

/-- A text finds the type of which it is the friendly name or the symbol in any case, and is refused if
there is none; there are never two. None of this depends on the form of a final sigma. -/
theorem ofFriendlyName_caseless (isFinal : List Char → List Char → Bool) (name : String) :
    (∀ t, ofFriendlyName name = .ok t ↔ Text.isBlank name = false ∧ Named isFinal name t) ∧
    (∀ t u, Named isFinal name t → Named isFinal name u → t = u) ∧
    Agreement isFinal name ∧
    (∀ t, ofFriendlyName name = .ok t ↔ ofFriendlyName (Text.lowercaseBy isFinal name) = .ok t) ∧
    ((¬ ∃ t, Text.isBlank name = false ∧ Named isFinal name t) →
      ofFriendlyName name = .error (.validation (refusal name))) := by
  have hfound : ∀ t, Text.isBlank name = false ∧ Named isFinal name t ↔ HasName name t := by
    intro t
    rw [named_iff, and_iff_right_iff_imp]
    exact HasName.visible
  refine ⟨fun t => ?_, fun t u ht hu => ?_, agreement isFinal name, fun t => ?_, fun hnone => ?_⟩
  · rw [ofFriendlyName_eq_ok_iff, hfound]
  · exact (named_iff.1 ht).unique (named_iff.1 hu)
  · calc ofFriendlyName name = .ok t
      _ ↔ Named isFinal name t := ofFriendlyName_eq_ok_iff.trans named_iff.symm
      _ ↔ Named isFinal (Text.lowercaseBy isFinal name) t := named_lowercaseBy.symm
      _ ↔ ofFriendlyName (Text.lowercaseBy isFinal name) = .ok t :=
        named_iff.trans ofFriendlyName_eq_ok_iff.symm
  · exact ofFriendlyName_of_not_hasName fun t h => hnone ⟨t, (hfound t).2 h⟩

/-- A Kelvin sign is a k in a friendly name, though not in a symbol. -/
theorem ofFriendlyName_caseless_kelvin :
    ofFriendlyName "UN\u212ANOWN" = .ok .unknown ∧ bySymbol? "UN\u212ANOWN" = none := by
  -- A sigma is final here after any letter; the name has none.
  have hfound := (ofFriendlyName_caseless (fun before _ => before.any Char.isAlpha) "UN\u212ANOWN").1 .unknown
  exact ⟨hfound.2 ⟨by decide, .inl (by decide +kernel)⟩, by decide +kernel⟩

end Strongbox.TokenType
