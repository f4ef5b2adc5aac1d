import Strongbox.Proofs.Xml.Escape
/-! An element written and read again is the same element, bare or behind a declaration. -/
namespace Strongbox.Xml

/-- All names of an element may stand in tags as they are. -/
def Element.wellNamed (e : Element) : Bool :=
  isTagName e.name.toList && e.children.all fun child => isTagName child.1.toList

/-- An empty text is written like any other. -/
theorem Element.renderChild_eq (name text : String) : renderChild (name, text) =
    startTag name.toList ++ escape text.toList ++ endTag name.toList := by
  have htext : (if text.isEmpty then [] else escape text.toList) = escape text.toList := by
    split
    · rename_i h
      rw [String.isEmpty_iff.1 h]
      rfl
    · rfl
  simp only [renderChild, htext]

/-- What stands between the tags of a name. -/
def tagged (name content : String) : String := "<" ++ name ++ ">" ++ content ++ "</" ++ name ++ ">"

theorem toList_tagged (name content : String) : (tagged name content).toList =
    Element.startTag name.toList ++ content.toList ++ Element.endTag name.toList := by
  simp [tagged, Element.startTag, Element.endTag]

theorem toList_join_tagged (children : List (String × String)) :
    (String.join (children.map fun child => tagged child.1 (written child.2))).toList =
      children.flatMap Element.renderChild := by
  induction children with
  | nil => rfl
  | cons child children ih =>
      rw [List.map_cons, String.join_cons, String.toList_append, ih, toList_tagged, toList_written,
        ← Element.renderChild_eq, List.flatMap_cons]

/-- An element is written as its children between the tags of the root, with nothing else anywhere. -/
theorem Element.render_eq (e : Element) : e.render =
    tagged e.name (String.join (e.children.map fun child => tagged child.1 (written child.2))) := by
  apply String.toList_injective
  rw [render, String.toList_ofList, toList_tagged, toList_join_tagged, renderChars]

namespace Reading

variable {total : Nat} {opens : List (List Char)}

/-- State directly inside an open root. -/
def within (e : Element) : Reading := ⟨1, some e, false, none⟩

theorem onward_renderChild {e : Element} {child : String × String} (cs : List Char)
    (hname : isTagName child.1.toList = true) :
    onward total (within e) opens (Element.renderChild child ++ cs) =
      onward total (within { e with children := e.children ++ [child] }) opens cs := by
  obtain ⟨name, text⟩ := child
  have hopen : (within e).opening name.toList = .ok ⟨2, some e, false, some (name, "")⟩ := by
    simp [within, opening]
  rw [Element.renderChild_eq, List.append_assoc, List.append_assoc]
  rw [onward_startTag hname hopen, onward_escape (by simp), onward_endTag hname]
  simp [within, addText, closing, addChild]

theorem onward_children {e : Element} {children : List (String × String)} (cs : List Char)
    (hnames : ∀ child ∈ children, isTagName child.1.toList = true) :
    onward total (within e) opens (children.flatMap Element.renderChild ++ cs) =
      onward total (within { e with children := e.children ++ children }) opens cs := by
  induction children generalizing e with
  | nil => simp
  | cons child children ih =>
      have hrest := ih (e := { e with children := e.children ++ [child] })
        fun c hc => hnames c (List.mem_cons_of_mem _ hc)
      rw [List.flatMap_cons, List.append_assoc, onward_renderChild _ (hnames child (by simp)), hrest]
      simp only [List.append_assoc, List.singleton_append]

theorem onward_renderChars {e : Element} (h : e.wellNamed = true) :
    onward total start [] e.renderChars = .ok e := by
  simp only [Element.wellNamed, Bool.and_eq_true, List.all_eq_true] at h
  have hopen : start.opening e.name.toList = .ok (within ⟨e.name, []⟩) := by
    simp [start, opening, within]
  rw [Element.renderChars, List.append_assoc, onward_startTag h.1 hopen, onward_children _ h.2,
    ← List.append_nil (Element.endTag _), onward_endTag h.1, onward_nil]
  simp [within, closing, finish]

end Reading

namespace Element

theorem renderChars_eq_cons (e : Element) : ∃ cs, e.renderChars = '<' :: cs := ⟨_, rfl⟩

/-- A document that begins with markup has no byte order mark to drop. -/
theorem read_of_toList {s : String} {cs : List Char} (h : s.toList = '<' :: cs) :
    read s = Reading.onward (Text.utf8Size ('<' :: cs)) .start [] ('<' :: cs) := by
  rw [read, h, List.dropWhile_cons_of_neg (by decide)]
  rfl

theorem read_render {e : Element} (h : e.wellNamed = true) : read e.render = .ok e := by
  obtain ⟨cs, hcs⟩ := e.renderChars_eq_cons
  have hchars : e.render.toList = '<' :: cs := by rw [render, String.toList_ofList, hcs]
  rw [read_of_toList hchars, ← hcs, Reading.onward_renderChars h]

theorem parse_render {e : Element} (h : e.wellNamed = true) : parse e.render = .ok e := by
  rw [parse, read_render h]
  rfl

theorem parse_of_render {e : Element} {text : String} (h : text = e.render)
    (hnames : e.wellNamed = true) : parse text = .ok e := by
  rw [h, parse_render hnames]

/-- A text that cannot be read as an element is no document. -/
theorem parse_eq_error {text : String} {f : SecretError} (h : parse text = .error f) :
    ∃ reason, f = .serialization reason := by
  unfold parse at h
  cases hread : read text with
  | ok e =>
      rw [hread] at h
      cases h
  | error e =>
      rw [hread] at h
      cases h
      exact ⟨_, rfl⟩

end Element
end Strongbox.Xml
