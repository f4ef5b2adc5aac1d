import Strongbox.Proofs.Xml.Markup
/-! Reading from the middle of a document: what has been read, the open elements and the rest of the
text decide the outcome, so one delivery, one character of text and one tag can each be taken alone. -/
namespace Strongbox.Xml

theorem eventsFrom_nil (opens : List (List Char)) : eventsFrom opens [] = ⟨[], none⟩ := by
  rw [eventsFrom]
  rfl

theorem eventsFrom_of_delivered {opens opens' : List (List Char)} {cs rest : List Char}
    {event : Event} (h : next opens cs = .delivered event opens' rest) :
    eventsFrom opens cs =
      ⟨event :: (eventsFrom opens' rest).events, (eventsFrom opens' rest).fault⟩ := by
  rw [eventsFrom]
  split
  · rename_i heq
    rw [h] at heq
    cases heq
  · rename_i heq
    rw [h] at heq
    cases heq
  · rename_i heq
    rw [h] at heq
    cases heq
    rfl

theorem eventsFrom_startTag (name : List Char) (h : isTagName name = true) :
    eventsFrom [] (Element.startTag name) = ⟨[.opening name], none⟩ := by
  have hnext : next [] (Element.startTag name ++ []) = .delivered (.opening name) [name] [] :=
    next_startTag h
  rw [List.append_nil] at hnext
  rw [eventsFrom_of_delivered hnext, eventsFrom_nil]

namespace Reading

/-- Outcome of reading on from a state. `total` is the size from which positions are counted. -/
def onward (total : Nat) (r : Reading) (opens : List (List Char)) (cs : List Char) :
    Except ReadError Element :=
  let found := eventsFrom opens cs
  match r.run found.events with
  | .error e => .error e
  | .ok r => match found.fault with
    | some (fault, rest) => .error (.refused fault (total - Text.utf8Size rest))
    | none => r.finish

variable {total : Nat} {r r' : Reading} {opens opens' : List (List Char)} {cs rest : List Char}

theorem onward_nil : onward total r opens [] = r.finish := by
  simp only [onward, eventsFrom_nil, run]

theorem onward_of_delivered {event : Event} (h : next opens cs = .delivered event opens' rest)
    (hr : r.step event = .ok r') : onward total r opens cs = onward total r' opens' rest := by
  simp only [onward, eventsFrom_of_delivered h, run, hr]

@[simp] theorem depth_addText (content : List Char) : (r.addText content).depth = r.depth := by
  unfold addText
  split <;> rfl

theorem addText_nil : r.addText [] = r := by
  obtain ⟨depth, root, rootClosed, child⟩ := r
  cases child <;> simp [addText]

theorem addText_addText (a b : List Char) :
    (r.addText a).addText b = r.addText (a ++ b) := by
  by_cases h : r.depth = 2
  · cases hc : r.child <;> simp [addText, h, hc, String.append_assoc]
  · simp [addText, h]

theorem step_text (h : r.depth ≠ 0) (content : List Char) :
    r.step (.text content) = .ok (r.addText content) := by
  simp [step, h]

/-- Inside the root a run of plain text may be taken character by character. -/
theorem onward_plain {c : Char} (h : r.depth ≠ 0) (hc : isPlain c = true) :
    onward total r opens (c :: cs) = onward total (r.addText [c]) opens cs := by
  rw [onward_of_delivered (next_plain hc) (step_text h _)]
  cases cs with
  | nil => rfl
  | cons d ds =>
      cases hd : isPlain d with
      | false =>
          rw [List.takeWhile_cons_of_neg (by simp [hd]), List.dropWhile_cons_of_neg (by simp [hd])]
      | true =>
          have hdepth : (r.addText [c]).depth ≠ 0 := by simpa using h
          rw [onward_of_delivered (next_plain hd) (step_text hdepth _), addText_addText,
            List.takeWhile_cons_of_pos hd, List.dropWhile_cons_of_pos hd, List.singleton_append]

theorem onward_reference (body : List Char) {c : Char} (h : r.depth ≠ 0)
    (hbody : isReferenceBody body = true) (hc : resolve body = .ok c) :
    onward total r opens ('&' :: (body ++ ';' :: cs)) = onward total (r.addText [c]) opens cs :=
  onward_of_delivered (next_reference hbody) (by simp [step, hc, h])

theorem onward_startTag {name : List Char} (hname : isTagName name = true)
    (hr : r.opening name = .ok r') :
    onward total r opens (Element.startTag name ++ cs) = onward total r' (name :: opens) cs :=
  onward_of_delivered (next_startTag hname) hr

theorem onward_endTag {name : List Char} (hname : isTagName name = true) :
    onward total r (name :: opens) (Element.endTag name ++ cs) = onward total r.closing opens cs :=
  onward_of_delivered (next_endTag hname) rfl

theorem onward_instruction {content : List Char} (hmark : ¬ ['?', '>'] <:+: content)
    (hstart : content.head? ≠ some '>') :
    onward total r opens ('<' :: '?' :: (content ++ '?' :: '>' :: cs)) = onward total r opens cs :=
  onward_of_delivered (next_instruction hmark hstart) rfl

theorem step_blank (h : r.depth = 0) {content : List Char} (hs : content.all Text.isSpace = true) :
    r.step (.text content) = .ok r := by
  simp [step, h, hs, addText]

theorem step_stray (h : r.depth = 0) {content : List Char} (hs : content.all Text.isSpace = false) :
    r.step (.text content) = .error .strayText := by
  simp [step, h, hs]

theorem onward_of_failed {event : Event} {e : ReadError} (h : next opens cs = .delivered event opens' rest)
    (hr : r.step event = .error e) : onward total r opens cs = .error e := by
  simp only [onward, eventsFrom_of_delivered h, run, hr]

/-- White space is no part of the document outside its root, wherever the run of text around it ends. -/
theorem onward_space {c : Char} (h : r.depth = 0) (hs : Text.isSpace c = true) :
    onward total r opens (c :: cs) = onward total r opens cs := by
  have hplain : isPlain c = true := by
    rw [isPlain, Bool.and_eq_true, bne_iff_ne, bne_iff_ne]
    refine ⟨?_, ?_⟩ <;>
      · rintro rfl
        exact absurd hs (by decide)
  have hnext : next opens (c :: cs) =
      .delivered (.text (c :: cs.takeWhile isPlain)) opens (cs.dropWhile isPlain) := next_plain hplain
  have hall : (c :: cs.takeWhile isPlain).all Text.isSpace = (cs.takeWhile isPlain).all Text.isSpace := by
    rw [List.all_cons, hs, Bool.true_and]
  cases cs with
  | nil => rw [onward_of_delivered hnext (step_blank h (by rw [hall]; rfl)), List.dropWhile_nil]
  | cons d ds =>
      cases hd : isPlain d with
      | false =>
          rw [List.takeWhile_cons_of_neg (by simp [hd])] at hnext hall
          rw [onward_of_delivered hnext (step_blank h hall), List.dropWhile_cons_of_neg (by simp [hd])]
      | true =>
          rw [List.takeWhile_cons_of_pos hd] at hnext hall
          have hrest : next opens (d :: ds) =
              .delivered (.text (d :: ds.takeWhile isPlain)) opens (ds.dropWhile isPlain) := next_plain hd
          cases hblank : (d :: ds.takeWhile isPlain).all Text.isSpace with
          | true =>
              rw [onward_of_delivered hnext (step_blank h (hall.trans hblank)),
                onward_of_delivered hrest (step_blank h hblank), List.dropWhile_cons_of_pos hd]
          | false =>
              rw [onward_of_failed hnext (step_stray h (hall.trans hblank)),
                onward_of_failed hrest (step_stray h hblank)]

end Reading
end Strongbox.Xml
