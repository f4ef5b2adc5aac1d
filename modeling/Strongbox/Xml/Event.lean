import Strongbox.Xml.Doctype
/-! The events of a document: what a reader meets from left to right, up to the end of the text or
to the place where it is refused. End tags are matched against the open elements; attributes and the
content of comments, instructions and declarations are passed over. -/
namespace Strongbox.Xml

inductive Event where
  | opening (name : List Char)
  | childless (name : List Char)
  | closing
  | text (content : List Char)
  | cdata (content : List Char)
  | reference (body : List Char)
  /-- Comment, instruction, declaration or document type. -/
  | aside
  deriving DecidableEq, Repr

inductive Fault where
  | referenceNotClosed
  | cdataNotClosed
  | commentNotClosed
  | doctypeNotClosed
  | doctypeNameless
  | unknownMarkup
  | instructionNotClosed
  | declarationNotClosed
  | tagNotClosed
  | valueNotClosed (quote : Char)
  | mismatched (expected found : List Char)
  | unmatched (found : List Char)
  deriving DecidableEq, Repr

def Fault.message : Fault → String
  | referenceNotClosed =>
      "ill-formed document: entity or character reference not closed: `;` not found before end of input"
  | cdataNotClosed => "syntax error: CDATA not closed: `]]>` not found before end of input"
  | commentNotClosed => "syntax error: comment not closed: `-->` not found before end of input"
  | doctypeNotClosed => "syntax error: DOCTYPE not closed: `>` not found before end of input"
  | doctypeNameless =>
      "ill-formed document: `<!DOCTYPE>` declaration does not contain a name of a document type"
  | unknownMarkup => "syntax error: unknown or missed symbol in markup"
  | instructionNotClosed =>
      "syntax error: processing instruction not closed: `?>` not found before end of input"
  | declarationNotClosed =>
      "syntax error: XML declaration not closed: `?>` not found before end of input"
  | tagNotClosed => "syntax error: tag not closed: `>` not found before end of input"
  | valueNotClosed quote =>
      "syntax error: attribute value not closed: `" ++ String.singleton quote ++
        "` not found before end of input"
  | mismatched expected found =>
      "ill-formed document: expected `</" ++ String.ofList expected ++ ">`, but `</" ++
        String.ofList found ++ ">` was found"
  | unmatched found =>
      "ill-formed document: close tag `</" ++ String.ofList found ++
        ">` does not match any open tag"

/-- The blanks of markup, fewer than the white space of text. -/
def isBlankChar (c : Char) : Bool := c == ' ' || c == '\t' || c == '\r' || c == '\n'

def cutAt (mark : List Char) : List Char → Option (List Char × List Char)
  | [] => none
  | c :: cs =>
    if mark.isPrefixOf (c :: cs) then some ([], (c :: cs).drop mark.length)
    else (cutAt mark cs).map fun (before, after) => (c :: before, after)

/-- Body of a reference, up to its semicolon; another ampersand or a tag ends the search. -/
def cutReference : List Char → Option (List Char × List Char)
  | [] => none
  | c :: cs =>
    if c = ';' then some ([], cs)
    else if c = '&' ∨ c = '<' then none
    else (cutReference cs).map fun (before, after) => (c :: before, after)

/-- Content of a tag, up to the first `>` outside quotes. -/
def cutTag (quote : Option Char) : List Char → Except Fault (List Char × List Char)
  | [] => .error (match quote with
    | none => .tagNotClosed
    | some q => .valueNotClosed q)
  | c :: cs => match quote with
    | none =>
      if c = '>' then .ok ([], cs)
      else (cutTag (if Doctype.isQuote c then some c else none) cs).map
        fun (before, after) => (c :: before, after)
    | some q =>
      (cutTag (if c = q then none else some q) cs).map fun (before, after) => (c :: before, after)

/-- Everything up to the first blank; nothing is checked. -/
def tagName (content : List Char) : List Char := content.takeWhile (!isBlankChar ·)

/-- Name in an end tag: without trailing blanks, unless it is all blanks. -/
def endName (content : List Char) : List Char :=
  let trimmed := (content.reverse.dropWhile isBlankChar).reverse
  if trimmed.isEmpty then content else trimmed

/-- What the reader meets next. After a delivery, `opens` are the names of the open elements, the
innermost first. A refusal holds the text from the place of the fault on. -/
inductive Step where
  | finished
  | refused (fault : Fault) (rest : List Char)
  | delivered (event : Event) (opens : List (List Char)) (rest : List Char)
  deriving DecidableEq, Repr

def startsDeclaration : List Char → Bool
  | 'x' :: 'm' :: 'l' :: cs => match cs with
    | [] => true
    | c :: _ => isBlankChar c || c == '?'
  | _ => false

def declarationStep (opens : List (List Char)) (whole : List Char) : List Char → Step
  | '[' :: cs =>
    if ['C', 'D', 'A', 'T', 'A', '['].isPrefixOf cs then
      match cutAt [']', ']', '>'] (cs.drop 6) with
      | some (content, rest) => .delivered (.cdata content) opens rest
      | none => .refused .cdataNotClosed whole
    else .refused .cdataNotClosed whole
  | '-' :: cs =>
    if ['-'].isPrefixOf cs then
      match cutAt ['-', '-', '>'] (cs.drop 1) with
      | some (_, rest) => .delivered .aside opens rest
      | none => .refused .commentNotClosed whole
    else .refused .commentNotClosed whole
  | c :: cs =>
    if c = 'D' ∨ c = 'd' then
      if (cs.take 6).map Char.toUpper = ['O', 'C', 'T', 'Y', 'P', 'E'] then
        match Doctype.findEnd (.head none) (cs.drop 6) with
        | some rest =>
          if ((cs.drop 6).take (cs.length - 6 - rest.length)).all isBlankChar then
            .refused .doctypeNameless rest
          else .delivered .aside opens rest.tail
        | none => .refused .doctypeNotClosed whole
      else .refused .doctypeNotClosed whole
    else .refused .unknownMarkup whole
  | [] => .refused .unknownMarkup whole

/-- End tag after `</`, in which quotes count as in any tag; it must close the innermost open
element. -/
def endStep (opens : List (List Char)) (whole cs : List Char) : Step :=
  match cutTag none cs with
  | .error fault => .refused fault whole
  | .ok (content, rest) => match opens with
    | [] => .refused (.unmatched (endName content)) whole
    | expected :: outer =>
      if endName content = expected then .delivered .closing outer rest
      else .refused (.mismatched expected (endName content)) whole

/-- Any other tag after `<`; a slash before its end makes it childless. -/
def tagStep (opens : List (List Char)) (whole cs : List Char) : Step :=
  match cutTag none cs with
  | .error fault => .refused fault whole
  | .ok (content, rest) =>
    if content.getLast? = some '/' then
      .delivered (.childless (tagName content.dropLast)) opens rest
    else .delivered (.opening (tagName content)) (tagName content :: opens) rest

/-- Instruction after `<?`. The question mark that opens it does not close it as well. -/
def instructionStep (opens : List (List Char)) (whole cs : List Char) : Step :=
  if ['>'].isPrefixOf cs then .refused .instructionNotClosed whole
  else match cutAt ['?', '>'] cs with
    | some (_, rest) => .delivered .aside opens rest
    | none => .refused
        (if startsDeclaration cs then .declarationNotClosed else .instructionNotClosed) whole

def markupStep (opens : List (List Char)) (whole : List Char) : List Char → Step
  | '!' :: cs => declarationStep opens whole cs
  | '?' :: cs => instructionStep opens whole cs
  | '/' :: cs => endStep opens whole cs
  | cs => tagStep opens whole cs

def isPlain (c : Char) : Bool := c != '<' && c != '&'

def next (opens : List (List Char)) : List Char → Step
  | [] => .finished
  | c :: cs =>
    if c = '<' then markupStep opens (c :: cs) cs
    else if c = '&' then
      match cutReference cs with
      | some (body, rest) => .delivered (.reference body) opens rest
      | none => .refused .referenceNotClosed (c :: cs)
    else .delivered (.text (c :: cs.takeWhile isPlain)) opens (cs.dropWhile isPlain)

theorem length_cutAt {mark cs before after : List Char} (hm : mark ≠ [])
    (h : cutAt mark cs = some (before, after)) : after.length < cs.length := by
  induction cs generalizing before with
  | nil => simp [cutAt] at h
  | cons c cs ih =>
    unfold cutAt at h
    split at h
    · have : 0 < mark.length := List.length_pos_iff.2 hm
      simp only [Option.some.injEq, Prod.mk.injEq] at h
      rw [← h.2]
      simp only [List.length_drop, List.length_cons]
      omega
    · obtain ⟨⟨b, a⟩, hcut, heq⟩ := Option.map_eq_some_iff.1 h
      simp only [Prod.mk.injEq] at heq
      obtain ⟨-, rfl⟩ := heq
      have := ih hcut
      simp only [List.length_cons]
      omega

theorem length_cutReference {cs before after : List Char}
    (h : cutReference cs = some (before, after)) : after.length < cs.length := by
  induction cs generalizing before with
  | nil => simp [cutReference] at h
  | cons c cs ih =>
    unfold cutReference at h
    split at h
    · simp_all
    · split at h
      · simp at h
      · obtain ⟨⟨b, a⟩, hcut, heq⟩ := Option.map_eq_some_iff.1 h
        simp only [Prod.mk.injEq] at heq
        obtain ⟨-, rfl⟩ := heq
        have := ih hcut
        simp only [List.length_cons]
        omega

theorem length_cutTag {quote : Option Char} {cs before after : List Char}
    (h : cutTag quote cs = .ok (before, after)) : after.length < cs.length := by
  induction cs generalizing quote before with
  | nil => simp [cutTag] at h
  | cons c cs ih =>
    have step : ∀ {q b}, (cutTag q cs).map (fun (before, after) => (c :: before, after)) =
        Except.ok (b, after) → after.length < (c :: cs).length := by
      intro q b hq
      cases hcut : cutTag q cs with
      | error e => simp [hcut, Except.map] at hq
      | ok pair =>
        obtain ⟨b', a'⟩ := pair
        simp only [hcut, Except.map, Except.ok.injEq, Prod.mk.injEq] at hq
        obtain ⟨-, rfl⟩ := hq
        have := ih hcut
        simp only [List.length_cons]
        omega
    unfold cutTag at h
    split at h
    · split at h
      · simp_all
      · exact step h
    · exact step h

theorem length_declarationStep {opens opens' : List (List Char)} {whole cs rest : List Char}
    {event : Event} (h : declarationStep opens whole cs = .delivered event opens' rest) :
    rest.length < cs.length + 1 := by
  unfold declarationStep at h
  split at h
  · rename_i cs
    split at h
    · split at h
      · rename_i hcut
        have := length_cutAt (by simp) hcut
        simp only [Step.delivered.injEq] at h
        rw [← h.2.2]
        simp only [List.length_drop] at this
        simp only [List.length_cons]
        omega
      · simp at h
    · simp at h
  · rename_i cs
    split at h
    · split at h
      · rename_i hcut
        have := length_cutAt (by simp) hcut
        simp only [Step.delivered.injEq] at h
        rw [← h.2.2]
        simp only [List.length_drop] at this
        simp only [List.length_cons]
        omega
      · simp at h
    · simp at h
  · split at h
    · split at h
      · split at h
        · rename_i hend
          have := Doctype.length_findEnd hend
          split at h
          · simp at h
          · simp only [Step.delivered.injEq] at h
            rw [← h.2.2]
            simp only [List.length_drop] at this
            simp only [List.length_cons, List.length_tail]
            omega
        · simp at h
      · simp at h
    · simp at h
  · simp at h

theorem length_endStep {opens opens' : List (List Char)} {whole cs rest : List Char}
    {event : Event} (h : endStep opens whole cs = .delivered event opens' rest) :
    rest.length < cs.length := by
  unfold endStep at h
  split at h
  · simp at h
  · rename_i hcut
    have := length_cutTag hcut
    split at h
    · simp at h
    · split at h
      · simp only [Step.delivered.injEq] at h
        rw [← h.2.2]
        exact this
      · simp at h

theorem length_instructionStep {opens opens' : List (List Char)} {whole cs rest : List Char}
    {event : Event} (h : instructionStep opens whole cs = .delivered event opens' rest) :
    rest.length < cs.length := by
  unfold instructionStep at h
  split at h
  · simp at h
  · split at h
    · rename_i hcut
      have := length_cutAt (by simp) hcut
      simp only [Step.delivered.injEq] at h
      rw [← h.2.2]
      exact this
    · simp at h

theorem length_tagStep {opens opens' : List (List Char)} {whole cs rest : List Char}
    {event : Event} (h : tagStep opens whole cs = .delivered event opens' rest) :
    rest.length < cs.length := by
  unfold tagStep at h
  split at h
  · simp at h
  · rename_i hcut
    have := length_cutTag hcut
    split at h <;> simp only [Step.delivered.injEq] at h <;> rw [← h.2.2] <;> exact this

theorem length_next {opens opens' : List (List Char)} {cs rest : List Char} {event : Event}
    (h : next opens cs = .delivered event opens' rest) : rest.length < cs.length := by
  unfold next at h
  split at h
  · simp at h
  · rename_i c cs
    split at h
    · unfold markupStep at h
      split at h
      · have := length_declarationStep h
        simp only [List.length_cons]
        omega
      · have := length_instructionStep h
        simp only [List.length_cons]
        omega
      · have := length_endStep h
        simp only [List.length_cons]
        omega
      · have := length_tagStep h
        simp only [List.length_cons]
        omega
    · split at h
      · split at h
        · rename_i hcut
          have := length_cutReference hcut
          simp only [Step.delivered.injEq] at h
          rw [← h.2.2]
          simp only [List.length_cons]
          omega
        · simp at h
      · simp only [Step.delivered.injEq] at h
        rw [← h.2.2]
        have := (List.dropWhile_suffix isPlain (l := cs)).length_le
        simp only [List.length_cons]
        omega

/-- All events of a text, and the fault that cut them short with the text from it on. -/
structure Events where
  events : List Event
  fault : Option (Fault × List Char)
  deriving DecidableEq, Repr

def eventsFrom (opens : List (List Char)) (cs : List Char) : Events :=
  match _h : next opens cs with
  | .finished => ⟨[], none⟩
  | .refused fault rest => ⟨[], some (fault, rest)⟩
  | .delivered event opens' rest =>
    let later := eventsFrom opens' rest
    ⟨event :: later.events, later.fault⟩
termination_by cs.length
decreasing_by exact length_next _h

def events (cs : List Char) : Events := eventsFrom [] cs

end Strongbox.Xml
