import Strongbox.Proofs.Command.Storing
import Strongbox.Proofs.StoreDocument.RoundTrip
/-! What a program reads that asks for a secret in JSON: an object with the fields of the secret and no
others. -/
namespace Strongbox

namespace SortedMap

variable {α : Type} {fields : List (String × α)}

theorem lookup_of_notMem {key : String} (h : key ∉ fields.map (·.1)) : lookup key fields = none := by
  induction fields with
  | nil => rfl
  | cons p later ih =>
      rw [List.map_cons, List.mem_cons, not_or] at h
      rw [lookup, if_neg h.1, ih h.2]

/-- Bindings of different keys are all there after they were put in, beside those of before. -/
theorem get?_foldl_insert (h : (fields.map (·.1)).Nodup) (m : SortedMap α) (key : String) :
    (fields.foldl (fun n p => n.insert p.1 p.2) m).get? key = (lookup key fields).or (m.get? key) := by
  induction fields generalizing m with
  | nil => rfl
  | cons p later ih =>
      obtain ⟨name, a⟩ := p
      rw [List.map_cons, List.nodup_cons] at h
      obtain ⟨hnew, hlater⟩ := h
      rw [List.foldl_cons, ih hlater, get?_insert, lookup]
      by_cases hkey : key = name
      · rw [if_pos hkey, if_pos hkey, lookup_of_notMem (hkey ▸ hnew)]
        rfl
      · rw [if_neg hkey, if_neg hkey]

end SortedMap

namespace Command

open Json
open Text (openBrace closeBrace)
open StoreDocument (readObject readBlob)

/-- What is told of a secret that is shown in full. -/
def fieldsOf (key : String) : Secret → List (String × String)
  | .credential c =>
    [("kind", "credential"), ("key", key), ("username", c.username), ("password", c.password)]
  | .token t =>
    [("kind", "token"), ("key", key), ("token_type", t.display), ("value", t.value)] ++
      if t.hasTarget then [("target_identity", t.target.toText)] else []
  | .tokenPair p =>
    [("kind", "token_pair"), ("key", key), ("access_token", p.access.value),
     ("refresh_token", p.refresh.value)]

theorem nodup_fieldsOf (key : String) (s : Secret) : ((fieldsOf key s).map (·.1)).Nodup := by
  cases s with
  | credential c => simp [fieldsOf]
  | token t => cases htarget : t.hasTarget <;> simp [fieldsOf, htarget]
  | tokenPair p => simp [fieldsOf]

def renderTexts (fields : List (String × String)) : String :=
  renderJson (fields.map fun p => (p.1, .text p.2))

theorem renderSecret_json (key : String) (s : Secret) :
    renderSecret .json true key s = renderTexts (fieldsOf key s) := by
  cases s with
  | credential c =>
      simp only [renderSecret, renderTexts, secretLines, fieldsOf, shown, Secret.kind, kindTag, if_true,
        List.map_cons, List.map_nil]
  | token t =>
      cases htarget : t.hasTarget with
      | true =>
          simp only [renderSecret, renderTexts, secretLines, fieldsOf, shown, Secret.kind, kindTag, if_true,
            htarget, List.map_cons, List.map_nil, List.cons_append, List.nil_append]
      | false =>
          simp only [renderSecret, renderTexts, secretLines, fieldsOf, shown, Secret.kind, kindTag, if_true,
            htarget, List.map_cons, List.map_nil, List.append_nil, Bool.false_eq_true, if_false]
  | tokenPair p =>
      simp only [renderSecret, renderTexts, secretLines, fieldsOf, shown, Secret.kind, kindTag, if_true,
        List.map_cons, List.map_nil]

/-- An object of texts is read off the front of what is printed, up to the line end after it. -/
theorem readObject_renderTexts {fields : List (String × String)} (hne : fields ≠ []) :
    readObject readBlob (renderTexts fields).toList =
      some (fields.foldl (fun m p => m.insert p.1 p.2) .empty, ['\n']) := by
  have hchars : (renderTexts fields).toList = openBrace :: '\n' ::
      (fieldLines 1 (fields.map fun p => (p.1, quote p.2)) ++ (indent 0 ++ closeBrace :: ['\n'])) := by
    simp [renderTexts, renderJson, objectAt, Field.render, Function.comp_def, hne]
  have hspace : ∀ cs, readObject readBlob (openBrace :: cs) =
      readObject readBlob (' ' :: openBrace :: cs) := by
    intro cs
    rw [readObject, readObject, skipSpace_cons_space (show isSpace ' ' = true from rfl)]
  have hname : ∃ cs, skipSpace ('\n' :: (fieldLines 1 (fields.map fun p => (p.1, quote p.2)) ++
      (indent 0 ++ closeBrace :: ['\n']))) = '"' :: cs := by
    obtain ⟨p, later, rfl⟩ := List.exists_cons_of_ne_nil hne
    exact skipSpace_fieldLines _ _ _ _
  obtain ⟨cs, hcs⟩ := hname
  have hlen := length_le_fieldLines 1 (fields.map fun p => (p.1, quote p.2))
  rw [hchars, hspace, StoreDocument.readObject_fields hcs,
    StoreDocument.readFields_fieldLines StoreDocument.readBlob_quote 0 1 ['\n'] hne]
  simp only [List.length_cons, List.length_append, List.length_map] at hlen ⊢
  omega

/-- Whoever reads what is printed of a secret finds its fields, each under its name, and nothing else. -/
theorem read_renderSecret (key : String) (s : Secret) :
    ∃ m, readObject readBlob (renderSecret .json true key s).toList = some (m, ['\n']) ∧
      ∀ name, m.get? name = SortedMap.lookup name (fieldsOf key s) := by
  have hne : fieldsOf key s ≠ [] := by
    cases s <;> simp [fieldsOf]
  refine ⟨(fieldsOf key s).foldl (fun m p => m.insert p.1 p.2) .empty, ?_, ?_⟩
  · rw [renderSecret_json, readObject_renderTexts hne]
  · intro name
    rw [SortedMap.get?_foldl_insert (nodup_fieldsOf key s), SortedMap.get?_empty, Option.or_none]

/-- What is told of a proposal once it is stored: what was given, a type under its full name, and an
identity only if there is one. -/
def Proposal.fields (key : String) : Proposal → List (String × String)
  | credential username password =>
    [("kind", "credential"), ("key", key), ("username", username), ("password", password.getD "")]
  | token typeName value target =>
    [("kind", "token"), ("key", key),
     ("token_type", ((TokenType.ofFriendlyName typeName).toOption.map TokenType.friendlyName).getD ""),
     ("value", value.getD "")] ++
      let identity := target.getD Uuid.nil
      if identity.isNil then [] else [("target_identity", identity.toText)]
  | tokenPair access refresh =>
    [("kind", "token_pair"), ("key", key), ("access_token", access.getD ""),
     ("refresh_token", refresh.getD "")]

theorem Proposal.fieldsOf_check {proposal : Proposal} {s : Secret} (h : proposal.check = .ok s)
    (key : String) : fieldsOf key s = proposal.fields key := by
  cases makes_of_check h with
  | credential username password => rfl
  | @token typeName target t htype htarget =>
      cases hnil : t.target.isNil <;>
        simp [fieldsOf, fields, htype, Token.hasTarget, Token.display, ← htarget, hnil, Except.toOption]
  | tokenPair hbare => rfl

/-- A pair that is proposed has no parameters, so all of a secret is stored. -/
theorem Proposal.persisted_check {proposal : Proposal} {s : Secret} (h : proposal.check = .ok s) :
    s.persisted = s := by
  cases makes_of_check h with
  | credential username password => rfl
  | token htype htarget => rfl
  | @tokenPair p hbare =>
      have hmake : TokenPair.make p.access.value p.refresh.value = .ok p :=
        TokenPair.make_eq_ok.2 ⟨rfl, rfl, hbare⟩
      have hsame : p = p.persisted := Except.ok.inj (hmake.symm.trans p.make_values)
      exact congrArg Secret.tokenPair hsame.symm

end Command
end Strongbox
