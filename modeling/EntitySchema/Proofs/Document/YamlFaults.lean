import EntitySchema.Document.Yaml
import EntitySchema.Proofs.Document.Yaml.NodeFaults
import EntitySchema.Proofs.Document.Yaml.TokenFaults
import EntitySchema.Proofs.Document.Yaml.ValueFaults

namespace EntitySchema.Document.Yaml

/-- What in the characters of a text leads to a fault. -/
inductive Fault.Origin (chars : List Char) : Fault → Prop where
  | codePoint {code : Nat} (written : HasLongEscape chars code) (beyond : 0x10FFFF < code)
      (narrow : code ≤ 0x7FFFFFFF) : Origin chars .codePoint
  | wideCodePoint {code : Nat} (written : HasLongEscape chars code) (wide : 0x7FFFFFFF < code) :
      Origin chars .wideCodePoint
  | version {digits : Nat} (written : HasLongVersion chars digits) : Origin chars (.longInteger digits)
  | nesting {front : List Token} (within : front <+: (Token.scan chars).1)
      (deep : (nestingLimit : Int) ≤ 2 * unclosed front) : Origin chars .nesting
  | value {graph : NodeGraph} {fault : Fault}
      (isGraph : NodeGraph.ofTokens (Token.scan chars).1 (Token.scan chars).2 = .ok (some graph))
      (unread : fault.InValues graph.nodes) : Origin chars fault

/-- The fault of a text that has no value although it is not malformed. -/
def unread? (text : String) : Option Fault :=
  match read text with
  | .ok _ | .error .malformed => none
  | .error fault => some fault

theorem unread?_eq_some_iff {text : String} {fault : Fault} :
    unread? text = some fault ↔ read text = .error fault ∧ fault ≠ .malformed := by
  unfold unread?
  split
  · rename_i value isValue
    simp [isValue]
  · rename_i isMalformed
    rw [isMalformed]
    exact ⟨nofun, fun ⟨same, formed⟩ => absurd (Except.error.inj same).symm formed⟩
  · rename_i other formed failed
    rw [failed]
    constructor
    · rintro ⟨⟩
      exact ⟨rfl, formed⟩
    · rintro ⟨⟨⟩, -⟩
      rfl

theorem origin_of_read {text : String} {fault : Fault} (failed : read text = .error fault) :
    fault = .malformed ∨ ∃ chars, Text.characters? text = some chars ∧ fault.Origin chars := by
  unfold read at failed
  split at failed
  · cases failed
    exact .inl rfl
  · rename_i chars areChars
    split at failed
    · cases failed
      exact .inl rfl
    · split at failed
      rename_i tokens ended scanned
      have areTokens : (Token.scan chars).1 = tokens := congrArg Prod.fst scanned
      have isEnded : (Token.scan chars).2 = ended := congrArg Prod.snd scanned
      rcases bind_eq_error_iff.mp failed with noNodes | ⟨graph?, isGraph, failed⟩
      · rcases inNodes_of_ofTokens noNodes with isMalformed | ⟨rfl, front, within, deep⟩ | stopped
        · exact .inl isMalformed
        · exact .inr ⟨chars, areChars, .nesting (areTokens ▸ within) deep⟩
        · have inTokens := Token.inTokens_of_scan (isEnded.trans stopped)
          cases fault with
          | malformed => exact .inl rfl
          | codePoint =>
            obtain ⟨code, written, beyond, narrow⟩ := inTokens
            exact .inr ⟨chars, areChars, .codePoint written beyond narrow⟩
          | wideCodePoint =>
            obtain ⟨code, written, wide⟩ := inTokens
            exact .inr ⟨chars, areChars, .wideCodePoint written wide⟩
          | longInteger digits => exact .inr ⟨chars, areChars, .version inTokens⟩
          | _ => exact inTokens.elim
      · split at failed
        · cases failed
        · rename_i graph
          rcases bind_eq_error_iff.mp failed with noParts | ⟨parts, _, failed⟩
          · rw [← areTokens, ← isEnded] at isGraph
            exact .inr ⟨chars, areChars, .value isGraph (inValues_of_parts noParts)⟩
          · cases failed

/-- In a text that has no value although it is not malformed, an escape, a collection or a scalar has
none. -/
theorem origin_of_unread? {text : String} {fault : Fault} (isUnread : unread? text = some fault) :
    ∃ chars, Text.characters? text = some chars ∧ fault.Origin chars := by
  obtain ⟨failed, formed⟩ := unread?_eq_some_iff.mp isUnread
  exact (origin_of_read failed).resolve_left formed

end EntitySchema.Document.Yaml
