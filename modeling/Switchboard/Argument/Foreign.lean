import Switchboard.Failure

/-!
# Argument — Foreign

Reading a value that is no text.  Only an argument that takes all the rest can accept such a value,
as far as its demands make sense for it.  What a member of a group leaves is a text again, so the
members after it read as ever.
-/

namespace Switchboard

/-- The value as a text rule takes it, or what is wrong about it. -/
def TextRule.acceptForeign (a : Argument) (r : TextRule) (v : Value) :
    Except Failure (Value × List Char) :=
  let reject (reason : Reason) : Except Failure (Value × List Char) :=
    .error (.rejected ⟨a, reason⟩)
  let unlisted := r.words.map fun words => Reason.unlisted v.display words
  match r.letterCase with
  | some letterCase => .error (.misuse (.caseOf v.fullKindName letterCase))
  | none =>
    let checked : Except Failure Unit :=
      match v.size? with
      | none =>
          if r.minimum.isSome || r.maximum.isSome then
            .error (.misuse (.lengthOf v.fullKindName))
          else .ok ()
      | some size =>
        match r.minimum.filter (size < ·), r.maximum.filter (· < size) with
        | some minimum, _ => .error (.rejected ⟨a, .tooShort minimum size⟩)
        | none, some maximum => .error (.rejected ⟨a, .tooLong maximum size⟩)
        | none, none => .ok ()
    match checked, unlisted, r.pattern with
    | .error e, _, _ => .error e
    | .ok _, some reason, _ => reject reason
    | .ok _, none, some _ => .error (.misuse (.searchIn v.fullKindName))
    | .ok _, none, none => .ok (v, [])

namespace Argument

mutual
/-- Reads a value that is no text. -/
def validateForeign : Argument → Value → Except Failure (Value × List Char)
  | .bare _, _ => .error .unusable
  | .string .., _ | .number .., _ => .error (.misuse .tokensOfNonText)
  | .client _, v => .error (.misuse (.searchIn v.fullKindName))
  | .rest label rule, v => rule.acceptForeign (.rest label rule) v
  | .group label combinator members, v =>
      let group := Argument.group label combinator members
      match combinator with
      | .and => validateForeignAll group members v
      | .or => validateForeignAny group members v

/-- Reads members one after the other, the first one from the value. -/
def validateForeignAll (group : Argument) :
    List Argument → Value → Except Failure (Value × List Char)
  | [], _ => .error (.rejected ⟨group, .noMembers group.display⟩)
  | a :: members, v =>
      match validateForeign a v with
      | .error e => .error e
      | .ok (value, left) =>
        match validateAll members (Text.trim left) (Record.put [] a.name value) with
        | .error e => .error e.toFailure
        | .ok (record, left) => .ok (record.toValue, left)

/-- Reads the first member that accepts the value. -/
def validateForeignAny (group : Argument) :
    List Argument → Value → Except Failure (Value × List Char)
  | [], _ => .error (.rejected ⟨group, .noAlternative⟩)
  | a :: members, v =>
      match validateForeign a v with
      | .ok (value, left) => .ok (Record.toValue [(a.name, value)], Text.trim left)
      | .error (.rejected _) => validateForeignAny group members v
      | .error e => .error e
end

/-- Reads a value: from a text as ever. -/
def validateValue (a : Argument) : Value → Except Failure (Value × List Char)
  | .text s => (a.validate s.toList).mapError Refusal.toFailure
  | v =>
    match a with
    | .group label _ [] => .error (.rejected ⟨a, .noMembers label.display⟩)
    | a => validateForeign a v

end Argument

end Switchboard
