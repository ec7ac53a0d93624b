import Switchboard.Argument.Basic

/-!
# Misuse

Values given where something else is needed.  Each case is a place that a host hands a value to,
and what the place does not take.
-/

namespace Switchboard

/-- A value in the wrong place. -/
inductive Misuse where
  | tokensOfNonText
  /-- A value without members has no length. -/
  | lengthOf (kindName : String)
  | caseOf (kindName : String) (letterCase : LetterCase)
  | searchIn (kindName : String)
  /-- A text was searched for a pattern for bytes. -/
  | bytesInText
  | registryConfig
  | dispatcherRegistry
  | installRegistry
  | verbosity
  | logLevel
  | viewName
  | renameCount (count : Nat)
  | renameTarget
  | renameName
  | renameFixed
  | renamerName
  | renamerTarget
  /-- A closed type was to be extended. -/
  | closedType (title : String)
  deriving DecidableEq

/-- The wording of a misuse. -/
def Misuse.message : Misuse → String
  | .tokensOfNonText => "tokenize() argument must be a string"
  | .lengthOf kindName => "object of type '" ++ kindName ++ "' has no len()"
  | .caseOf kindName letterCase =>
      "'" ++ kindName ++ "' object has no attribute '" ++ letterCase.word ++ "'"
  | .searchIn kindName => "expected string or bytes-like object, got '" ++ kindName ++ "'"
  | .bytesInText => "cannot use a bytes pattern on a string-like object"
  | .registryConfig => "registry config must be a config"
  | .dispatcherRegistry => "dispatcher registry must be a registry"
  | .installRegistry => "install() argument must be a registry"
  | .verbosity => "level() argument must be a verbosity or a config"
  | .logLevel => "level must be an integer"
  | .viewName => "mirror() argument must be a string"
  | .renameCount count =>
      "rename takes 1 to 2 arguments but " ++ decimalText count ++ " were given"
  | .renameTarget => "rename() first argument must be callable"
  | .renameName => "rename() second argument must be a string"
  | .renameFixed => "rename() first argument must be a updatable callable"
  | .renamerName => "@rename() argument must be a string"
  | .renamerTarget => "@rename() must be applied to a callable"
  | .closedType title => "type '" ++ title ++ "' is not an acceptable base type"

/-- Whether a type of the given name can be extended; the types of the concrete arguments and of
the unset value cannot. -/
def checkOpen (title : String) : Except Misuse Unit :=
  let closed := "UnsetType" ::
    [ArgumentKind.string, .number, .client, .rest, .group].map ArgumentKind.title
  if closed.contains title then .error (.closedType title) else .ok ()

end Switchboard
