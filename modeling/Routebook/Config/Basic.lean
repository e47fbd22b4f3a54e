import Routebook.Text.Pieces

/-!
# Configuration

The keys that every compiled entry carries, and a suffix that owners' names are shown without.

* `Config` : the settings;
* `Config.shownOwner` : an owner's name as it stands in routes;
* `Config.withEnvironment` : the settings with those of the environment.
-/

namespace Routebook

/-- The settings of a compilation. -/
structure Config where
  /-- the default that holds the owner's name -/
  ownerKey : String := "owner"
  /-- the default that holds the handler's name -/
  handlerKey : String := "handler"
  /-- the constraint that holds the verbs -/
  verbKey : String := "verb"
  /-- the end of owners' names that is not shown -/
  ownerSuffix : Option String := none
deriving DecidableEq, Repr

/-- The environment: the value of each variable that is set. -/
abbrev Environment := String → Option String

namespace Config

def standard : Config := {}

/-- An owner's name without the suffix, unless the suffix is the whole name. -/
def shownOwner (c : Config) (owner : String) : String :=
  match c.ownerSuffix with
  | some suffix =>
    if suffix.isEmpty then owner
    else
      match Text.stripSuffix? suffix.toList owner.toList with
      | some [] | none => owner
      | some stem => String.ofList stem
  | none => owner

/-- The settings with those of the environment; an empty suffix means none. -/
def withEnvironment (env : Environment) (c : Config) : Config where
  ownerKey := (env "WAYMARK_OWNER_KEY").getD c.ownerKey
  handlerKey := (env "WAYMARK_HANDLER_KEY").getD c.handlerKey
  verbKey := (env "WAYMARK_VERB_CONSTRAINT_KEY").getD c.verbKey
  ownerSuffix :=
    match env "WAYMARK_OWNER_SUFFIX" with
    | some "" => none
    | some suffix => some suffix
    | none => c.ownerSuffix

end Config

end Routebook
