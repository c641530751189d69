import WorldAccess.Entity.Id
import WorldAccess.Failure

/-!
# Configuration

A configuration names the site that is visible from everywhere, the ids that are admins without any
capability, the bound on walks through regions, and checkers to be appended to the chains of
operations. Two settings can be overridden by the environment.

## Main definitions

* `Config`, `Config.isImplicitAdmin`
* `Config.validate` — a configuration the engine can work with
* `Config.override` — the settings of the environment put in
-/

namespace WorldAccess

open Std

/-- The settings of an engine. -/
structure Config where
  globalSite : SiteId := 1
  implicitAdmins : List EntityId := [⟨1, 1⟩, ⟨1, 2⟩]
  maxDepth : Nat := 32
  extraCheckers : ExtTreeMap String (List String) := ∅
deriving DecidableEq

/-- The two settings as the environment gives them. -/
structure Environment where
  globalSite : Option String := none
  maxDepth : Option String := none

namespace Config

/-- The environment variable that overrides the global site. -/
def globalSiteVariable : String := "MUDSEC_GLOBAL_SITE"

/-- The environment variable that overrides the bound on walks. -/
def maxDepthVariable : String := "MUDSEC_MAX_CONTAINER_DEPTH"

/-- Whether an id is an admin by configuration. -/
def isImplicitAdmin (c : Config) (id : EntityId) : Bool := c.implicitAdmins.contains id

/-- Refuses a configuration without a global site or without depth. -/
def validate (c : Config) : Except Failure Config :=
  if c.globalSite = 0 then
    .error ⟨.config, "config_invalid", "global_site_id must be non-zero"⟩
  else if c.maxDepth = 0 then
    .error ⟨.config, "config_invalid", "max_container_depth must be at least 1"⟩
  else .ok c

/-- The failure of a setting of the environment that is no numeral. -/
def badSetting (name value : String) (cause : Text.NumeralError) : Failure :=
  ⟨.config, "config_env", name ++ "='" ++ value ++ "': " ++ cause.message⟩

/-- The value of a setting of the environment, blanks around it dropped, or what stood before. -/
def setting (name : String) (bound : Nat) (given : Option String) (before : Nat) :
    Except Failure Nat :=
  match given with
  | none => .ok before
  | some text =>
    match Text.readNumeral 10 bound (Text.trim text.toList) with
    | .ok n => .ok n
    | .error cause => .error (badSetting name text cause)

/-- The configuration with the settings of the environment put in, if it still is valid. -/
def override (c : Config) (env : Environment) : Except Failure Config := do
  let site ← setting globalSiteVariable Text.max32 env.globalSite c.globalSite.toNat
  let depth ← setting maxDepthVariable Text.max64 env.maxDepth c.maxDepth
  { c with globalSite := site.toUInt32, maxDepth := depth }.validate

end Config

end WorldAccess
