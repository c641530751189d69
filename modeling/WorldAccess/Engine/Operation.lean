import Std.Data.ExtTreeSet
import WorldAccess.Text.Blank

/-!
# Operations, capabilities and votes

What can be asked for, the global privileges behind some of it, and the votes by which a request is
decided. Votes are folded from the left: an *always* vote or a denial settles the matter and the
votes after it are not looked at; an acceptance holds until then; no opinion at all is a denial.

## Main definitions

* `Operation`, `Capability`
* `Vote`, `Vote.foldInto`, `Vote.verdict`, `Vote.consulted`
-/

namespace WorldAccess

open Std

/-- Everything that can be asked for. -/
inductive Operation where
  | getContains
  | getEntityField
  | setEntityField
  | getApplicationProperty
  | setApplicationProperty
  | getApplicationSecurity
  | setApplicationSecurity
  | createApplication
  | deleteApplication
  | createEntity
  | deleteEntity
  | findByNameRelative
  | findCharacterByName
  | convertIdToName
  | useAction
  | transferEntity
  | sendTextRoom
  | sendTextRoomUnrestricted
  | sendTextEntity
  | characterOnline
  | runAsRequester
deriving DecidableEq

namespace Operation

/-- Every operation, as declared. -/
def all : List Operation :=
  [getContains, getEntityField, setEntityField, getApplicationProperty, setApplicationProperty,
    getApplicationSecurity, setApplicationSecurity, createApplication, deleteApplication,
    createEntity, deleteEntity, findByNameRelative, findCharacterByName, convertIdToName,
    useAction, transferEntity, sendTextRoom, sendTextRoomUnrestricted, sendTextEntity,
    characterOnline, runAsRequester]

/-- The word for an operation. -/
def word : Operation → String
  | getContains => "get_contains"
  | getEntityField => "get_entity_field"
  | setEntityField => "set_entity_field"
  | getApplicationProperty => "get_application_property"
  | setApplicationProperty => "set_application_property"
  | getApplicationSecurity => "get_application_security"
  | setApplicationSecurity => "set_application_security"
  | createApplication => "create_application"
  | deleteApplication => "delete_application"
  | createEntity => "create_entity"
  | deleteEntity => "delete_entity"
  | findByNameRelative => "find_by_name_relative"
  | findCharacterByName => "find_character_by_name"
  | convertIdToName => "convert_id_to_name"
  | useAction => "use_action"
  | transferEntity => "transfer_entity"
  | sendTextRoom => "send_text_room"
  | sendTextRoomUnrestricted => "send_text_room_unrestricted"
  | sendTextEntity => "send_text_entity"
  | characterOnline => "character_online"
  | runAsRequester => "run_as_requester"

theorem mem_all (op : Operation) : op ∈ all := by cases op <;> decide

/-- Reads the word for an operation; the error repeats the whole text. -/
def parse (text : String) : Except String Operation :=
  match Text.readWord? all word text with
  | some op => .ok op
  | none => .error ("unknown operation '" ++ text ++ "'")

end Operation

/-- A global privilege. In each site it is backed by one capability entity, whose members hold it.
-/
inductive Capability where
  | admin
  | createPlayer
  | builder
  | sendTextRoomUnrestricted
  | sendTextEntity
  | findByNameAfar
  | anyIdToName
  | characterOnline
  | runAsUser
deriving DecidableEq

namespace Capability

/-- Every capability, as declared. -/
def all : List Capability :=
  [admin, createPlayer, builder, sendTextRoomUnrestricted, sendTextEntity, findByNameAfar,
    anyIdToName, characterOnline, runAsUser]

/-- The number of capabilities. -/
abbrev count : Nat := 9

/-- The place of a capability in the declaration. -/
def index : Capability → Fin count
  | admin => 0
  | createPlayer => 1
  | builder => 2
  | sendTextRoomUnrestricted => 3
  | sendTextEntity => 4
  | findByNameAfar => 5
  | anyIdToName => 6
  | characterOnline => 7
  | runAsUser => 8

/-- The word for a capability. -/
def word : Capability → String
  | admin => "admin"
  | createPlayer => "create_player"
  | builder => "builder"
  | sendTextRoomUnrestricted => "send_text_room_unrestricted"
  | sendTextEntity => "send_text_entity"
  | findByNameAfar => "find_by_name_afar"
  | anyIdToName => "any_id_to_name"
  | characterOnline => "character_online"
  | runAsUser => "run_as_user"

/-- The name of the entity that backs a capability, which is also how the capability is shown. -/
def entityName : Capability → String
  | admin => "ADMIN"
  | createPlayer => "CREATE_PLAYER"
  | builder => "BUILDER"
  | sendTextRoomUnrestricted => "SEND_TEXT_ROOM_UNRESTRICTED"
  | sendTextEntity => "SEND_TEXT_ENTITY"
  | findByNameAfar => "FIND_BY_NAME_AFAR"
  | anyIdToName => "ANY_ID_TO_NAME"
  | characterOnline => "CHARACTER_ONLINE"
  | runAsUser => "RUN_AS_USER"

theorem mem_all (c : Capability) : c ∈ all := by cases c <;> decide

theorem index_injective {a b : Capability} (h : a.index = b.index) : a = b := by
  cases a <;> cases b <;> first | rfl | exact absurd h (by decide)

/-- Capabilities are ordered as declared. -/
instance : Ord Capability := ⟨compareOn Capability.index⟩

instance : TransOrd Capability := inferInstanceAs (TransCmp (compareOn Capability.index))

instance : LawfulEqOrd Capability where
  eq_of_compare {_ _} h := index_injective (LawfulEqOrd.eq_of_compare h)

end Capability

/-- A set of capabilities, listed as declared. -/
abbrev CapabilitySet := ExtTreeSet Capability

/-- The vote of one checker on a request. `skip` is no opinion. -/
inductive Vote where
  | accept
  | acceptAlways
  | deny
  | denyAlways
  | skip
deriving DecidableEq

namespace Vote

/-- Every vote, as declared. -/
def all : List Vote := [accept, acceptAlways, deny, denyAlways, skip]

/-- The word for a vote. -/
def word : Vote → String
  | accept => "accept"
  | acceptAlways => "accept_always"
  | deny => "deny"
  | denyAlways => "deny_always"
  | skip => "skip"

/-- Acceptance or denial. -/
def ofBool (allowed : Bool) : Vote := if allowed then accept else deny

/-- The aggregate after one more vote, and whether it is final. An acceptance only replaces an
aggregate without opinion. -/
def foldInto (vote aggregate : Vote) : Vote × Bool :=
  match vote with
  | accept => (if aggregate = skip then accept else aggregate, false)
  | acceptAlways => (accept, true)
  | deny | denyAlways => (deny, true)
  | skip => (aggregate, false)

/-- Folds votes into an aggregate up to the first that is final, and counts them. -/
def foldAll (aggregate : Vote) : List Vote → Vote × Nat
  | [] => (aggregate, 0)
  | v :: votes =>
    let (aggregate, final) := v.foldInto aggregate
    if final then (aggregate, 1)
    else
      let (aggregate, n) := foldAll aggregate votes
      (aggregate, n + 1)

/-- The verdict on a list of votes. No opinion is a denial. -/
def verdict (votes : List Vote) : Vote :=
  let aggregate := (foldAll skip votes).1
  if aggregate = skip then deny else aggregate

/-- How many of the votes were looked at for the verdict. -/
def consulted (votes : List Vote) : Nat := (foldAll skip votes).2

theorem foldAll_snd_le (aggregate : Vote) (votes : List Vote) :
    (foldAll aggregate votes).2 ≤ votes.length := by
  induction votes generalizing aggregate with
  | nil => simp [foldAll]
  | cons v votes ih =>
    have := ih (v.foldInto aggregate).1
    simp only [foldAll, List.length_cons]
    split
    · simp
    · simpa using this

theorem consulted_le_length (votes : List Vote) : consulted votes ≤ votes.length :=
  foldAll_snd_le skip votes

end Vote

end WorldAccess
