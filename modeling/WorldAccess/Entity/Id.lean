import Std.Data.ExtTreeMap
import Std.Data.ExtTreeSet
import WorldAccess.Text.Blank
import WorldAccess.Text.Numeral

/-!
# Entity ids

An entity is named by its site and its number within the site. Zero stands for "none" in either
part, so an id with a zero part names no stored entity.

## Main definitions

* `EntityId`, `EntityId.isValid`, `EntityId.none`
* the order of ids: by site, then by number
* `EntityId.render` and `EntityId.parse` — the text `#site-number`
-/

namespace WorldAccess

open Std

/-- The number of a site. -/
abbrev SiteId := UInt32

/-- A site and a number within it. -/
structure EntityId where
  site : SiteId
  number : UInt64
deriving DecidableEq

namespace EntityId

/-- The id that names nothing. -/
def none : EntityId := ⟨0, 0⟩

instance : Inhabited EntityId := ⟨none⟩

/-- Whether both parts are the zero that stands for "none". -/
def isNone (id : EntityId) : Bool := id.site == 0 && id.number == 0

/-- Whether the id may name a stored entity. -/
def isValid (id : EntityId) : Bool := id.site != 0 && id.number != 0

/-- Ids are ordered by site, then by number. -/
instance : Ord EntityId := ⟨compareLex (compareOn EntityId.site) (compareOn EntityId.number)⟩

instance : TransOrd EntityId :=
  inferInstanceAs (TransCmp (compareLex (compareOn EntityId.site) (compareOn EntityId.number)))

instance : LawfulEqOrd EntityId where
  eq_of_compare {a b} h := by
    have parts : compare a.site b.site = .eq ∧ compare a.number b.number = .eq :=
      Ordering.then_eq_eq.1 h
    cases a; cases b
    simp only [mk.injEq]
    exact ⟨LawfulEqOrd.eq_of_compare parts.1, LawfulEqOrd.eq_of_compare parts.2⟩

/-- The text of an id: `#`, the site, `-`, the number. -/
def render (id : EntityId) : String :=
  String.ofList ('#' :: (Text.decimal id.site.toNat ++ '-' :: Text.decimal id.number.toNat))

/-- Why a text is not an id. Each cause keeps the whole text. -/
inductive ParseError where
  | malformed (text : String)
  | badSite (text : String) (cause : Text.NumeralError)
  | badNumber (text : String) (cause : Text.NumeralError)
deriving DecidableEq

/-- The wording of an id error. -/
def ParseError.message : ParseError → String
  | .malformed text => "malformed entity id '" ++ text ++ "'"
  | .badSite text cause => "bad site in '" ++ text ++ "': " ++ cause.message
  | .badNumber text cause => "bad entity number in '" ++ text ++ "': " ++ cause.message

/-- Reads `site-number`. Blanks around the text and around each part are dropped, and so are the
`#` signs in front. -/
def parse (text : String) : Except ParseError EntityId :=
  match Text.splitFirst '-' ((Text.trim text.toList).dropWhile (· == '#')) with
  | Option.none => .error (.malformed text)
  | some (sitePart, numberPart) =>
    match Text.readUInt32 (Text.trim sitePart) with
    | .error e => .error (.badSite text e)
    | .ok site =>
      match Text.readUInt64 (Text.trim numberPart) with
      | .error e => .error (.badNumber text e)
      | .ok number => .ok ⟨site, number⟩

end EntityId

/-- A finite set of ids, listed in their order. -/
abbrev IdSet := ExtTreeSet EntityId

/-- A finite set of texts, listed in code-point order. -/
abbrev TextSet := ExtTreeSet String

end WorldAccess
