import WorldAccess.Text.Blank
import WorldAccess.Text.Numeral

/-!
# Rights

A set of rights has eight bits, four of which have names. The others can be set too and are kept.

## Main definitions

* `Rights` with `read`, `write`, `basic`, `chown` and `includes`
* `Rights.parse?`, `Rights.render` — names and hexadecimal bits joined by `|`
* `BasicRule`, `Rights.grant` — whether the reduced right BASIC may stand in for the one asked for
-/

namespace WorldAccess

/-- A set of rights. -/
structure Rights where
  bits : UInt8
deriving DecidableEq

namespace Rights

/-- No right at all. -/
def empty : Rights := ⟨0⟩

instance : Inhabited Rights := ⟨empty⟩

/-- Seeing. -/
def read : Rights := ⟨1⟩

/-- Changing. -/
def write : Rights := ⟨2⟩

/-- The reduced visibility of nearby entities. -/
def basic : Rights := ⟨4⟩

/-- Giving away. -/
def chown : Rights := ⟨8⟩

/-- The rights that have a name, with it, in the order of their bits. -/
def named : List (String × Rights) :=
  [("READ", read), ("WRITE", write), ("BASIC", basic), ("CHOWN", chown)]

/-- The rights in one set or the other. -/
def union (r s : Rights) : Rights := ⟨r.bits ||| s.bits⟩

/-- The rights of `r` that are not in `s`. -/
def without (r s : Rights) : Rights := ⟨r.bits &&& ~~~s.bits⟩

/-- Whether every right of `wanted` is in `r`. -/
def includes (r wanted : Rights) : Bool := r.bits &&& wanted.bits == wanted.bits

/-- Whether the set has no right. -/
def isEmpty (r : Rights) : Bool := r.bits == 0

/-- The four named rights together. -/
def allNamed : Rights := (named.map Prod.snd).foldl union empty

/-- One part of a written set: a name, or `0x` and the bits in hexadecimal. -/
def readPart? : List Char → Option Rights
  | '0' :: 'x' :: digits =>
    match Text.readNumeral 16 255 digits with
    | .ok n => some ⟨n.toUInt8⟩
    | .error _ => none
  | part => (named.find? fun entry => entry.1.toList == part).map Prod.snd

/-- Reads parts joined by `|`, blanks around each part dropped. A blank text is the empty set. -/
def parse? (text : String) : Option Rights :=
  if (Text.trim text.toList).isEmpty then some empty
  else (Text.splitAll '|' text.toList).foldlM
    (fun r part => (readPart? (Text.trim part)).map r.union) empty

/-- The names of the set's rights in the order of their bits, then the bits without a name as
lower-case hexadecimal, joined by ` | `. -/
def render (r : Rights) : String :=
  let names := (named.filter fun entry => r.includes entry.2).map Prod.fst
  let rest := r.without allNamed
  let parts := if rest.isEmpty then names
    else names ++ ["0x" ++ String.ofList (Nat.toDigits 16 rest.bits.toNat)]
  " | ".intercalate parts

end Rights

/-- Whether the right BASIC counts as the right that is asked for. -/
inductive BasicRule where
  | counts
  | ignored
deriving DecidableEq

/-- Whether `granted` gives `wanted`, itself or through BASIC where the rule lets it. -/
def Rights.grant (granted wanted : Rights) (rule : BasicRule) : Bool :=
  granted.includes wanted || (rule == .counts && granted.includes .basic)

end WorldAccess
