import Mathlib.Data.List.TakeWhile
import WorldAccess.Entity.Property
import WorldAccess.Proofs.Engine.Sessions

/-!
# Paths of one application

A path is asked on for the application that it names, and the rest of it does not count. Every path
that names an application can be written with the application's name, a slash and what is inside,
and that form names the same application and has the same inside. It is asked on like the name
alone: all these spellings get one answer, change the session alike and are remembered as one.

## Main definitions

* `Text.IsTrimmed` — a text without blanks at its ends
* `Path.IsName` — the name of an application as paths yield it
* `Session.Uses` — a verdict that is remembered or put there

## Main results

* `Text.isTrimmed_trim` — nothing is left to trim
* `Path.IsName.application?_eq` — a path that begins with a name
* `Path.application_canonical` — the canonical form of a path
-/

namespace WorldAccess

/-! ### Trimmed texts -/

namespace Text

variable {c : Char} {cs : List Char}

/-- A text without blanks at its ends. -/
structure IsTrimmed (cs : List Char) : Prop where
  first : ∀ c ∈ cs.head?, isBlank c = false
  last : ∀ c ∈ cs.getLast?, isBlank c = false

theorem IsTrimmed.trim_eq (h : IsTrimmed cs) : trim cs = cs := by
  rw [trim, trimLeft_of_head h.first, trimRight_of_getLast h.last]

theorem isBlank_of_mem_head?_dropWhile (among : c ∈ (cs.dropWhile isBlank).head?) :
    isBlank c = false := by
  have stopped := List.head?_dropWhile_not isBlank cs
  rw [Option.mem_def.mp among] at stopped
  exact stopped

theorem trim_isPrefix_trimLeft (cs : List Char) : trim cs <+: trimLeft cs := by
  rw [trim, trimRight, ← List.reverse_suffix, List.reverse_reverse]
  exact List.dropWhile_suffix isBlank

/-- Nothing is left to trim. -/
theorem isTrimmed_trim (cs : List Char) : IsTrimmed (trim cs) where
  first c among := by
    obtain ⟨tail, form⟩ := trim_isPrefix_trimLeft cs
    have head : c ∈ (cs.dropWhile isBlank).head? := by
      rw [← trimLeft, ← form, List.head?_append, Option.mem_def.mp among]
      rfl
    exact isBlank_of_mem_head?_dropWhile head
  last c among := by
    rw [trim, trimRight, List.getLast?_reverse] at among
    exact isBlank_of_mem_head?_dropWhile among

theorem mem_of_mem_trim (among : c ∈ trim cs) : c ∈ cs :=
  (List.dropWhile_suffix isBlank).mem ((trim_isPrefix_trimLeft cs).mem among)

end Text

/-! ### The parts of a path -/

namespace Path

open Text

variable {path name : String} {rest : List Char}

/-- A name as paths yield it: not empty, without blanks at its ends and without slashes. -/
structure IsName (name : String) : Prop where
  nonempty : name ≠ ""
  trimmed : IsTrimmed name.toList
  unslashed : '/' ∉ name.toList

theorem application?_eq_some_iff : application? path = some name ↔
    trim ((body path).takeWhile (· != '/')) = name.toList ∧ name ≠ "" := by
  rw [application?]
  generalize trim ((body path).takeWhile (· != '/')) = segment
  split
  next none =>
    obtain rfl := List.isEmpty_iff.mp none
    refine ⟨nofun, fun ⟨same, ne⟩ => absurd (String.toList_eq_nil_iff.mp same.symm) ne⟩
  next some =>
    constructor
    · intro same
      obtain rfl : String.ofList segment = name := Option.some.inj same
      refine ⟨String.toList_ofList.symm, fun empty => some ?_⟩
      rw [List.isEmpty_iff, ← String.toList_ofList (l := segment), empty]
      rfl
    · rintro ⟨rfl, _⟩
      rw [String.ofList_toList]

/-- What a path yields is a name. -/
theorem isName_of_application? (named : application? path = some name) : IsName name := by
  obtain ⟨segment, nonempty⟩ := application?_eq_some_iff.mp named
  refine ⟨nonempty, segment ▸ isTrimmed_trim _, fun slash => ?_⟩
  rw [← segment] at slash
  have other := List.mem_takeWhile_imp (mem_of_mem_trim slash)
  exact absurd other (by decide)

/-- What is inside does not end in a blank. -/
theorem last_inside (path : String) : ∀ c ∈ (inside path).toList.getLast?, isBlank c = false := by
  intro c among
  have part : (inside path).toList <:+ trim path.toList := by
    rw [inside, String.toList_ofList]
    exact (List.drop_suffix _ _).trans ((List.dropWhile_suffix _).trans (List.dropWhile_suffix _))
  obtain ⟨front, form⟩ := part
  refine (isTrimmed_trim path.toList).last c ?_
  rw [← form, List.getLast?_append, Option.mem_def.mp among]
  rfl

theorem IsName.exists_cons (h : IsName name) : ∃ c cs, name.toList = c :: cs ∧ c ≠ '/' := by
  have ne : name.toList ≠ [] := fun none => h.nonempty (String.toList_eq_nil_iff.mp none)
  obtain ⟨c, cs, form⟩ := List.exists_cons_of_ne_nil ne
  refine ⟨c, cs, form, ?_⟩
  rintro rfl
  exact h.unslashed (form ▸ List.mem_cons_self)

/-- Nothing is dropped in front of a name, and nothing behind it unless it ends in blanks. -/
theorem IsName.body_eq (h : IsName name) (form : path.toList = name.toList ++ rest)
    (last : ∀ c ∈ rest.getLast?, isBlank c = false) : body path = name.toList ++ rest := by
  obtain ⟨c, cs, begins, other⟩ := h.exists_cons
  -- it begins as the name does, and ends as what follows does, or as the name if nothing follows
  have trimmed : IsTrimmed (name.toList ++ rest) := by
    refine ⟨fun d among => h.trimmed.first d ?_, fun d among => ?_⟩
    · rw [begins] at among ⊢
      exact among
    · rw [List.getLast?_append, Option.mem_def, Option.or_eq_some_iff] at among
      rcases among with ends | ⟨_, ends⟩
      · exact last d ends
      · exact h.trimmed.last d ends
  rw [body, form, trimmed.trim_eq, begins, List.cons_append, List.dropWhile_cons_of_neg]
  simpa using other

/-- A path that begins with a name and goes on with a slash or not at all names it. -/
theorem IsName.application?_eq (h : IsName name) (form : path.toList = name.toList ++ rest)
    (last : ∀ c ∈ rest.getLast?, isBlank c = false) (stops : rest.takeWhile (· != '/') = []) :
    application? path = some name ∧ (inside path).toList = rest.drop 1 := by
  have unslashed : ∀ c ∈ name.toList, (c != '/') = true := by
    intro c among
    rw [bne_iff_ne]
    rintro rfl
    exact h.unslashed among
  have whole : rest.dropWhile (· != '/') = rest := by
    have parts := List.takeWhile_append_dropWhile (p := (· != '/')) (l := rest)
    rwa [stops, List.nil_append] at parts
  constructor
  · rw [application?_eq_some_iff, h.body_eq form last, List.takeWhile_append_of_pos unslashed,
      stops, List.append_nil]
    exact ⟨h.trimmed.trim_eq, h.nonempty⟩
  · rw [inside, String.toList_ofList, h.body_eq form last, List.dropWhile_append_of_pos unslashed,
      whole]

theorem IsName.application?_self (h : IsName name) : application? name = some name :=
  (h.application?_eq (List.append_nil _).symm nofun rfl).1

/-- A name with a slash and what is inside a path names that application and has that inside. -/
theorem IsName.application?_slash (h : IsName name) (path : String) :
    application? (name ++ "/" ++ inside path) = some name ∧
      inside (name ++ "/" ++ inside path) = inside path := by
  have form : (name ++ "/" ++ inside path).toList = name.toList ++ '/' :: (inside path).toList := by
    rw [String.toList_append, String.toList_append, List.append_assoc]
    rfl
  -- the last character is the slash if nothing is inside
  have last : ∀ c ∈ ('/' :: (inside path).toList).getLast?, isBlank c = false := by
    intro c among
    rw [List.getLast?_cons, Option.mem_def, Option.some.injEq] at among
    cases ends : (inside path).toList.getLast? with
    | none =>
      rw [ends] at among
      exact among ▸ rfl
    | some d =>
      rw [ends] at among
      exact last_inside path c (by rw [ends, ← among]; rfl)
  obtain ⟨named, rest⟩ := h.application?_eq form last rfl
  exact ⟨named, String.toList_inj.mp rest⟩

end Path

/-! ### Asking on a path -/

/-- What a session remembers is used for a question: the verdict is the one that is remembered, or
none is remembered and the verdict is put there. -/
inductive Session.Uses (s s' : Session) (q : Question) (verdict : Vote) : Prop where
  | recalled (hit : s.decisions.lookup? q = some verdict) (same : s' = s)
  | stored (miss : s.decisions.lookup? q = none)
      (put : s'.decisions = s.decisions.store q verdict)

theorem Engine.uses_evaluate (e : Engine) (store : Store) (s : Session) (op : Operation)
    (r : Request) : s.Uses (e.evaluate store s op r).2.1 ⟨op, r.scope⟩
      (e.evaluate store s op r).2.2 := by
  unfold evaluate
  dsimp only
  split
  next verdict hit => exact .recalled hit rfl
  next miss =>
    refine .stored miss ?_
    rw [(e.resolved_populate store s).decisions]

theorem Request.onApplication?_eq {path name : String} (named : Path.application? path = some name)
    (target : Option Entity) :
    onApplication? target path = target.map fun entity => .application entity name := by
  cases target with
  | none => rfl
  | some entity =>
    rw [onApplication?, named]
    rfl

namespace Path

variable {path name : String}

/-- The canonical form of a path. A path that names an application yields a name that is not empty,
has no blanks at its ends and no slash in it. The name is a path that names the same application,
and so is the name with a slash and what is inside, which also has the same inside. On each of these
paths an engine gives the same answer and leaves the same behind, whatever is asked on which entity,
and the verdict is remembered for one and the same question. -/
theorem application_canonical (named : application? path = some name) :
    (name ≠ "" ∧ Text.trim name.toList = name.toList ∧ '/' ∉ name.toList) ∧
      application? name = some name ∧
      application? (name ++ "/" ++ inside path) = some name ∧
      inside (name ++ "/" ++ inside path) = inside path ∧
      ∀ (e : Engine) (store : Store) (s : Session) (op : Operation) (raising : Bool),
        ∀ spelling ∈ [path, name ++ "/" ++ inside path, name],
          (∀ target, e.answer store s op (Request.onApplication? target spelling) raising =
            e.answer store s op (Request.onApplication? target path) raising) ∧
          ∀ entity, ∃ verdict,
            s.Uses (e.answer store s op (Request.onApplication? (some entity) spelling) raising).2.1
              ⟨op, .application entity.id name⟩ verdict := by
  have isName := isName_of_application? named
  obtain ⟨named', inside'⟩ := isName.application?_slash path
  have spelled : ∀ spelling ∈ [path, name ++ "/" ++ inside path, name],
      application? spelling = some name := by
    simp [named, named', isName.application?_self]
  refine ⟨⟨isName.nonempty, isName.trimmed.trim_eq, isName.unslashed⟩, isName.application?_self,
    named', inside', fun e store s op raising spelling among => ?_⟩
  have asked := Request.onApplication?_eq (spelled spelling among)
  refine ⟨fun target => ?_, fun entity => ?_⟩
  · rw [asked, Request.onApplication?_eq named]
  · rw [asked]
    exact ⟨_, e.uses_evaluate store s op (.application entity name)⟩

/-- Blanks and slashes in front, and blanks around the name. -/
theorem application_canonical_padded :
    application? " // mail\u00A0/inbox/ 1 " = some "mail" ∧
      application? "mail/inbox/ 1" = some "mail" ∧ inside "mail/inbox/ 1" = "inbox/ 1" := by
  have named : application? " // mail\u00A0/inbox/ 1 " = some "mail" := by decide +kernel
  have rest : inside " // mail\u00A0/inbox/ 1 " = "inbox/ 1" := by decide +kernel
  obtain ⟨_, _, named', inside', _⟩ := application_canonical named
  rw [rest] at named' inside'
  exact ⟨named, named', inside'⟩

end Path

end WorldAccess
