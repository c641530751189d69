import Mathlib.Tactic.ByContra
import WorldAccess.Proofs.Entity.Refusals
import WorldAccess.World.Command

/-!
# What an edited entity reports

An entity is edited through a handle, stored or retired. When the edits are done, the entity is put
back, and one event tells the fields that were written down, if any were. So what is refused is not
heard of, and the event has the fields of the edits that took effect. Whatever has changed in the
end is among these fields, with one exception: a program's language is set together with its source,
but only the source is written down.

## Main results

* `Store.read?_write` — what is put back is what the handle reads
* `World.perform_edits` — the world after edits
* `World.refusals_traceless` — what is refused, what takes effect, and the event
* `World.changes_reported_iff` — what has changed is told, but for a program's language
* `World.language_unreported` — a language that changes without being told
-/

namespace WorldAccess

open Std

namespace Store

/-- A handle that does not name what is stored under its id reads a retired entity. -/
theorem read?_of_not_live {s : Store} {h : Handle}
    (retired : ¬ s.live[h.id]?.any (·.serial == h.serial) = true) :
    s.read? h = s.retired? h.serial := by
  unfold read?
  split
  next c live =>
    rw [live] at retired
    exact if_neg (by simpa using retired)
  next => rfl

/-- What has been put in the place of an entity is what its handle reads. -/
theorem read?_write {s : Store} {h : Handle} {e : Entity} (read : s.read? h = some e)
    (e' : Entity) : (s.write h e').read? h = some e' := by
  unfold write
  split
  next => simp [read?]
  next retired =>
    rw [read?_of_not_live retired] at read
    obtain ⟨c, found, _⟩ := Option.map_eq_some_iff.mp read
    have serial : c.serial = h.serial := by simpa using List.find?_some found
    -- serial numbers stay as they are, so the same entry is found
    let put (c : Stored) : Stored := if c.serial = h.serial then ⟨h.serial, e'⟩ else c
    have same : ((fun c : Stored => c.serial == h.serial) ∘ put) =
        fun c => c.serial == h.serial := by
      funext c
      by_cases own : c.serial = h.serial <;> simp [put, own]
    calc ({ s with retired := s.retired.map put } : Store).read? h
      _ = ({ s with retired := s.retired.map put } : Store).retired? h.serial :=
        read?_of_not_live retired
      _ = some (put c).entity := by
        rw [retired?, List.find?_map, same, found, Option.map_some, Option.map_some]
      _ = some e' := by simp only [put, if_pos serial]

end Store

namespace Draft

/-- Whoever takes the changes after edits is given all that were written down. -/
theorem answers_takeChanges (d : Draft) (now : Timestamp) (edits : List Edit) :
    (d.run now (edits.map .edit ++ [.takeChanges])).2.getLast? =
      some (.changes (d.afterEdits now edits).changes) := by
  induction edits generalizing d with
  | nil => rfl
  | cons edit rest ih =>
    rw [List.map_cons, List.cons_append, run]
    exact List.getLast?_cons.trans (by rw [ih]; rfl)

end Draft

namespace World

variable {w : World} {h : Handle} {e : Entity}

/-- The world after edits of what a handle reads: the entity is put back, and the bus is given one
event with what was written down, if anything was. -/
theorem perform_edits (read : w.store.read? h = some e) (now : Timestamp) (edits : List Edit) :
    let d := (Draft.ofEntity e).afterEdits now edits
    w.perform (.edit now h (edits.map .edit)) =
      { w with
        store := w.store.write h d.entity
        bus := w.bus.map fun bus =>
          if d.changes.isEmpty then bus
          else bus.enqueue (.event (.updated h.id e.kind d.changes)) } := by
  intro d
  rw [perform, Store.edit, read]
  unfold commit
  congr 2
  funext bus
  exact apply_ite bus.publishAll _ _ _

/-- Take any entity and any edits of it in sequence. An edit that is refused leaves the draft as it
is; what is done with something that is lent out is one of the edits. The version goes up by the
number of edits that take effect, as far as the counter reaches, and what the entity is does not
change. When the entity has been edited through a handle and is put back, the bus is given nothing
if no edit has taken effect, and otherwise one event, which tells the fields of the edits that have.
-/
theorem refusals_traceless (e : Entity) (now : Timestamp) (edits : List Edit) :
    let d := (Draft.ofEntity e).afterEdits now edits
    let taken := (Draft.ofEntity e).effective now edits
    (∀ (d : Draft) (edit : Edit), edit.isRefused (d.apply now edit).2 = true →
        (d.apply now edit).1 = d) ∧
      (∀ (d : Draft) (loan : Draft.Loan), ∃ edit : Edit,
        (d.apply now edit).1 = (d.lend now loan).getD d ∧
          edit.isRefused (d.apply now edit).2 = (d.lend now loan).isNone) ∧
      d.entity.version.toNat = (e.version.toNat + taken.length) % UInt32.size ∧
      d.entity.identity = e.identity ∧
      ∃ told : FieldSet, (∀ f, f ∈ told ↔ ∃ edit ∈ taken, edit.field e.kind = f) ∧
        ∀ (w : World) (h : Handle), w.store.read? h = some e →
          let w' := w.perform (.edit now h (edits.map .edit))
          w'.store.read? h = some d.entity ∧
            w'.bus = w.bus.map fun bus =>
              if taken = [] then bus else bus.enqueue (.event (.updated h.id e.kind told)) := by
  intro d taken
  refine ⟨fun d edit => Draft.apply_of_isRefused, fun d => d.exists_edit_of_lend now,
    Draft.version_afterEdits _ now edits, Draft.identity_run _ now _, d.changes, fun f => ?_,
    fun w h read => ?_⟩
  · have written := Draft.mem_changes_afterEdits (f := f) (Draft.ofEntity e) now edits
    exact written.trans (or_iff_right ExtTreeSet.not_mem_empty)
  · simp only [perform_edits read, Draft.changes_afterEdits_isEmpty_iff]
    exact ⟨Store.read?_write read _, rfl⟩

/-- A program that has been edited as often as the counter reaches. -/
def greeter : Entity := { Entity.fresh .epoch ⟨2, 1⟩ .program "greeter" .none with version := -1 }

/-- Edits of which the second and the third are refused. -/
def flagTwice : List Edit :=
  [.addFlag "loud", .addFlag "loud", .setLock .unlocked, .addAdmin .none]

/-- A world in which the program is stored. -/
def greeterWorld : World := (start true {} []).run [.registerSite 2 "main", .insert greeter]

theorem refusals_traceless_flagTwice :
    greeterWorld.store.read? ⟨⟨2, 1⟩, 0⟩ = some greeter ∧
      ((Draft.ofEntity greeter).afterEdits .epoch flagTwice).entity.version = 1 ∧
      ∃ told : FieldSet, (∀ f, f ∈ told ↔ f = .flags ∨ f = .security) ∧
        (greeterWorld.perform (.edit .epoch ⟨⟨2, 1⟩, 0⟩ (flagTwice.map .edit))).bus =
          greeterWorld.bus.map (·.enqueue (.event (.updated ⟨2, 1⟩ .program told))) := by
  have read : greeterWorld.store.read? ⟨⟨2, 1⟩, 0⟩ = some greeter := rfl
  have taken : (Draft.ofEntity greeter).effective .epoch flagTwice =
      [.addFlag "loud", .addAdmin .none] := rfl
  obtain ⟨_, _, version, _, told, fields, published⟩ :=
    refusals_traceless greeter .epoch flagTwice
  rw [taken] at version
  simp only [taken] at fields published
  refine ⟨read, UInt32.toNat_inj.mp version, told, fun f => ?_, (published _ _ read).2⟩
  rw [fields]
  simp [Edit.field, eq_comm]

/-- Take any entity and any edits of it in sequence, among which is whatever is done with something
that is lent out. Whoever takes the changes then, or hears the event when the entity is put back, is
told all that was written down. There stands every field whose value is another one than before, a
program's language under its source; the version and the time of the last edit are left aside. So
every such field stands there under its own name if and only if the language of the program is the
one from before. -/
theorem changes_reported_iff (e : Entity) (now : Timestamp) (edits : List Edit) :
    let d := (Draft.ofEntity e).afterEdits now edits
    (∀ (d : Draft) (loan : Draft.Loan), ∃ edit : Edit,
        (d.apply now edit).1 = (d.lend now loan).getD d) ∧
      ((Draft.ofEntity e).run now (edits.map .edit ++ [.takeChanges])).2.getLast? =
        some (.changes d.changes) ∧
      (∀ (w : World) (h : Handle), w.store.read? h = some e →
        let w' := w.perform (.edit now h (edits.map .edit))
        w'.store.read? h = some d.entity ∧
          w'.bus = w.bus.map fun bus =>
            if d.changes.isEmpty then bus
            else bus.enqueue (.event (.updated h.id e.kind d.changes))) ∧
      (∀ f : Field, f.isStamp = false → ¬ e.AgreesIn d.entity f → f.writtenAs ∈ d.changes) ∧
      ((∀ f : Field, f.isStamp = false → ¬ e.AgreesIn d.entity f → f ∈ d.changes) ↔
        e.AgreesIn d.entity .programLanguage) := by
  intro d
  have follows : (Draft.ofEntity e).Follows d := Draft.run_follows _ now (by simp)
  -- nothing is taken away in between, so what is not written down has not changed
  have told : ∀ f : Field, f.isStamp = false → ¬ e.AgreesIn d.entity f →
      f.writtenAs ∈ d.changes := by
    intro f stamp changed
    by_contra untold
    exact changed (follows.agrees f stamp untold)
  refine ⟨fun d loan => (d.exists_edit_of_lend now loan).imp fun _ => And.left,
    Draft.answers_takeChanges _ now edits, fun w h read => ?_, told, ?_, ?_⟩
  · simp only [perform_edits read]
    exact ⟨Store.read?_write read _, rfl⟩
  · intro toldAsIs
    by_contra changed
    -- no edit writes the language down
    rcases (Draft.mem_changes_afterEdits _ now edits).mp (toldAsIs _ rfl changed) with
      before | ⟨edit, _, field⟩
    · exact ExtTreeSet.not_mem_empty before
    · exact edit.field_ne_programLanguage _ field
  · intro language f stamp changed
    have other : f ≠ .programLanguage := by
      rintro rfl
      exact changed language
    exact Field.writtenAs_of_ne other ▸ told f stamp changed

theorem changes_reported_iff_greeter :
    let edits := [.setNote "waves", .setScript "" "say(1)"]
    let d := (Draft.ofEntity greeter).afterEdits .epoch edits
    let w' := greeterWorld.perform (.edit .epoch ⟨⟨2, 1⟩, 0⟩ (edits.map .edit))
    w'.store.read? ⟨⟨2, 1⟩, 0⟩ = some d.entity ∧ ¬ greeter.AgreesIn d.entity .programSourceCode ∧
      ∀ f : Field, f.isStamp = false → ¬ greeter.AgreesIn d.entity f → f ∈ d.changes := by
  intro edits d w'
  have read : greeterWorld.store.read? ⟨⟨2, 1⟩, 0⟩ = some greeter := rfl
  obtain ⟨_, _, published, _, complete⟩ := changes_reported_iff greeter .epoch edits
  refine ⟨(published _ _ read).1, fun same => ?_, complete.mpr rfl⟩
  exact absurd (show some "" = some "say(1)" from same) (by decide)

/-- The language of a program is set and not told. -/
theorem language_unreported :
    let d := (Draft.ofEntity greeter).afterEdits .epoch [.setScript "lua" "say(1)"]
    ¬ greeter.AgreesIn d.entity .programLanguage ∧ Field.programLanguage.isStamp = false ∧
      Field.programLanguage ∉ d.changes ∧ d.changes.toList = [.programSourceCode] := by
  refine ⟨fun same => ?_, by decide +kernel⟩
  exact absurd (show some "" = some "lua" from same) (by decide)

end World

end WorldAccess
