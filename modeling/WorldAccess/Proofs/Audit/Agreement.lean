import WorldAccess.Proofs.Audit.Verdicts
import WorldAccess.Proofs.Engine.Sessions

/-!
# The audit's verdict and its status

The audit prints a verdict only if it has judged the question, and everything that goes wrong before
ends with another status than a verdict does. Where a verdict is printed, it agrees with the status
it ends with, up to two lapses of the text form, both in questions about an application. A path that
names no application is refused without a violation, and that is printed as permission. And a
violation quotes the application's name as it was given, so that one with a line break can print a
line of permission below the refusal.

## Main definitions

* `Undenied` — what can go wrong is no denial
* `Audit.Arguments.path?` — the path of an application that is asked about
* `Audit.Report.Agrees` — what is printed agrees with the status
* `Audit.Lapses` — the text of a verdict says something else than the verdict

## Main results

* `Audit.undenied_judge` — what goes wrong before a verdict is no denial
* `Audit.answer_of_judge` — what a verdict is
* `Audit.report_agrees_iff` — when the two agree
-/

namespace WorldAccess

/-! ### Failures before a verdict -/

/-- Whether what can go wrong in a computation is no denial. -/
def Undenied {α : Type} (x : Except Failure α) : Prop := ∀ f, x = .error f → f.kind ≠ .denied

section Undenied

variable {α β : Type}

theorem undenied_ok (a : α) : Undenied (.ok a : Except Failure α) := by
  intro f h
  cases h

theorem undenied_error {f : Failure} (h : f.kind ≠ .denied) :
    Undenied (.error f : Except Failure α) := by
  rintro f' ⟨⟩
  exact h

theorem Undenied.bind {x : Except Failure α} {g : α → Except Failure β} (hx : Undenied x)
    (hg : ∀ a, Undenied (g a)) : Undenied (x >>= g) := by
  cases x with
  | ok a => exact hg a
  | error f => exact undenied_error (hx f rfl)

theorem Undenied.map {x : Except Failure α} (hx : Undenied x) (g : α → β) :
    Undenied (x.map g) := by
  cases x with
  | ok a => exact undenied_ok (g a)
  | error f => exact undenied_error (hx f rfl)

/-- A computation that goes well has gone well in its first part. -/
theorem exists_of_bind_eq_ok {x : Except Failure α} {g : α → Except Failure β} {b : β}
    (h : (x >>= g) = .ok b) : ∃ a, x = .ok a ∧ g a = .ok b := by
  cases x with
  | ok a => exact ⟨a, rfl, h⟩
  | error f => cases h

end Undenied

theorem FailureKind.exitStatus_ne {k : FailureKind} (h : k ≠ .denied) :
    k.exitStatus ≠ 0 ∧ k.exitStatus ≠ 4 := by
  cases k <;> simp_all [exitStatus]

namespace Config

theorem undenied_validate (c : Config) : Undenied c.validate := by
  unfold validate
  split
  · exact undenied_error (by decide)
  · split
    · exact undenied_error (by decide)
    · exact undenied_ok c

theorem undenied_load (file : FileContent) : Undenied (load file) := by
  unfold load
  split
  · exact undenied_validate {}
  · exact undenied_error (by decide)
  · exact undenied_error (by decide)
  · split
    · exact undenied_validate _
    · exact undenied_error (by decide)

theorem undenied_setting (name : String) (bound : Nat) (given : Option String) (before : Nat) :
    Undenied (setting name bound given before) := by
  unfold setting
  split
  · exact undenied_ok before
  · split
    · exact undenied_ok _
    · exact undenied_error (by simp [badSetting])

theorem undenied_override (c : Config) (env : Environment) : Undenied (c.override env) :=
  (undenied_setting _ _ _ _).bind fun _ => (undenied_setting _ _ _ _).bind fun _ =>
    undenied_validate _

end Config

namespace Store

theorem undenied_insert (s : Store) (e : Entity) : Undenied (s.insert e).result := by
  unfold insert
  split
  · exact undenied_error (by simp [invalidId])
  · split
    · exact undenied_error (by simp [siteNotFound])
    · dsimp only
      split
      · exact undenied_error (by simp [idTaken])
      · exact undenied_ok _

theorem undenied_loadEntities (s : Store) (entities : List Entity) :
    Undenied (s.loadEntities entities).result := by
  induction entities generalizing s with
  | nil => exact undenied_ok 0
  | cons e rest ih =>
    unfold loadEntities
    split
    · dsimp only
      split
      next f failed => exact undenied_error (s.undenied_insert e f failed)
      next => exact (ih _).map _
    · exact ih s

theorem undenied_loadText (s : Store) (now : Timestamp) (text : String) :
    Undenied (s.loadText now text).result := by
  unfold loadText
  split
  · exact undenied_loadEntities _ _
  · exact undenied_error (by decide)

end Store

theorem FileContent.undenied_read (file : FileContent) : Undenied file.read := by
  cases file with
  | text content => exact undenied_ok content
  | absent | directory | bytes => exact undenied_error (by decide)

namespace Audit

variable {a : Arguments} {store : Store} {op : Operation}

namespace Arguments

theorem undenied_readId (flag value : String) : Undenied (readId flag value) := by
  unfold readId
  cases EntityId.parse value with
  | ok id => exact undenied_ok id
  | error e => exact undenied_error (by simp [badValue])

theorem undenied_set (a : Arguments) (setting : Setting) (flag value : String) :
    Undenied (a.set setting flag value) := by
  cases setting with
  | world | config | application => exact undenied_ok _
  | requester | program | target | source => exact (undenied_readId flag value).map _
  | operation | field | kind =>
    unfold set
    dsimp only
    split
    · exact undenied_ok _
    · exact undenied_error (by simp [badValue])

theorem undenied_parseOnto (a : Arguments) (args : List String) :
    Undenied (a.parseOnto args) := by
  fun_induction parseOnto a args with
  | case1 | case2 => exact undenied_ok _
  | case3 => exact undenied_error (by simp [missingValue])
  | case4 | case7 => exact undenied_error (by simp [unknownFlag])
  | case5 _ _ _ _ _ _ ih => exact ih
  | case6 a flag value rest setting _ ih =>
    exact (a.undenied_set setting flag value).bind ih

/-- The path of an application that is asked about. A kind and a second entity come before it. -/
def path? (a : Arguments) : Option String :=
  if a.kind.isNone && a.source.isNone then a.application else none

end Arguments

theorem undenied_required {α : Type} (value : Option α) (code message : String) :
    Undenied (required value code message) := by
  cases value with
  | some v => exact undenied_ok v
  | none => exact undenied_error (by simp)

theorem undenied_lookUp (store : Store) (op : Operation) (id : Option EntityId) (flag : String) :
    Undenied (lookUp store op id flag) := by
  refine (undenied_required _ _ _).bind fun id => ?_
  split
  · exact undenied_ok _
  · exact undenied_error (by simp)

theorem undenied_request (a : Arguments) (store : Store) (op : Operation) :
    Undenied (request a store op) := by
  unfold request
  split
  · exact undenied_ok _
  · exact (undenied_lookUp _ _ _ _).bind fun _ => (undenied_lookUp _ _ _ _).bind fun _ =>
      undenied_ok _
  · exact (undenied_lookUp _ _ _ _).bind fun _ => undenied_ok _
  · exact (undenied_lookUp _ _ _ _).bind fun _ => undenied_ok _
  · exact (undenied_lookUp _ _ _ _).bind fun _ => undenied_ok _
  · exact undenied_ok _

theorem undenied_configure (a : Arguments) (files : String → FileContent) (env : Environment) :
    Undenied (configure a files env) := by
  unfold configure
  dsimp only
  split
  · exact (Config.undenied_load _).bind fun config => config.undenied_override env
  · exact Config.undenied_override {} env

/-- What goes wrong before a verdict is no denial. -/
theorem undenied_judge (a : Arguments) (files : String → FileContent) (env : Environment)
    (now : Timestamp) : Undenied (judge a files env now) := by
  refine (undenied_required _ _ _).bind fun path => (undenied_required _ _ _).bind fun requester =>
    (undenied_required _ _ _).bind fun op => (undenied_configure a files env).bind fun config =>
    (files path).undenied_read.bind fun text => (Store.undenied_loadText _ _ _).bind fun _ => ?_
  exact (undenied_request a _ op).bind fun request => undenied_ok _

/-! ### Questions about an application -/

/-- A question about an application is one about a stored entity, if the path names one. -/
theorem request_of_path {r : Option Request} {path : String} (asked : a.path? = some path)
    (h : request a store op = .ok r) : ∃ e, r = Request.onApplication? (some e) path := by
  unfold Arguments.path? at asked
  split at asked
  next alone =>
    rw [Bool.and_eq_true, Option.isNone_iff_eq_none, Option.isNone_iff_eq_none] at alone
    unfold request at h
    rw [alone.1, alone.2, asked] at h
    obtain ⟨target, _, h⟩ := exists_of_bind_eq_ok h
    exact ⟨target, (Except.ok.inj h).symm⟩
  next => cases asked

/-- What else is asked for is a request, and not about an application. -/
theorem request_of_no_path {r : Option Request} (asked : a.path? = none)
    (h : request a store op = .ok r) : ∃ q, r = some q ∧ ∀ e name, q ≠ .application e name := by
  unfold request at h
  split at h
  next kind _ =>
    exact ⟨.kind kind, (Except.ok.inj h).symm, fun _ _ => nofun⟩
  next =>
    obtain ⟨target, _, h⟩ := exists_of_bind_eq_ok h
    obtain ⟨source, _, h⟩ := exists_of_bind_eq_ok h
    exact ⟨.transfer target source, (Except.ok.inj h).symm, fun _ _ => nofun⟩
  next path kind source application =>
    rw [Arguments.path?, kind, source, application] at asked
    cases asked
  next field _ _ _ _ =>
    obtain ⟨target, _, h⟩ := exists_of_bind_eq_ok h
    exact ⟨.field target field, (Except.ok.inj h).symm, fun _ _ => nofun⟩
  next =>
    obtain ⟨target, _, h⟩ := exists_of_bind_eq_ok h
    exact ⟨.target target, (Except.ok.inj h).symm, fun _ _ => nofun⟩
  next => exact ⟨.global, (Except.ok.inj h).symm, fun _ _ => nofun⟩

/-- Only a question about an application is refused with one. -/
theorem application_ofQuestion (s : Session) {q : Request} (h : ∀ e name, q ≠ .application e name) :
    (Refusal.ofQuestion s ⟨op, q.scope⟩).application = none := by
  cases q with
  | application e name => exact absurd rfl (h e name)
  | global | kind | target | field | transfer => rfl

/-! ### Verdicts -/

/-- A verdict is the engine's answer to the request of the arguments. -/
theorem exists_answer_of_judge {files : String → FileContent} {env : Environment}
    {now : Timestamp} {v : Verdict} (h : judge a files env now = .ok v) :
    ∃ (e : Engine) (store : Store) (s : Session) (op : Operation) (r : Option Request),
      request a store op = .ok r ∧ v.answer = (e.answer store s op r true).2.2 := by
  obtain ⟨path, _, h⟩ := exists_of_bind_eq_ok h
  obtain ⟨requester, _, h⟩ := exists_of_bind_eq_ok h
  obtain ⟨op, _, h⟩ := exists_of_bind_eq_ok h
  obtain ⟨config, _, h⟩ := exists_of_bind_eq_ok h
  obtain ⟨text, _, h⟩ := exists_of_bind_eq_ok h
  obtain ⟨_, _, h⟩ := exists_of_bind_eq_ok h
  obtain ⟨r, asked, h⟩ := exists_of_bind_eq_ok h
  dsimp only at h
  have verdict := Except.ok.inj h
  exact ⟨_, _, _, op, r, asked, congrArg Verdict.answer verdict.symm⟩

/-- A raised answer is permission or the refusal of the question. -/
theorem raised_answer (e : Engine) (store : Store) (s : Session) (op : Operation) (q : Request) :
    (e.answer store s op (some q) true).2.2 = .ok true ∨
      (e.answer store s op (some q) true).2.2 = .error (.ofQuestion s ⟨op, q.scope⟩) := by
  rw [e.answer_some, Session.ruling]
  split
  · exact Or.inl rfl
  · exact Or.inr rfl

variable {files : String → FileContent} {env : Environment} {now : Timestamp} {v : Verdict}

/-- A path that names no application is refused without a violation. Otherwise the verdict is
permission or a violation, which quotes the application that the path names. -/
theorem answer_of_judge (h : judge a files env now = .ok v) :
    (∃ path, a.path? = some path ∧ Path.application? path = none ∧ v.answer = .ok false) ∨
      (∀ path, a.path? = some path → Path.application? path ≠ none) ∧
        (v.answer = .ok true ∨
          ∃ r, v.answer = .error r ∧ r.application = a.path?.bind Path.application?) := by
  obtain ⟨e, store, s, op, r, asked, answer⟩ := exists_answer_of_judge h
  -- whether the question is about an application is settled by the arguments alone
  cases about : a.path? with
  | none =>
    obtain ⟨q, rfl, other⟩ := request_of_no_path about asked
    refine Or.inr ⟨nofun, ?_⟩
    rw [answer]
    exact (raised_answer e store s op q).imp_right fun refused =>
      ⟨_, refused, application_ofQuestion s other⟩
  | some path =>
    obtain ⟨target, rfl⟩ := request_of_path about asked
    cases named : Path.application? path with
    | none =>
      have unasked : Request.onApplication? (some target) path = none := by
        simp [Request.onApplication?, named]
      rw [unasked] at answer
      exact Or.inl ⟨path, rfl, named, answer⟩
    | some name =>
      have question : Request.onApplication? (some target) path = some (.application target name) := by
        simp [Request.onApplication?, named]
      rw [question] at answer
      refine Or.inr ⟨?_, ?_⟩
      · rintro _ ⟨⟩
        simp [named]
      · rw [answer, Option.bind_some, named]
        exact (raised_answer e store s op _).imp_right fun refused => ⟨_, refused, rfl⟩

namespace Verdict

/-- Permission ends with status 0 and everything else with 4. -/
theorem status_eq (v : Verdict) : v.status = if v.isAllowed then 0 else 4 := by
  unfold status isAllowed
  rcases v.answer with _ | _ | _ <;> rfl

end Verdict

/-! ### Agreement of the text with the status -/

/-- What is printed agrees with the status: an allowing verdict with 0, a refusing one with 4, and
with any other status nothing is printed. -/
structure Report.Agrees (r : Report) : Prop where
  allowed : r.status = 0 ↔ ∃ output, r.output = some output ∧ Allows output
  denied : r.status = 4 ↔ ∃ output, r.output = some output ∧ Refuses output
  silent : r.status ≠ 0 → r.status ≠ 4 → r.output = none

/-- Whether the text of a verdict lapses: it is about an application, and either the path names none
or the name, which is quoted below a refusal, prints a line of permission. -/
def Lapses (a : Arguments) (v : Verdict) : Prop :=
  a.json = false ∧ ∃ path, a.path? = some path ∧
    (Path.application? path = none ∨ v.isAllowed = false ∧
      ∃ name, Path.application? path = some name ∧ '\n' :: "ALLOW".toList <:+: name.toList)

/-- A printed verdict agrees with its status if it reads as what it is. -/
theorem agrees_printed_iff (output : String) :
    Report.Agrees { status := v.status, output := some output } ↔
      (Allows output ↔ v.isAllowed = true) ∧ (Refuses output ↔ v.isAllowed = false) := by
  have printed : ∀ reads : String → Prop,
      (∃ text, some output = some text ∧ reads text) ↔ reads output := fun reads => by simp
  constructor
  · rintro ⟨allowed, denied, _⟩
    simp only [printed, v.status_eq] at allowed denied
    cases h : v.isAllowed <;> simp_all
  · rintro ⟨allows, refuses⟩
    refine ⟨?_, ?_, ?_⟩ <;> simp only [printed, allows, refuses, v.status_eq] <;>
      cases v.isAllowed <;> simp

/-- A failure before the verdict is silent and ends with a status of its own. -/
theorem agrees_failed {r : Report} {k : FailureKind} (status : r.status = k.exitStatus)
    (undenied : k ≠ .denied) (silent : r.output = none) : r.Agrees := by
  obtain ⟨allowed, denied⟩ := FailureKind.exitStatus_ne undenied
  rw [← status] at allowed denied
  exact ⟨by simp [allowed, silent], by simp [denied, silent], fun _ _ => silent⟩

/-- The text of a verdict reads as what it is, unless it lapses. -/
theorem agrees_judged_iff (h : judge a files env now = .ok v) :
    Report.Agrees { status := v.status, output := some (v.line a.json) } ↔ ¬ Lapses a v := by
  rw [agrees_printed_iff]
  cases form : a.json with
  | true =>
    refine iff_of_true ⟨v.allows_line_json, v.refuses_line_json⟩ fun lapse => ?_
    exact absurd (form.symm.trans lapse.1) (by decide)
  | false =>
    rcases answer_of_judge h with ⟨path, about, unnamed, answer⟩ | ⟨named, answer | ⟨r, answer, quoted⟩⟩
    · -- what was not raised is printed as permission
      have refused : v.isAllowed = false := by rw [Verdict.isAllowed, answer]
      have lapse : Lapses a v := ⟨form, path, about, Or.inl unnamed⟩
      refine iff_of_false (fun agrees => ?_) (not_not_intro lapse)
      have allowed := agrees.1.mp (v.allows_line_text_of_ok answer).1
      rw [refused] at allowed
      cases allowed
    · have allowed : v.isAllowed = true := by rw [Verdict.isAllowed, answer]
      obtain ⟨allows, silent⟩ := v.allows_line_text_of_ok answer
      refine iff_of_true ⟨iff_of_true allows allowed, iff_of_false silent (by simp [allowed])⟩ ?_
      rintro ⟨_, path, about, unnamed | ⟨refused, _⟩⟩
      · exact named path about unnamed
      · exact absurd (allowed.symm.trans refused) (by decide)
    · have refused : v.isAllowed = false := by rw [Verdict.isAllowed, answer]
      obtain ⟨refuses, allows⟩ := v.refuses_line_text_of_error answer
      have quotes : Lapses a v ↔ Allows (v.line false) := by
        rw [allows, quoted]
        constructor
        · rintro ⟨_, path, about, unnamed | ⟨_, name, names, breaks⟩⟩
          · exact absurd unnamed (named path about)
          · exact ⟨name, Option.bind_eq_some_iff.mpr ⟨path, about, names⟩, breaks⟩
        · rintro ⟨name, names, breaks⟩
          obtain ⟨path, about, names⟩ := Option.bind_eq_some_iff.mp names
          exact ⟨form, path, about, Or.inr ⟨refused, name, names, breaks⟩⟩
      rw [quotes]
      simp [refused, refuses]

/-- What the audit prints agrees with the status it ends with, unless the text of its verdict lapses.
-/
theorem report_agrees_iff {args : List String} (help : asksForHelp args = false) :
    (report args files env now).Agrees ↔
      ∀ a v, Arguments.parse args = .ok a → judge a files env now = .ok v → ¬ Lapses a v := by
  unfold report
  rw [if_neg (by simp [help])]
  -- arguments that are refused and judgements that fail say nothing of permission
  cases parsed : Arguments.parse args with
  | error f =>
    have undenied := Arguments.undenied_parseOnto {} args f parsed
    dsimp only [Except.bind]
    refine iff_of_true (agrees_failed rfl undenied rfl) ?_
    rintro _ _ ⟨⟩
  | ok a =>
    dsimp only [Except.bind]
    cases judged : judge a files env now with
    | error f =>
      have undenied := undenied_judge a files env now f judged
      dsimp only [Except.map]
      refine iff_of_true (agrees_failed rfl undenied rfl) ?_
      rintro _ v ⟨⟩ verdict
      rw [judged] at verdict
      cases verdict
    | ok v =>
      dsimp only [Except.map]
      refine (agrees_judged_iff judged).trans ⟨?_, fun sound => sound a v rfl judged⟩
      rintro sound _ _ ⟨⟩ verdict
      rw [judged] at verdict
      exact Except.ok.inj verdict ▸ sound

/-- A world of one player. -/
def onePlayer : FileContent := .text (
  "\x7b\"sites\":[\x7b\"id\":2,\"name\":\"main\"\x7d],\"entities\":[\x7b\"id\":\x7b\"site_id\":2,\"entity_id\":1\x7d,"
    ++ "\"entity_type\":\"player\",\"name\":\"smith\",\"owner\":\x7b\"site_id\":0,\"entity_id\":0\x7d\x7d]\x7d")

/-- Asks whether the player may read from an application of theirs at the given path. -/
def readsAt (path : String) : List String :=
  ["--world", "w", "--requester", "2-1", "--op", "get_application_property", "--target", "2-1",
    "--app", path]

theorem report_agrees_iff_namedPath :
    asksForHelp (readsAt "/chess/board") = false ∧
      (report (readsAt "/chess/board") (fun _ => onePlayer) {} .epoch).output.isSome ∧
      (report (readsAt "/chess/board") (fun _ => onePlayer) {} .epoch).Agrees := by
  refine ⟨by decide, by decide +kernel, (report_agrees_iff (by decide)).mpr ?_⟩
  rintro a v parsed - ⟨_, path, about, lapse⟩
  have asked : (Arguments.parse (readsAt "/chess/board")).map Arguments.path? =
      .ok (some "/chess/board") := by rfl
  have named : Path.application? "/chess/board" = some "chess" := by decide
  rw [parsed] at asked
  obtain rfl := Option.some.inj ((Except.ok.inj asked).symm.trans about)
  rw [named] at lapse
  rcases lapse with unnamed | ⟨_, name, names, breaks⟩
  · cases unnamed
  · obtain rfl := Option.some.inj names
    exact absurd (breaks.mem List.mem_cons_self) (by decide)

/-- A path that names no application is refused, and printed as permission. -/
theorem namelessPath_lapse :
    asksForHelp (readsAt "/") = false ∧
      ¬ (report (readsAt "/") (fun _ => onePlayer) {} .epoch).Agrees := by
  refine ⟨by decide, fun agrees => ?_⟩
  obtain ⟨output, status⟩ : (report (readsAt "/") (fun _ => onePlayer) {} .epoch).output =
        some "ALLOW get_application_property (capabilities: )" ∧
      (report (readsAt "/") (fun _ => onePlayer) {} .epoch).status = 4 := by
    decide +kernel
  have allowed := agrees.allowed.mpr ⟨_, output, Or.inl (Or.inl (by decide))⟩
  rw [status] at allowed
  cases allowed

end Audit

end WorldAccess
