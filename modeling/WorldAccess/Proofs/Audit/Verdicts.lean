import WorldAccess.Audit.Report
import WorldAccess.Proofs.Json.RoundTrip

/-!
# What the line of a verdict says

A verdict is printed as text, whose line begins with a word for the outcome, or as JSON with the
outcome under a name. As JSON it says what the verdict is. As text, permission and a refusal that is
not raised read the same; and a refusal quotes the name of an application as it was given, line
breaks included.

## Main definitions

* `Audit.HasLine`, `Audit.SaysAllowed` — what a printed text says
* `Audit.Allows`, `Audit.Refuses` — the text is an allowing or a refusing verdict

## Main results

* `Refusal.breaks_message_iff` — a line break in a message comes from the application's name
* `Audit.Verdict.allows_line_json`, `Audit.Verdict.refuses_line_json` — a verdict as JSON
* `Audit.Verdict.allows_line_text_of_ok`, `Audit.Verdict.refuses_line_text_of_error` — a verdict as
  text
-/

namespace WorldAccess

/-! ### Lines of a text -/

section Lines

variable {word before text after : List Char}

/-- A line that begins after text without a line break begins in what comes later. -/
theorem breaks_append_left (h : '\n' ∉ before) :
    '\n' :: word <:+: before ++ text ↔ '\n' :: word <:+: text := by
  refine ⟨fun found => ?_, List.infix_append_of_infix_right⟩
  rcases List.infix_append_iff_ne_nil.mp found with inside | later | ⟨a, b, ne, _, form, suffix, _⟩
  · exact absurd (inside.mem List.mem_cons_self) h
  · exact later
  · -- the line break itself would be in the first part
    obtain ⟨c, cs, rfl⟩ := List.exists_cons_of_ne_nil ne
    obtain ⟨rfl, _⟩ := List.cons.inj form
    exact absurd (suffix.mem List.mem_cons_self) h

/-- A line that begins with a word before text without a line break begins in what comes earlier, if
the text does not go on with a letter of the word. -/
theorem breaks_append_right (h : '\n' ∉ after) (apart : ∀ c ∈ after.head?, c ∉ word) :
    '\n' :: word <:+: text ++ after ↔ '\n' :: word <:+: text := by
  refine ⟨fun found => ?_, fun found => found.trans List.infix_append_left⟩
  rcases List.infix_append_iff_ne_nil.mp found with earlier | inside | ⟨a, b, ne, ne', form, _, pre⟩
  · exact earlier
  · exact absurd (inside.mem List.mem_cons_self) h
  · -- the word would go on into the text after
    obtain ⟨d, ds, rfl⟩ := List.exists_cons_of_ne_nil ne'
    obtain ⟨rest, rfl⟩ := pre
    obtain ⟨c, cs, rfl⟩ := List.exists_cons_of_ne_nil ne
    obtain ⟨_, rfl⟩ := List.cons.inj form
    exact absurd (List.mem_append_right cs List.mem_cons_self) (apart d rfl)

end Lines

/-! ### Words without line breaks -/

/-- Texts without line breaks make a text without one. -/
theorem newline_not_mem_append {a b : String} (ha : '\n' ∉ a.toList) (hb : '\n' ∉ b.toList) :
    '\n' ∉ (a ++ b).toList := by
  rw [String.toList_append, List.mem_append, not_or]
  exact ⟨ha, hb⟩

theorem newline_not_mem_intercalate {separator : String} {words : List String}
    (h : '\n' ∉ separator.toList) (hs : ∀ word ∈ words, '\n' ∉ word.toList) :
    '\n' ∉ (separator.intercalate words).toList := by
  induction words with
  | nil => simp
  | cons word rest ih =>
    have first : '\n' ∉ word.toList := hs word List.mem_cons_self
    have others := ih fun other among => hs other (List.mem_cons_of_mem word among)
    by_cases last : rest = []
    · rw [last, String.intercalate_singleton]
      exact first
    · rw [String.intercalate_cons_of_ne_nil last]
      exact newline_not_mem_append (newline_not_mem_append first h) others

theorem Operation.newline_not_mem_word (op : Operation) : '\n' ∉ op.word.toList := by
  cases op <;> decide

theorem Kind.newline_not_mem_word (k : Kind) : '\n' ∉ k.word.toList := by
  cases k <;> decide

theorem Field.newline_not_mem_word (f : Field) : '\n' ∉ f.word.toList := by
  cases f <;> decide

theorem Capability.newline_not_mem_entityName (c : Capability) : '\n' ∉ c.entityName.toList := by
  cases c <;> decide

theorem EntityId.newline_not_mem_render (id : EntityId) : '\n' ∉ id.render.toList := by
  have digits : ∀ n, '\n' ∉ Text.decimal n := by
    intro n among
    cases Text.isDigit_of_mem_decimal among
  simp [render, digits]

namespace Refusal

variable (r : Refusal)

theorem newline_not_mem_part {α : Type} {value : Option α} {text : α → String}
    (h : ∀ a, '\n' ∉ (text a).toList) : '\n' ∉ (part value text).toList := by
  cases value with
  | none => simp [part]
  | some a => exact h a

/-- A message without what it quotes, up to the application's name. -/
def lead : String :=
  "security violation: " ++ r.operation.word ++ " denied for requester " ++ r.requester.render
    ++ (if r.program.isValid then " via program " ++ r.program.render else "")
    ++ part r.target (fun id => " on " ++ id.render)
    ++ part r.moved (fun id => " moving " ++ id.render)

/-- What a message says after the application's name. -/
def trail : String :=
  part r.field (fun f => " field " ++ f.word) ++ part r.kind (fun k => " type " ++ k.word)

theorem message_eq : r.message =
    r.lead ++ (part r.application (fun name => " application '" ++ name ++ "'") ++ r.trail) := by
  unfold message lead trail
  rw [String.append_assoc, String.append_assoc]

theorem newline_not_mem_lead : '\n' ∉ r.lead.toList := by
  have named : ∀ (word : String) (id : EntityId), '\n' ∉ word.toList →
      '\n' ∉ (word ++ id.render).toList :=
    fun _ id h => newline_not_mem_append h id.newline_not_mem_render
  unfold lead
  refine newline_not_mem_append (newline_not_mem_append (newline_not_mem_append
    (newline_not_mem_append (newline_not_mem_append (newline_not_mem_append ?_ ?_) ?_) ?_) ?_) ?_) ?_
  · decide
  · exact r.operation.newline_not_mem_word
  · decide
  · exact r.requester.newline_not_mem_render
  · split
    · exact named _ _ (by decide)
    · decide
  · exact newline_not_mem_part fun id => named _ id (by decide)
  · exact newline_not_mem_part fun id => named _ id (by decide)

theorem newline_not_mem_trail : '\n' ∉ r.trail.toList := by
  unfold trail
  refine newline_not_mem_append ?_ ?_
  · exact newline_not_mem_part fun f =>
      newline_not_mem_append (by decide) f.newline_not_mem_word
  · exact newline_not_mem_part fun k =>
      newline_not_mem_append (by decide) k.newline_not_mem_word

/-- A line of a message that begins with a word, the first line apart, is one of the application's
name. -/
theorem breaks_message_iff {word : List Char} (quote : '\'' ∉ word) :
    '\n' :: word <:+: r.message.toList ↔
      ∃ name, r.application = some name ∧ '\n' :: word <:+: name.toList := by
  rw [message_eq, String.toList_append, breaks_append_left r.newline_not_mem_lead,
    String.toList_append]
  cases r.application with
  | none =>
    rw [part, String.toList_empty, List.nil_append]
    simp only [reduceCtorEq, false_and, exists_false, iff_false]
    exact fun found => r.newline_not_mem_trail (found.mem List.mem_cons_self)
  | some name =>
    have closing : '\n' ∉ ("'".toList ++ r.trail.toList) := by
      rw [List.mem_append, not_or]
      exact ⟨by decide, r.newline_not_mem_trail⟩
    rw [part, String.toList_append, String.toList_append, List.append_assoc, List.append_assoc,
      breaks_append_left (by decide), breaks_append_right closing]
    · simp
    · rintro c ⟨⟩
      exact quote

theorem isPlain_toJson : r.toJson.IsPlain := by
  have ids : ∀ id : EntityId, id.toJson.IsPlain := by
    intro id
    refine Json.isPlain_record fun m hm => ?_
    simp only [List.mem_cons, List.not_mem_nil, or_false] at hm
    rcases hm with rfl | rfl
    · exact Json.isPlain_nat _
    · exact Json.isPlain_nat _
  refine Json.isPlain_record fun m hm => ?_
  simp only [List.mem_cons, List.not_mem_nil, or_false] at hm
  rcases hm with rfl | rfl | rfl | rfl | rfl | rfl | rfl | rfl
  · exact Json.isPlain_text _
  · exact ids r.requester
  · exact ids r.program
  · exact Json.isPlain_option ids r.target
  · exact Json.isPlain_option ids r.moved
  · exact Json.isPlain_option Json.isPlain_text r.application
  · exact Json.isPlain_option (fun f => Json.isPlain_text f.word) r.field
  · exact Json.isPlain_option (fun k => Json.isPlain_text k.word) r.kind

end Refusal

/-! ### Printed verdicts -/

namespace Audit

/-- Whether a line of a printed text begins with a word. -/
def HasLine (word output : String) : Prop :=
  word.toList <+: output.toList ∨ '\n' :: word.toList <:+: output.toList

/-- Whether a printed text is JSON with the given value under `allowed`. -/
def SaysAllowed (output : String) (allowed : Bool) : Prop :=
  (Json.parse? output).bind (·.member? "allowed") = some (.bool allowed)

/-- Whether a printed text is an allowing verdict. -/
def Allows (output : String) : Prop := HasLine "ALLOW" output ∨ SaysAllowed output true

/-- Whether a printed text is a refusing verdict. -/
def Refuses (output : String) : Prop := HasLine "DENY" output ∨ SaysAllowed output false

/-- A text without line breaks has a line of a word only at its beginning. -/
theorem hasLine_iff_of_newline_not_mem {word output : String} (h : '\n' ∉ output.toList) :
    HasLine word output ↔ word.toList <+: output.toList := by
  refine ⟨fun has => has.resolve_right fun found => ?_, Or.inl⟩
  exact h (found.mem List.mem_cons_self)

namespace Verdict

variable (v : Verdict)

/-- Whether the verdict is permission. -/
def isAllowed : Bool :=
  match v.answer with
  | .ok allowed => allowed
  | .error _ => false

/-- As JSON, a verdict is a plain object that says whether it is permission. -/
theorem exists_line_json : ∃ members, v.line true = (Json.object members).line ∧
    (Json.object members).IsPlain ∧
    (Json.object members).member? "allowed" = some (.bool v.isAllowed) := by
  unfold line isAllowed
  cases v.answer with
  | ok allowed =>
    refine ⟨_, rfl, Json.isPlain_sorted (Json.isPlain_record fun m hm => ?_), ?_⟩
    · simp only [List.mem_cons, List.not_mem_nil, or_false] at hm
      rcases hm with rfl | rfl | rfl
      · exact Json.isPlain_text _
      · trivial
      · exact Json.isPlain_list Json.isPlain_text _
    · simp [Json.sortedMembers, Json.insertMember, Json.member?, Json.sorted]
  | error r =>
    refine ⟨_, rfl, Json.isPlain_sorted (Json.isPlain_record fun m hm => ?_), ?_⟩
    · simp only [List.mem_cons, List.not_mem_nil, or_false] at hm
      rcases hm with rfl | rfl | rfl | rfl
      · exact Json.isPlain_text _
      · trivial
      · exact r.isPlain_toJson
      · exact Json.isPlain_text _
    · simp [Json.sortedMembers, Json.insertMember, Json.member?, Json.sorted]

theorem saysAllowed_line_json {allowed : Bool} :
    SaysAllowed (v.line true) allowed ↔ v.isAllowed = allowed := by
  obtain ⟨members, line, plain, told⟩ := v.exists_line_json
  rw [SaysAllowed, line, Json.parse?_line plain, Option.bind_some, told]
  simp

/-- As JSON, a verdict has no line that begins with a letter. -/
theorem not_hasLine_json {word : String} {c : Char} {cs : List Char}
    (form : word.toList = c :: cs) (letter : c ≠ '\x7b') : ¬ HasLine word (v.line true) := by
  obtain ⟨members, line, plain, _⟩ := v.exists_line_json
  have text : (v.line true).toList = '\x7b' :: Json.compactMembers members := by
    rw [line, Json.line, String.toList_ofList, Json.compact]
  have single : '\n' ∉ (v.line true).toList := by
    rw [line, Json.line, String.toList_ofList]
    exact Json.newline_not_mem_compact plain
  rw [hasLine_iff_of_newline_not_mem single, text, form, List.cons_prefix_cons]
  exact fun begins => letter begins.1

/-- As JSON, permission allows and nothing else does. -/
theorem allows_line_json : Allows (v.line true) ↔ v.isAllowed = true := by
  have silent : ¬ HasLine "ALLOW" (v.line true) := v.not_hasLine_json rfl (by decide)
  rw [Allows, saysAllowed_line_json]
  exact or_iff_right silent

/-- As JSON, everything but permission refuses. -/
theorem refuses_line_json : Refuses (v.line true) ↔ v.isAllowed = false := by
  have silent : ¬ HasLine "DENY" (v.line true) := v.not_hasLine_json rfl (by decide)
  rw [Refuses, saysAllowed_line_json]
  exact or_iff_right silent

/-- As text, what is not raised reads as permission, whichever it is. -/
theorem line_text_of_ok {allowed : Bool} (h : v.answer = .ok allowed) :
    "ALLOW ".toList <+: (v.line false).toList ∧ '\n' ∉ (v.line false).toList := by
  unfold line
  rw [h]
  constructor
  · simp only [String.append_assoc, String.toList_append]
    exact List.prefix_append _ _
  · have names : '\n' ∉
        (", ".intercalate (v.capabilities.map Capability.entityName)).toList := by
      refine newline_not_mem_intercalate (by decide) fun word among => ?_
      obtain ⟨c, _, rfl⟩ := List.mem_map.mp among
      exact c.newline_not_mem_entityName
    refine newline_not_mem_append (newline_not_mem_append (newline_not_mem_append
      (newline_not_mem_append (by decide) ?_) (by decide)) names) (by decide)
    exact v.operation.newline_not_mem_word

/-- As text, a raised refusal reads as one, with its message. -/
theorem line_text_of_error {r : Refusal} (h : v.answer = .error r) :
    (v.line false).toList = "DENY ".toList ++ r.message.toList := by
  unfold line
  rw [h]
  exact String.toList_append

/-- What begins with one of these letters is no JSON. -/
theorem not_saysAllowed_of_letter {output : String} {c : Char} {cs : List Char}
    (form : output.toList = c :: cs) (letter : c = 'A' ∨ c = 'D') (allowed : Bool) :
    ¬ SaysAllowed output allowed := by
  have unread : Json.parse? output = none := by
    refine Json.parse?_of_letter form ?_ ?_
    · rcases letter with rfl | rfl <;> decide
    · rcases letter with rfl | rfl <;> rfl
  rw [SaysAllowed, unread]
  simp

/-- As text, what is not raised allows and does not refuse. -/
theorem allows_line_text_of_ok {allowed : Bool} (h : v.answer = .ok allowed) :
    Allows (v.line false) ∧ ¬ Refuses (v.line false) := by
  obtain ⟨⟨rest, form⟩, single⟩ := v.line_text_of_ok h
  have begins : "ALLOW".toList <+: (v.line false).toList := by
    rw [← form]
    exact ⟨' ' :: rest, rfl⟩
  refine ⟨Or.inl (Or.inl begins), ?_⟩
  rintro (has | told)
  · rw [hasLine_iff_of_newline_not_mem single, ← form] at has
    exact absurd (List.cons_prefix_cons.mp has).1 (by decide)
  · exact not_saysAllowed_of_letter form.symm (Or.inl rfl) false told

/-- As text, a raised refusal refuses. It allows as well if a line of the application's name, the
first apart, begins with the word for permission. -/
theorem refuses_line_text_of_error {r : Refusal} (h : v.answer = .error r) :
    Refuses (v.line false) ∧ (Allows (v.line false) ↔
      ∃ name, r.application = some name ∧ '\n' :: "ALLOW".toList <:+: name.toList) := by
  have form := v.line_text_of_error h
  have begins : "DENY".toList <+: (v.line false).toList := by
    rw [form]
    exact ⟨' ' :: r.message.toList, rfl⟩
  have breaks : '\n' :: "ALLOW".toList <:+: (v.line false).toList ↔
      ∃ name, r.application = some name ∧ '\n' :: "ALLOW".toList <:+: name.toList := by
    rw [form, breaks_append_left (by decide)]
    exact r.breaks_message_iff (by decide)
  refine ⟨Or.inl (Or.inl begins), ?_⟩
  rw [← breaks]
  constructor
  · rintro ((first | later) | told)
    · rw [form] at first
      exact absurd (List.cons_prefix_cons.mp first).1 (by decide)
    · exact later
    · exact absurd told (not_saysAllowed_of_letter form (Or.inr rfl) true)
  · exact fun later => Or.inl (Or.inr later)

end Verdict

end Audit

end WorldAccess
