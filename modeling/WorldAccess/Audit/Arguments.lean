import WorldAccess.Engine.Operation
import WorldAccess.Entity.Id
import WorldAccess.Entity.Kind
import WorldAccess.Failure

/-!
# Arguments of the audit

The audit is asked one question by its arguments. They are read from the left; a repeated one counts
as it was given last, and the first fault ends the reading.

## Main definitions

* `Audit.Arguments`, `Audit.Arguments.parse`
* `Audit.usage` — the usage text
-/

namespace WorldAccess.Audit

/-- What the audit is asked. -/
structure Arguments where
  world : Option String := none
  config : Option String := none
  requester : Option EntityId := none
  program : EntityId := .none
  runAs : Bool := false
  operation : Option Operation := none
  target : Option EntityId := none
  source : Option EntityId := none
  application : Option String := none
  field : Option Field := none
  kind : Option Kind := none
  json : Bool := false

/-- The arguments that stand alone. -/
inductive Switch where
  | runAs
  | json

/-- The arguments that take a value. -/
inductive Setting where
  | world
  | config
  | requester
  | program
  | operation
  | target
  | source
  | application
  | field
  | kind

/-- What an argument is. -/
def flag? : String → Option (Switch ⊕ Setting)
  | "--run-as" => some (.inl .runAs)
  | "--json" => some (.inl .json)
  | "--world" => some (.inr .world)
  | "--config" => some (.inr .config)
  | "--requester" => some (.inr .requester)
  | "--program" => some (.inr .program)
  | "--op" => some (.inr .operation)
  | "--target" => some (.inr .target)
  | "--source" => some (.inr .source)
  | "--app" => some (.inr .application)
  | "--field" => some (.inr .field)
  | "--type" => some (.inr .kind)
  | _ => none

/-- The failure of an argument that is none. -/
def unknownFlag (text : String) : Failure :=
  ⟨.userInput, "unknown_flag", "unknown argument '" ++ text ++ "'"⟩

/-- The failure of an argument without its value. -/
def missingValue (flag : String) : Failure :=
  ⟨.userInput, "missing_value", flag ++ " requires a value"⟩

/-- The failure of an argument with a value that cannot be read. -/
def badValue (flag value cause : String) : Failure :=
  ⟨.userInput, "bad_value", flag ++ " '" ++ value ++ "': " ++ cause⟩

/-- Reads an id as the value of an argument. -/
def readId (flag value : String) : Except Failure EntityId :=
  (EntityId.parse value).mapError fun e => badValue flag value e.message

namespace Arguments

/-- Puts the value of a setting in. -/
def set (a : Arguments) (setting : Setting) (flag value : String) : Except Failure Arguments :=
  match setting with
  | .world => .ok { a with world := some value }
  | .config => .ok { a with config := some value }
  | .requester => (readId flag value).map fun id => { a with requester := some id }
  | .program => (readId flag value).map fun id => { a with program := id }
  | .target => (readId flag value).map fun id => { a with target := some id }
  | .source => (readId flag value).map fun id => { a with source := some id }
  | .application => .ok { a with application := some value }
  | .operation =>
    match Operation.parse value with
    | .ok op => .ok { a with operation := some op }
    | .error cause => .error (badValue flag value cause)
  | .field =>
    match Field.parse value with
    | .ok f => .ok { a with field := some f }
    | .error cause => .error (badValue flag value cause)
  | .kind =>
    match Kind.parse value with
    | .ok k => .ok { a with kind := some k }
    | .error cause => .error (badValue flag value cause)

/-- Puts a switch in. -/
def turnOn (a : Arguments) : Switch → Arguments
  | .runAs => { a with runAs := true }
  | .json => { a with json := true }

/-- Reads arguments onto those before them. -/
def parseOnto (a : Arguments) : List String → Except Failure Arguments
  | [] => .ok a
  | [flag] =>
    match flag? flag with
    | some (.inl switch) => .ok (a.turnOn switch)
    | some (.inr _) => .error (missingValue flag)
    | none => .error (unknownFlag flag)
  | flag :: value :: rest =>
    match flag? flag with
    | some (.inl switch) => (a.turnOn switch).parseOnto (value :: rest)
    | some (.inr setting) => do
      let a ← a.set setting flag value
      a.parseOnto rest
    | none => .error (unknownFlag flag)

/-- Reads the arguments of an audit. -/
def parse (args : List String) : Except Failure Arguments := ({} : Arguments).parseOnto args

end Arguments

/-- Whether help is asked for, at whatever place. -/
def asksForHelp (args : List String) : Bool := args.any fun a => a == "--help" || a == "-h"

/-- The usage text for a program of the given name. -/
def usage (program : String) : String :=
  "Usage:\n  " ++ program
    ++ " --world <snapshot.json> --requester <site-id> --op <operation> [options]\n"
    ++ "\nOptions:\n"
    ++ "  --config <security.json>   security config (defaults when missing)\n"
    ++ "  --program <site-id>        program acting for the requester\n"
    ++ "  --run-as                   program runs with the requester's rights\n"
    ++ "  --target <site-id>         target entity (destination for transfer_entity)\n"
    ++ "  --source <site-id>         second entity (entity being moved for transfer_entity)\n"
    ++ "  --app <name|/path>         application scope\n"
    ++ "  --field <field>            entity field scope\n"
    ++ "  --type <entity_type>       entity type (create_entity)\n"
    ++ "  --json                     print the verdict as JSON\n"
    ++ "\nExamples:\n  " ++ program
    ++ " --world world.json --requester 2-5 --op get_entity_field --target 2-9 --field note\n  "
    ++ program
    ++ " --world world.json --requester 2-5 --op transfer_entity --target 2-3 --source 2-9"

end WorldAccess.Audit
